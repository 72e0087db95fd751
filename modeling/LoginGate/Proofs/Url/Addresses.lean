import LoginGate.Proofs.Checks
import LoginGate.Proofs.Text.Numerals
import LoginGate.Url.Address
import Mathlib.Algebra.Group.Nat.Defs

/-!
# Addresses that are shown

An address of 32 bits is read back from its four bytes in decimal (`ipv4?_ipv4Text`), and a name
that is one ends in a number (`endsInNumber_ipv4Text`).  An address of 128 bits is shown with a
colon (`colon_mem_ipv6Text`), which no other host holds.
-/

namespace LoginGate.Url

open LoginGate.Text

theorem join_ne_nil {sep : List Char} {l : List (List Char)} (hl : l ≠ []) (h : ∀ s ∈ l, s ≠ []) :
    join sep l ≠ [] := by
  match l, hl with
  | [s], _ => exact h s List.mem_cons_self
  | s :: t :: rest, _ =>
    show s ++ sep ++ join sep (t :: rest) ≠ []
    exact List.append_ne_nil_of_left_ne_nil (List.append_ne_nil_of_left_ne_nil
      (h s List.mem_cons_self) _) _

/-! ## Addresses of 32 bits -/

theorem foldl_bytes_lt {bytes : List Nat} (h : ∀ b ∈ bytes, b < 256) (n : Nat) :
    bytes.foldl (fun n b => n * 256 + b) n < (n + 1) * 256 ^ bytes.length := by
  induction bytes generalizing n with
  | nil => simp
  | cons b bytes ih =>
    have hb := h b List.mem_cons_self
    have hfold := ih (fun c hc => h c (List.mem_cons_of_mem b hc)) (n * 256 + b)
    have hle : (n * 256 + b + 1) * 256 ^ bytes.length ≤ (n + 1) * 256 * 256 ^ bytes.length :=
      Nat.mul_le_mul_right _ (by omega)
    rw [List.foldl_cons, List.length_cons, Nat.pow_succ']
    rw [Nat.mul_assoc] at hle
    omega

theorem lt_of_ipv4? {s : List Char} {n : Nat} (h : ipv4? s = some n) : n < 2 ^ 32 := by
  unfold ipv4? at h
  dsimp only at h
  split at h
  · cases h
  · rename_i hparts
    obtain ⟨numbers, hnumbers, h⟩ := Option.bind_eq_some_iff.1 h
    obtain ⟨last, hlast, h⟩ := Option.bind_eq_some_iff.1 h
    obtain ⟨⟨hbytes, hlt⟩, h⟩ := Option.ite_none_right_eq_some.1 h
    obtain rfl := Option.some.inj h
    have hlength := (mapM_eq_some_iff_forall₂.1 hnumbers).length_eq
    have hbound := foldl_bytes_lt (fun b hb => by simpa using List.all_eq_true.1 hbytes b hb) 0
    have hcount : numbers.dropLast.length ≤ 4 := by
      rw [List.length_dropLast]
      omega
    generalize numbers.dropLast.foldl (fun n b => n * 256 + b) 0 = lead at hbound ⊢
    generalize numbers.dropLast.length = count at hbound hcount hlt ⊢
    rw [Nat.zero_add, Nat.one_mul] at hbound
    calc lead * 256 ^ (4 - count) + last
      _ < lead * 256 ^ (4 - count) + 256 ^ (4 - count) := Nat.add_lt_add_left hlt _
      _ = (lead + 1) * 256 ^ (4 - count) := (Nat.succ_mul _ _).symm
      _ ≤ 256 ^ count * 256 ^ (4 - count) := Nat.mul_le_mul_right _ hbound
      _ = 256 ^ 4 := by rw [← Nat.pow_add, Nat.add_sub_cancel' hcount]
      _ = 2 ^ 32 := rfl

/-- The four bytes of an address. -/
def bytesOf (n : Nat) : List Nat := [n / 0x1000000, n / 0x10000 % 256, n / 0x100 % 256, n % 256]

theorem ipv4Text_ne_nil (n : Nat) : ipv4Text n ≠ [] :=
  join_ne_nil (List.cons_ne_nil _ _) fun s hs => by
    obtain ⟨m, -, rfl⟩ := List.mem_map.1 hs
    exact decimal_ne_nil m

theorem pieces_ipv4Text (n : Nat) : pieces '.' (ipv4Text n) = (bytesOf n).map decimal := by
  refine pieces_join (by simp) fun s hs => ?_
  obtain ⟨m, -, rfl⟩ := List.mem_map.1 hs
  exact not_mem_of_digits (fun c hc => isDigit_of_mem_decimal hc) rfl

theorem addressPieces_ipv4Text (n : Nat) :
    addressPieces (ipv4Text n) = (bytesOf n).map decimal := by
  unfold addressPieces
  rw [pieces_ipv4Text]
  refine if_neg fun h => decimal_ne_nil (n % 256) (Option.some.inj h.2)

theorem addressNumber?_decimal (n : Nat) : addressNumber? (decimal n) = some n := by
  unfold addressNumber?
  split
  · rename_i hzero
    cases n with
    | zero => rfl
    | succ n => exact absurd (congrArg List.head? hzero) (head?_decimal_ne (Nat.succ_pos n))
  · rename_i x rest hpadded
    exact absurd hpadded (decimal_ne_padded n x rest)
  · exact decimalValue?_decimal n

/-- An address is read back. -/
theorem ipv4?_ipv4Text {n : Nat} (h : n < 2 ^ 32) : ipv4? (ipv4Text n) = some n := by
  have hnumbers : ((bytesOf n).map decimal).mapM addressNumber? = some (bytesOf n) := by
    rw [mapM_eq_some_iff_forall₂, List.forall₂_map_left_iff, List.forall₂_same]
    exact fun m _ => addressNumber?_decimal m
  have hlast : n % 256 < Nat.pow 256 (4 - 3) := Nat.mod_lt n (by decide)
  unfold ipv4?
  rw [addressPieces_ipv4Text]
  dsimp only
  rw [if_neg (by simp [bytesOf]), hnumbers]
  show (if ([n / 0x1000000, n / 0x10000 % 256, n / 0x100 % 256].all fun b => decide (b < 256)) =
      true ∧ n % 256 < Nat.pow 256 (4 - 3) then
    some ((((0 * 256 + n / 0x1000000) * 256 + n / 0x10000 % 256) * 256 + n / 0x100 % 256) *
      Nat.pow 256 (4 - 3) + n % 256) else none) = some n
  have hbytes : ([n / 0x1000000, n / 0x10000 % 256, n / 0x100 % 256].all
      fun b => decide (b < 256)) = true := by
    simp only [List.all_cons, List.all_nil, Bool.and_true, Bool.and_eq_true, decide_eq_true_eq]
    omega
  have hpow : Nat.pow 256 (4 - 3) = 256 := rfl
  rw [if_pos ⟨hbytes, hlast⟩, hpow, Option.some.injEq]
  omega

theorem endsInNumber_ipv4Text (n : Nat) : endsInNumber (ipv4Text n) = true := by
  unfold endsInNumber
  rw [addressPieces_ipv4Text]
  show (!(decimal (n % 256)).isEmpty && (decimal (n % 256)).all isDigit ||
    (addressNumber? (decimal (n % 256))).isSome) = true
  rw [addressNumber?_decimal, Option.isSome_some, Bool.or_true]

/-- An address consists of digits and full stops. -/
theorem isDigit_of_mem_ipv4Text {n : Nat} {c : Char} (hc : c ∈ ipv4Text n) :
    isDigit c = true ∨ c = '.' := by
  rcases mem_of_mem_join hc with hc | ⟨s, hs, hc⟩
  · exact Or.inr (List.mem_singleton.1 hc)
  · obtain ⟨m, -, rfl⟩ := List.mem_map.1 hs
    exact Or.inl (isDigit_of_mem_decimal hc)

/-! ## Addresses of 128 bits -/

theorem length_of_ipv6? {s : List Char} {l : List Nat} (h : ipv6? s = some l) : l.length = 8 := by
  unfold ipv6? at h
  split at h
  · exact eq_of_beq (Option.filter_eq_some_iff.1 h).2
  · obtain ⟨lead, -, h⟩ := Option.bind_eq_some_iff.1 h
    obtain ⟨tail, -, h⟩ := Option.bind_eq_some_iff.1 h
    split at h
    · obtain rfl := Option.some.inj h
      simp only [List.length_append, List.length_replicate]
      omega
    · cases h

/-- An address of 128 bits is shown with a colon. -/
theorem colon_mem_ipv6Text {l : List Nat} (h : l.length = 8) : ':' ∈ ipv6Text l := by
  unfold ipv6Text
  split
  · exact List.mem_append_left _ (by decide)
  · dsimp only
    split
    · match l, h with
      | a :: b :: rest, _ => simp [hexPieces, join_cons_of_ne_nil]
    · simp

theorem ipv6Text_ne_nil {l : List Nat} (h : l.length = 8) : ipv6Text l ≠ [] :=
  List.ne_nil_of_mem (colon_mem_ipv6Text h)

end LoginGate.Url
