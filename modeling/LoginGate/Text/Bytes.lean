/-!
# Texts as bytes

`utf8` gives the bytes of characters.  A byte below 128 is a character of its own
(`eq_of_mem_utf8EncodeChar`), so characters of ASCII are found among the bytes of a text exactly
where they stand in it.
-/

namespace LoginGate.Text

def utf8 (s : List Char) : List UInt8 := s.flatMap String.utf8EncodeChar

/-- The bytes of a text. -/
def textBytes (s : String) : List UInt8 := utf8 s.toList

@[simp] theorem utf8_nil : utf8 [] = [] := rfl

@[simp] theorem utf8_cons (c : Char) (s : List Char) :
    utf8 (c :: s) = String.utf8EncodeChar c ++ utf8 s := rfl

@[simp] theorem utf8_append (s t : List Char) : utf8 (s ++ t) = utf8 s ++ utf8 t :=
  List.flatMap_append

theorem utf8EncodeChar_of_lt {c : Char} (h : c.toNat < 128) :
    String.utf8EncodeChar c = [UInt8.ofNat c.toNat] := by
  have hc : c.val.toNat ≤ 127 := Nat.le_of_lt_succ h
  simp only [String.utf8EncodeChar, hc, if_true]
  rfl

/-- A character outside of ASCII has no byte of ASCII. -/
theorem le_of_mem_utf8EncodeChar {c : Char} (h : 128 ≤ c.toNat) {b : UInt8}
    (hb : b ∈ String.utf8EncodeChar c) : 128 ≤ b.toNat := by
  have hc : ¬ c.val.toNat ≤ 127 := by
    have : c.val.toNat = c.toNat := rfl
    omega
  unfold String.utf8EncodeChar at hb
  simp only [hc, if_false] at hb
  split at hb
  · simp only [List.mem_cons, List.not_mem_nil, or_false] at hb
    rcases hb with rfl | rfl <;> simp only [UInt8.toNat_ofNat'] <;> omega
  · split at hb
    · simp only [List.mem_cons, List.not_mem_nil, or_false] at hb
      rcases hb with rfl | rfl | rfl <;> simp only [UInt8.toNat_ofNat'] <;> omega
    · simp only [List.mem_cons, List.not_mem_nil, or_false] at hb
      rcases hb with rfl | rfl | rfl | rfl <;> simp only [UInt8.toNat_ofNat'] <;> omega

theorem utf8EncodeChar_ne_nil (c : Char) : String.utf8EncodeChar c ≠ [] := by
  unfold String.utf8EncodeChar
  dsimp only
  repeat' split
  all_goals exact List.cons_ne_nil _ _

/-- A byte of ASCII comes from the character with its number. -/
theorem eq_of_mem_utf8EncodeChar {c d : Char} (hd : d.toNat < 128)
    (h : UInt8.ofNat d.toNat ∈ String.utf8EncodeChar c) : c = d := by
  have hb : (UInt8.ofNat d.toNat).toNat = d.toNat := by
    rw [UInt8.toNat_ofNat']
    omega
  rcases Nat.lt_or_ge c.toNat 128 with hc | hc
  · rw [utf8EncodeChar_of_lt hc, List.mem_singleton] at h
    have hn : c.toNat = d.toNat := by
      rw [← hb, h, UInt8.toNat_ofNat']
      omega
    rw [← Char.ofNat_toNat c, hn, Char.ofNat_toNat]
  · have := le_of_mem_utf8EncodeChar hc h
    omega

theorem mem_utf8_iff {d : Char} (hd : d.toNat < 128) (s : List Char) :
    UInt8.ofNat d.toNat ∈ utf8 s ↔ d ∈ s := by
  unfold utf8
  rw [List.mem_flatMap]
  constructor
  · rintro ⟨c, hc, hb⟩
    rwa [← eq_of_mem_utf8EncodeChar hd hb]
  · intro h
    exact ⟨d, h, by rw [utf8EncodeChar_of_lt hd]; exact List.mem_singleton.2 rfl⟩

theorem utf8_injective {s t : List Char} (h : utf8 s = utf8 t) : s = t := by
  have hb : (String.ofList s).toByteArray = (String.ofList t).toByteArray := by
    show s.utf8Encode = t.utf8Encode
    rw [List.utf8Encode, List.utf8Encode]
    exact congrArg List.toByteArray h
  exact String.ofList_injective (String.toByteArray_inj.1 hb)

theorem textBytes_injective {s t : String} (h : textBytes s = textBytes t) : s = t :=
  String.toList_injective (utf8_injective h)

/-- Bytes are decoded into the text that they are the bytes of. -/
theorem fromUTF8?_eq_some_iff {bytes : ByteArray} {s : String} :
    String.fromUTF8? bytes = some s ↔ s.toUTF8 = bytes := by
  rw [String.fromUTF8?]
  split
  · rw [Option.some_inj]
    exact ⟨fun h => h ▸ rfl, fun h => by subst h; rfl⟩
  next h => exact ⟨nofun, fun hs => absurd (hs ▸ s.isValidUTF8) h⟩

theorem fromUTF8?_utf8 (s : List Char) :
    String.fromUTF8? ⟨(utf8 s).toArray⟩ = some (String.ofList s) := by
  rw [fromUTF8?_eq_some_iff]
  show s.utf8Encode = _
  rw [List.utf8Encode]
  exact ByteArray.ext List.data_toByteArray

end LoginGate.Text
