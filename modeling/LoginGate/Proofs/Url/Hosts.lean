import LoginGate.Proofs.Url.Addresses
import LoginGate.Proofs.Url.AsciiNames
import LoginGate.Text.Bytes
import LoginGate.Url.Basic

/-!
# Hosts are read from what is shown of them

A host that is shown without a colon is no address of 128 bits (`colon_mem_text_iff`), and consists
of characters that end no part of a URL (`IsHostChar`).  A host of the web is read from its text as
the same host, unless a label of it is too long to be decoded (`IsNamed.webHost?_text`); any other
host always is (`otherHost?_of_forall`).  With a colon and a number behind it, the text is no host
of the web (`IsNamed.webHost?_colon`).
-/

namespace LoginGate.Url

open LoginGate.Text

/-! ## Characters -/

/-- A visible ASCII character that may stand in a host. -/
structure IsHostChar (c : Char) : Prop where
  low : 0x20 < c.toNat
  high : c.toNat < 0x7F
  allowed : isForbidden c = false

theorem ne_of_isForbidden {c d : Char} (hc : isForbidden c = false) (hd : isForbidden d = true) :
    c ≠ d := by
  rintro rfl
  rw [hc] at hd
  cases hd

theorem IsHostChar.ne {c d : Char} (h : IsHostChar c) (hd : isForbidden d = true) :
    c ≠ d :=
  ne_of_isForbidden h.allowed hd

theorem isForbidden_of_inDomain {c : Char} (h : isForbiddenInDomain c = false) :
    isForbidden c = false ∧ 0x20 ≤ c.toNat ∧ c ≠ '%' ∧ c.toNat ≠ 0x7F := by
  simp only [isForbiddenInDomain, Bool.or_eq_false_iff, decide_eq_false_iff_not] at h
  exact ⟨h.1.1.1, Nat.not_lt.1 h.1.1.2, h.1.2, h.2⟩

theorem isHostChar_of_allowed {c : Char} (hlow : 0x20 ≤ c.toNat) (hhigh : c.toNat < 0x7F)
    (h : isForbidden c = false) : IsHostChar c := by
  refine ⟨Nat.lt_of_le_of_ne hlow fun heq => ?_, hhigh, h⟩
  have hspace : c = ' ' := Char.toNat_inj.1 heq.symm
  rw [hspace] at h
  exact absurd h (by decide)

theorem isHostChar_of_inDomain {c : Char} (hsmall : IsSmall c)
    (h : isForbiddenInDomain c = false) : IsHostChar c := by
  obtain ⟨hallowed, hlow, -, hdelete⟩ := isForbidden_of_inDomain h
  have hascii := hsmall.1
  exact isHostChar_of_allowed hlow (by omega) hallowed

/-! ## Texts without escapes -/

theorem unescape_of_not_mem {s : List Char} (h : '%' ∉ s) : unescape 0 s = utf8 s := by
  induction s with
  | nil => rfl
  | cons c s ih =>
    rw [List.mem_cons, not_or] at h
    have hnone : escaped? (c :: s) = none := by
      unfold escaped?
      split
      · rename_i heq
        exact absurd (List.cons.inj heq).1.symm h.1
      · rfl
    rw [unescape, hnone, utf8_cons, ih h.2]

theorem unescaped?_of_not_mem {s : List Char} (h : '%' ∉ s) : unescaped? s = some s := by
  rw [unescaped?, unescape_of_not_mem h, fromUTF8?_utf8, Option.map_some, String.toList_ofList]

/-! ## Hosts of the web -/

/-- The host that a name in its ASCII form is. -/
def hostOfName? (name : List Char) : Option Host :=
  if name.isEmpty || name.any isForbiddenInDomain then none
  else if endsInNumber name then (ipv4? name).map .ipv4
  else some (.domain name)

/-- A text that is neither in brackets nor escaped is a name. -/
theorem webHost?_of_plain {s : List Char} (hbracket : s.head? ≠ some '[') (hescape : '%' ∉ s) :
    webHost? s = (toAscii? s).bind hostOfName? := by
  unfold webHost?
  split
  · exact absurd rfl hbracket
  · rw [unescaped?_of_not_mem hescape, Option.bind_eq_bind, Option.bind_some]
    rfl

/-- A host of the web is an address of 128 bits, or a name in its ASCII form is that host. -/
theorem webHost?_cases {s : List Char} {host : Host} (h : webHost? s = some host) :
    (∃ l, host = .ipv6 l ∧ l.length = 8) ∨
      ∃ raw name, toAscii? raw = some name ∧ hostOfName? name = some host := by
  unfold webHost? at h
  split at h
  · obtain ⟨inner, -, h⟩ := Option.bind_eq_some_iff.1 h
    obtain ⟨l, hl, rfl⟩ := Option.map_eq_some_iff.1 h
    exact Or.inl ⟨l, rfl, length_of_ipv6? hl⟩
  · obtain ⟨raw, -, h⟩ := Option.bind_eq_some_iff.1 h
    obtain ⟨name, hname, h⟩ := Option.bind_eq_some_iff.1 h
    exact Or.inr ⟨raw, name, hname, h⟩

theorem hostOfName?_eq_some_iff {name : List Char} {host : Host} :
    hostOfName? name = some host ↔ name ≠ [] ∧ (∀ c ∈ name, isForbiddenInDomain c = false) ∧
      ((endsInNumber name = true ∧ ∃ n, ipv4? name = some n ∧ host = .ipv4 n) ∨
        (endsInNumber name = false ∧ host = .domain name)) := by
  have hallowed : (name.isEmpty || name.any isForbiddenInDomain) = false ↔
      name ≠ [] ∧ ∀ c ∈ name, isForbiddenInDomain c = false := by
    rw [Bool.or_eq_false_iff, List.isEmpty_eq_false_iff, List.any_eq_false]
    simp only [Bool.not_eq_true]
  rw [← and_assoc, ← hallowed, hostOfName?]
  cases name.isEmpty || name.any isForbiddenInDomain with
  | true => simp
  | false =>
    rw [if_neg Bool.false_ne_true]
    cases endsInNumber name with
    | true => simp [eq_comm]
    | false => simp [eq_comm]

section

variable {name : List Char} {host : Host} (h : hostOfName? name = some host)

include h

theorem allowed_of_hostOfName? : ∀ c ∈ name, isForbiddenInDomain c = false :=
  (hostOfName?_eq_some_iff.1 h).2.1

theorem head?_ne_of_hostOfName? : name.head? ≠ some '[' := fun hhead =>
  ne_of_isForbidden
    (isForbidden_of_inDomain (allowed_of_hostOfName? h _ (List.mem_of_mem_head? hhead))).1
    (d := '[') (by decide) rfl

theorem escape_not_mem_of_hostOfName? : '%' ∉ name := fun hmem =>
  (isForbidden_of_inDomain (allowed_of_hostOfName? h _ hmem)).2.2.1 rfl

end

theorem digit_allowed {c : Char} (h : isDigit c = true) :
    IsSmall c ∧ isForbiddenInDomain c = false :=
  of_forall_lt (P := fun c => isDigit c = true → IsSmall c ∧ isForbiddenInDomain c = false)
    (by decide) (lt_of_isDigit h) h

/-- A name without capital letters and without labels in encoded form, which is its own ASCII form.
-/
def isPlain (name : List Char) : Bool :=
  name.all (fun c => decide (IsSmall c)) &&
    (pieces '.' name).all fun label => (dropPrefix? encodedLead label).isNone

/-- A plain name is read as it is. -/
theorem webHost?_of_isPlain {name : List Char} {host : Host} (h : isPlain name = true)
    (hname : hostOfName? name = some host) : webHost? name = some host := by
  obtain ⟨hsmall, hlabels⟩ := (Bool.and_eq_true _ _).mp h
  have hascii : toAscii? name = some name := toAscii?_of_forall
    (fun c hc => of_decide_eq_true (List.all_eq_true.1 hsmall c hc))
    fun label hl => Option.isNone_iff_eq_none.1 (List.all_eq_true.1 hlabels label hl)
  rw [webHost?_of_plain (head?_ne_of_hostOfName? hname) (escape_not_mem_of_hostOfName? hname),
    hascii, Option.bind_some, hname]

/-- What is known of a host of the web that is shown without a colon. -/
structure IsNamed (host : Host) : Prop where
  name : hostOfName? host.text = some host
  ascii : toAscii? host.text =
    if (pieces '.' host.text).any isOverlong = true then none else some host.text
  small : ∀ c ∈ host.text, IsSmall c

theorem isNamed_ipv4 {n : Nat} (h : n < 2 ^ 32) : IsNamed (.ipv4 n) := by
  have hchar {c : Char} (hc : c ∈ ipv4Text n) : IsSmall c ∧ isForbiddenInDomain c = false := by
    rcases isDigit_of_mem_ipv4Text hc with hdigit | rfl
    · exact digit_allowed hdigit
    · decide
  have hlabel : ∀ label ∈ pieces '.' (ipv4Text n), dropPrefix? encodedLead label = none := by
    rw [pieces_ipv4Text]
    intro label hlabel
    obtain ⟨m, -, rfl⟩ := List.mem_map.1 hlabel
    refine Option.eq_none_iff_forall_ne_some.2 fun rest hrest => ?_
    have hx : 'x' ∈ decimal m := by
      rw [eq_append_of_dropPrefix? hrest]
      exact List.mem_cons_self
    exact absurd (isDigit_of_mem_decimal hx) (by decide)
  refine ⟨?_, ?_, fun c hc => (hchar hc).1⟩
  · rw [hostOfName?_eq_some_iff]
    exact ⟨ipv4Text_ne_nil n, fun c hc => (hchar hc).2,
      Or.inl ⟨endsInNumber_ipv4Text n, n, ipv4?_ipv4Text h, rfl⟩⟩
  · have hshort : (pieces '.' (ipv4Text n)).any isOverlong = false := by
      refine List.any_eq_false.2 fun label hl => ?_
      rw [isOverlong, hlabel label hl]
      exact Bool.false_ne_true
    show toAscii? (ipv4Text n) = if (pieces '.' (ipv4Text n)).any isOverlong = true then none else _
    rw [hshort, if_neg Bool.false_ne_true]
    exact toAscii?_of_forall (fun c hc => (hchar hc).1) hlabel

theorem isNamed_of_hostOfName? {raw name : List Char} {host : Host}
    (hascii : toAscii? raw = some name) (h : hostOfName? name = some host) : IsNamed host := by
  obtain ⟨-, -, ⟨-, n, hn, rfl⟩ | ⟨-, rfl⟩⟩ := hostOfName?_eq_some_iff.1 h
  · exact isNamed_ipv4 (lt_of_ipv4? hn)
  · exact ⟨h, toAscii?_toAscii? hascii, isSmall_of_toAscii? hascii⟩

theorem isNamed_of_webHost? {s : List Char} {host : Host} (h : webHost? s = some host)
    (hcolon : ':' ∉ host.text) : IsNamed host := by
  obtain ⟨l, rfl, hl⟩ | ⟨raw, name, hascii, hname⟩ := webHost?_cases h
  · exact absurd (colon_mem_ipv6Text hl) hcolon
  · exact isNamed_of_hostOfName? hascii hname

section

variable {host : Host} (h : IsNamed host)

include h

theorem IsNamed.ne_nil : host.text ≠ [] := (hostOfName?_eq_some_iff.1 h.name).1

theorem IsNamed.isHostChar : ∀ c ∈ host.text, IsHostChar c := fun c hc =>
  isHostChar_of_inDomain (h.small c hc) (allowed_of_hostOfName? h.name c hc)

/-- **A host of the web is read from its text.** -/
theorem IsNamed.webHost?_text : webHost? host.text =
    if (pieces '.' host.text).any isOverlong = true then none else some host := by
  rw [webHost?_of_plain (head?_ne_of_hostOfName? h.name) (escape_not_mem_of_hostOfName? h.name),
    h.ascii]
  split
  · rfl
  · rw [Option.bind_some, h.name]

/-- With a number behind a colon it is none. -/
theorem IsNamed.webHost?_colon (port : Nat) :
    webHost? (host.text ++ ':' :: decimal port) = none := by
  have hdigits : ∀ c ∈ decimal port, isDigit c = true := fun c hc => isDigit_of_mem_decimal hc
  have hhead : (host.text ++ ':' :: decimal port).head? ≠ some '[' := by
    rw [List.head?_append_of_ne_nil _ h.ne_nil]
    exact head?_ne_of_hostOfName? h.name
  have hescape : '%' ∉ host.text ++ ':' :: decimal port := by
    have hnone : '%' ∉ decimal port := not_mem_of_digits hdigits rfl
    simp [escape_not_mem_of_hostOfName? h.name, hnone]
  have hsmall : ∀ c ∈ host.text ++ ':' :: decimal port, IsSmall c := by
    intro c hc
    rcases List.mem_append.1 hc with hc | hc
    · exact h.small c hc
    · rcases List.mem_cons.1 hc with rfl | hc
      · decide
      · exact (digit_allowed (hdigits c hc)).1
  rw [webHost?_of_plain hhead hescape, Option.bind_eq_none_iff]
  intro name hname
  refine Option.eq_none_iff_forall_ne_some.2 fun other hother => ?_
  have hcolon : ':' ∈ name := colon_mem_of_toAscii? hsmall
    ⟨not_mem_of_digits hdigits rfl, not_mem_of_digits hdigits rfl⟩ hname
  exact absurd (allowed_of_hostOfName? hother ':' hcolon) (by decide)

end

/-! ## Other hosts -/

theorem isHostChar_of_mem_escapeHostChar {c d : Char} (hc : isForbidden c = false)
    (hd : d ∈ escapeHostChar c) : IsHostChar d := by
  have hdigit : ∀ n < 16, isForbidden (hexDigitUpper n) = false ∧
      0x20 < (hexDigitUpper n).toNat ∧ (hexDigitUpper n).toNat < 0x7F := by decide
  have hbyte {n : Nat} (hn : n < 16) : IsHostChar (hexDigitUpper n) :=
    ⟨(hdigit n hn).2.1, (hdigit n hn).2.2, (hdigit n hn).1⟩
  unfold escapeHostChar at hd
  split at hd
  · obtain ⟨b, -, hd⟩ := List.mem_flatMap.1 hd
    have hb : b.toNat < 256 := b.toNat_lt
    simp only [escapeByte, List.mem_cons, List.not_mem_nil, or_false] at hd
    rcases hd with rfl | rfl | rfl
    · exact ⟨by decide, by decide, by decide⟩
    · exact hbyte (by omega)
    · exact hbyte (by omega)
  · rename_i hplain
    obtain rfl := List.mem_singleton.1 hd
    exact isHostChar_of_allowed (by omega) (by omega) hc

/-- Any other host is an address of 128 bits, or a name of such characters. -/
theorem otherHost?_cases {s : List Char} {host : Host} (h : otherHost? s = some host) :
    (∃ l, host = .ipv6 l ∧ l.length = 8) ∨
      ∃ name, host = .domain name ∧ ∀ c ∈ name, IsHostChar c := by
  unfold otherHost? at h
  split at h
  · obtain ⟨inner, -, h⟩ := Option.bind_eq_some_iff.1 h
    obtain ⟨l, hl, rfl⟩ := Option.map_eq_some_iff.1 h
    exact Or.inl ⟨l, rfl, length_of_ipv6? hl⟩
  · cases h
  · obtain ⟨hallowed, h⟩ := Option.ite_none_left_eq_some.1 h
    obtain rfl := Option.some.inj h
    refine Or.inr ⟨_, rfl, fun d hd => ?_⟩
    obtain ⟨c, hc, hd⟩ := List.mem_flatMap.1 hd
    refine isHostChar_of_mem_escapeHostChar ?_ hd
    exact Bool.not_eq_true _ ▸ List.any_eq_false.1 (Bool.not_eq_true _ ▸ hallowed) c hc

theorem exists_name_of_otherHost? {s : List Char} {host : Host} (h : otherHost? s = some host)
    (hcolon : ':' ∉ host.text) : ∃ name, host = .domain name ∧ ∀ c ∈ name, IsHostChar c := by
  obtain ⟨l, rfl, hl⟩ | hname := otherHost?_cases h
  · exact absurd (colon_mem_ipv6Text hl) hcolon
  · exact hname

/-- **Such a name is read as it is.** -/
theorem otherHost?_of_forall {name : List Char} (hne : name ≠ []) (h : ∀ c ∈ name, IsHostChar c) :
    otherHost? name = some (.domain name) := by
  have hallowed : name.any isForbidden = false :=
    List.any_eq_false.2 fun c hc => by simp [(h c hc).allowed]
  have hsame : name.flatMap escapeHostChar = name := by
    rw [List.flatMap_congr (g := fun c => [c]), List.flatMap_singleton']
    intro c hc
    have hlow := (h c hc).low
    have hhigh := (h c hc).high
    exact if_neg (by omega)
  unfold otherHost?
  split
  · exact absurd rfl ((h '[' List.mem_cons_self).ne (by decide))
  · exact absurd rfl hne
  · rw [hallowed, if_neg Bool.false_ne_true, hsame]

/-! ## Colons -/

theorem colon_not_mem_of_isHostChar {s : List Char} (h : ∀ c ∈ s, IsHostChar c) : ':' ∉ s :=
  fun hmem => (h ':' hmem).ne (d := ':') (by decide) rfl

/-- **Only an address of 128 bits is shown with a colon.** -/
theorem colon_mem_text_iff {s : List Char} {host : Host}
    (h : webHost? s = some host ∨ otherHost? s = some host) :
    ':' ∈ host.text ↔ ∃ l, host = .ipv6 l := by
  have hcases : (∃ l, host = .ipv6 l ∧ l.length = 8) ∨
      (∀ l, host ≠ .ipv6 l) ∧ ∀ c ∈ host.text, IsHostChar c := by
    rcases h with h | h
    · refine (webHost?_cases h).imp_right fun ⟨raw, name, hascii, hname⟩ =>
        ⟨?_, (isNamed_of_hostOfName? hascii hname).isHostChar⟩
      rintro l rfl
      obtain ⟨-, -, ⟨-, n, -, heq⟩ | ⟨-, heq⟩⟩ := hostOfName?_eq_some_iff.1 hname
      all_goals cases heq
    · refine (otherHost?_cases h).imp_right fun ⟨name, hname, hchar⟩ => ?_
      subst hname
      exact ⟨nofun, hchar⟩
  rcases hcases with ⟨l, rfl, hl⟩ | ⟨hne, hchar⟩
  · exact iff_of_true (colon_mem_ipv6Text hl) ⟨l, rfl⟩
  · exact iff_of_false (colon_not_mem_of_isHostChar hchar) fun ⟨l, hl⟩ => hne l hl

end LoginGate.Url
