import LoginGate.FormEncoding
import LoginGate.Text.Bytes

/-!
# Form encoding, undone

An encoded text is made of characters that mean nothing in a query string and of escapes
(`IsEncoded`), and `decode` finds the bytes of the text that it was made from:

    decode (encode s) = textBytes s                                              (decode_encode)

Only the empty text is encoded as nothing (`encode_eq_empty_iff`).
-/

namespace LoginGate.FormEncoding

open LoginGate.Text

/-! ## What is written -/

/-- The characters that are written alone: letters and digits of ASCII, and `* - . _ +`. -/
def isFormChar (c : Char) : Bool :=
  c.isAlphanum || c = '*' || c = '-' || c = '.' || c = '_' || c = '+'

def isEscapeDigit (c : Char) : Bool := isDigit c || ('A' ≤ c && c ≤ 'F')

/-- Single characters, and escapes of a percent sign and two digits. -/
inductive IsEncoded : List Char → Prop
  | nil : IsEncoded []
  | char {c : Char} {s : List Char} : isFormChar c = true → IsEncoded s → IsEncoded (c :: s)
  | escape {a b : Char} {s : List Char} : isEscapeDigit a = true → isEscapeDigit b = true →
      IsEncoded s → IsEncoded ('%' :: a :: b :: s)

/-- The characters that separate and end the parts of a URI, quotes and the blank. -/
def separators : List Char := ['&', '=', '?', '#', '"', '\'', ' ']

/-- What is encoded does not get out of its place in a query string. -/
theorem IsEncoded.not_mem {s : List Char} (h : IsEncoded s) : ∀ c ∈ separators, c ∉ s := by
  have hchar : (separators.all fun c => !isFormChar c && !isEscapeDigit c && c != '%') = true := by
    decide
  intro c hc hm
  have hnone := List.all_eq_true.1 hchar c hc
  simp only [Bool.and_eq_true, Bool.not_eq_true', bne_iff_ne] at hnone
  obtain ⟨⟨h1, h2⟩, h3⟩ := hnone
  induction h with
  | nil => cases hm
  | char hd _ ih =>
    rcases List.mem_cons.1 hm with rfl | hm
    · rw [h1] at hd
      cases hd
    · exact ih hm
  | escape ha hb _ ih =>
    rcases List.mem_cons.1 hm with rfl | hm
    · exact h3 rfl
    rcases List.mem_cons.1 hm with rfl | hm
    · rw [h2] at ha
      cases ha
    rcases List.mem_cons.1 hm with rfl | hm
    · rw [h2] at hb
      cases hb
    · exact ih hm

theorem isEscapeDigit_hexDigitUpper {n : Nat} (h : n < 16) :
    isEscapeDigit (hexDigitUpper n) = true := by
  revert n
  decide

theorem hexValue?_hexDigitUpper {n : Nat} (h : n < 16) :
    hexValue? (hexDigitUpper n) = some n := by
  revert n
  decide

theorem plainByte_spec {b : UInt8} (h : isPlainByte b = true) :
    isFormChar (Char.ofNat b.toNat) = true ∧ Char.ofNat b.toNat ≠ '%' ∧
      Char.ofNat b.toNat ≠ '+' ∧ String.utf8EncodeChar (Char.ofNat b.toNat) = [b] := by
  have hall : ∀ n < 256, isPlainByte (UInt8.ofNat n) = true → isFormChar (Char.ofNat n) = true ∧
      Char.ofNat n ≠ '%' ∧ Char.ofNat n ≠ '+' ∧
      String.utf8EncodeChar (Char.ofNat n) = [UInt8.ofNat n] := by
    decide +kernel
  have hb := hall b.toNat b.toNat_lt
  rw [UInt8.ofNat_toNat] at hb
  exact hb h

theorem isEncoded_encodeByte (b : UInt8) {s : List Char} (h : IsEncoded s) :
    IsEncoded (encodeByte b ++ s) := by
  have hlt := b.toNat_lt
  unfold encodeByte
  split
  · next hplain => exact .char (plainByte_spec hplain).1 h
  split
  · exact .char rfl h
  · exact .escape (isEscapeDigit_hexDigitUpper (by omega))
      (isEscapeDigit_hexDigitUpper (Nat.mod_lt _ (by decide))) h

theorem isEncoded_encodeBytes (bytes : List UInt8) : IsEncoded (bytes.flatMap encodeByte) := by
  induction bytes with
  | nil => exact .nil
  | cons b bytes ih => exact isEncoded_encodeByte b ih

theorem isEncoded_encode (s : String) : IsEncoded (encode s).toList := by
  rw [encode, String.toList_ofList]
  exact isEncoded_encodeBytes _

/-! ## What is read -/

/-- The bytes that a text in a query string stands for.  A percent sign without two hexadecimal
digits after it stands for itself. -/
def decodeChars : List Char → List UInt8
  | [] => []
  | '%' :: a :: b :: rest => match hexValue? a, hexValue? b with
    | some high, some low => UInt8.ofNat (high * 16 + low) :: decodeChars rest
    | _, _ => 37 :: decodeChars (a :: b :: rest)
  | c :: rest => (if c = '+' then [32] else String.utf8EncodeChar c) ++ decodeChars rest

def decode (s : String) : List UInt8 := decodeChars s.toList

theorem decodeChars_cons {c : Char} (h : c ≠ '%') (s : List Char) :
    decodeChars (c :: s) =
      (if c = '+' then [32] else String.utf8EncodeChar c) ++ decodeChars s := by
  rw [decodeChars]
  intro a b rest hc
  exact absurd hc h

theorem decodeChars_encodeByte (b : UInt8) (s : List Char) :
    decodeChars (encodeByte b ++ s) = b :: decodeChars s := by
  have hlt := b.toNat_lt
  unfold encodeByte
  split
  · next hplain =>
    obtain ⟨-, hpercent, hplus, hbytes⟩ := plainByte_spec hplain
    rw [List.singleton_append, decodeChars_cons hpercent, if_neg hplus, hbytes]
    rfl
  split
  · next hblank =>
    rw [List.singleton_append, decodeChars_cons (by decide), if_pos rfl, hblank]
    rfl
  · have hvalue : b.toNat / 16 * 16 + b.toNat % 16 = b.toNat := by omega
    simp only [List.cons_append, List.nil_append]
    rw [decodeChars, hexValue?_hexDigitUpper (by omega),
      hexValue?_hexDigitUpper (Nat.mod_lt _ (by decide))]
    simp only [hvalue, UInt8.ofNat_toNat]

theorem decodeChars_encodeBytes (bytes : List UInt8) :
    decodeChars (bytes.flatMap encodeByte) = bytes := by
  induction bytes with
  | nil => rfl
  | cons b bytes ih => rw [List.flatMap_cons, decodeChars_encodeByte, ih]

/-- **Decoding undoes encoding.** -/
theorem decode_encode (s : String) : decode (encode s) = textBytes s := by
  rw [decode, encode, String.toList_ofList]
  exact decodeChars_encodeBytes _

theorem encode_eq_empty_iff {s : String} : encode s = "" ↔ s = "" := by
  refine ⟨fun h => ?_, fun h => by rw [h]; rfl⟩
  have hdecode := decode_encode s
  rw [h] at hdecode
  exact textBytes_injective hdecode.symm

/-- A target is encoded as nothing if it is absent or empty. -/
theorem encodeOptional_spec (s : Option String) : IsEncoded (encodeOptional s).toList ∧
    decode (encodeOptional s) = textBytes (s.getD "") ∧
    (encodeOptional s = "" ↔ s = none ∨ s = some "") := by
  cases s with
  | none => exact ⟨.nil, rfl, by simp [encodeOptional]⟩
  | some s => exact ⟨isEncoded_encode s, decode_encode s, by simp [encodeOptional, encode_eq_empty_iff]⟩

end LoginGate.FormEncoding
