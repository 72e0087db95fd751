import LoginGate.Json.Writer
import LoginGate.Proofs.Number.Rounding

/-!
# Tidy and well-formed values

A value is tidy if its objects ascend by key, its numbers are natural and fit in 64 bits, and its
lists and objects are nested no deeper than a bound.  Tidy values are read back from every format
just as they are.

A value is well formed if it is one that is read from a document: its objects ascend by key, its
whole numbers fit in 64 bits and its real numbers are of the format.  Tidy values are well formed.
-/

namespace LoginGate.Json

open LoginGate.Text

/-- Values with lists and objects nested at most `depth` deep, in order and without fractions. -/
inductive Tidy : Nat → Json → Prop
  | null {depth : Nat} : Tidy depth .null
  | bool {depth : Nat} (b : Bool) : Tidy depth (.bool b)
  | number {depth n : Nat} : n < Number.twoTo 64 → Tidy depth (.ofNat n)
  | text {depth : Nat} (s : String) : Tidy depth (.text s)
  | list {depth : Nat} {items : List Json} : (∀ v ∈ items, Tidy depth v) →
      Tidy (depth + 1) (.list items)
  | object {depth : Nat} {members : List (String × Json)} : KeyMap.Ascending members →
      (∀ m ∈ members, Tidy depth m.2) → Tidy (depth + 1) (.object members)

theorem text_ofNat (n : Nat) : (Number.whole n).text = decimal n := by
  rw [Number.text, if_neg (by omega), Int.natAbs_natCast]

/-- A number that is read from a document. -/
inductive Number.WellFormed : Json.Number → Prop
  | whole {z : Int} : Number.fits z = true → WellFormed (.whole z)
  | real {x : LoginGate.Number.Binary64} : x.InFormat → WellFormed (.real x)

/-- Values that are read from a document, with lists and objects nested at most `depth` deep. -/
inductive WellFormed : Nat → Json → Prop
  | null {depth : Nat} : WellFormed depth .null
  | bool {depth : Nat} (b : Bool) : WellFormed depth (.bool b)
  | number {depth : Nat} {n : Json.Number} : n.WellFormed → WellFormed depth (.number n)
  | text {depth : Nat} (s : String) : WellFormed depth (.text s)
  | list {depth : Nat} {items : List Json} : (∀ v ∈ items, WellFormed depth v) →
      WellFormed (depth + 1) (.list items)
  | object {depth : Nat} {members : List (String × Json)} : KeyMap.Ascending members →
      (∀ m ∈ members, WellFormed depth m.2) → WellFormed (depth + 1) (.object members)

theorem Number.fits_natCast {n : Nat} (h : n < LoginGate.Number.twoTo 64) :
    Number.fits (n : Int) = true := by
  rw [Number.fits, LoginGate.Number.isUnsigned, Bool.or_eq_true, Bool.and_eq_true, decide_eq_true_eq,
    decide_eq_true_eq]
  exact Or.inr ⟨Int.natCast_nonneg n, Int.ofNat_lt.2 h⟩

theorem Tidy.wellFormed {depth : Nat} {v : Json} (h : v.Tidy depth) : v.WellFormed depth := by
  induction h with
  | null => exact .null
  | bool b => exact .bool b
  | number h => exact .number (.whole (Number.fits_natCast h))
  | text s => exact .text s
  | list _ ih => exact .list ih
  | object hascending _ ih => exact .object hascending ih

end LoginGate.Json
