import LoginGate.Proofs.Toml.Quoting

/-!
# Lines of a document, read one by one
-/

namespace LoginGate.Toml

open LoginGate.Text

/-! ## Starts of lines -/

/-- May something that counts begin with the character? -/
def startsItem (c : Char) : Bool := !isSpace c && c ∉ ['\n', '\r', '#']

theorem skipSpaces_of_startsItem {c : Char} (h : startsItem c = true) (s : List Char) :
    skipSpaces (c :: s) = c :: s := by
  rw [startsItem, Bool.and_eq_true, Bool.not_eq_true'] at h
  rw [skipSpaces, List.dropWhile_cons_of_neg (by rw [h.1]; exact Bool.false_ne_true)]

theorem skipComment?_of_startsItem {c : Char} (h : startsItem c = true) (s : List Char) :
    skipComment? (c :: s) = some (c :: s) := by
  unfold skipComment?
  split
  · rename_i heq
    rw [(List.cons.inj heq).1] at h
    exact absurd h (by decide)
  · rfl

theorem afterBreak?_of_startsItem {c : Char} (h : startsItem c = true) (s : List Char) :
    afterBreak? (c :: s) = none := by
  unfold afterBreak?
  split
  · rename_i heq
    rw [(List.cons.inj heq).1] at h
    exact absurd h (by decide)
  · rename_i heq
    rw [(List.cons.inj heq).1] at h
    exact absurd h (by decide)
  · rfl

theorem skipFree?_of_startsItem {c : Char} (h : startsItem c = true) (fuel : Nat) (s : List Char) :
    skipFree? (fuel + 1) (c :: s) = some (c :: s) := by
  rw [skipFree?, skipSpaces_of_startsItem h, skipComment?_of_startsItem h]
  simp only [Option.bind_eq_bind, Option.bind_some, afterBreak?_of_startsItem h]

theorem skipFree?_break (fuel : Nat) (s : List Char) :
    skipFree? (fuel + 1) ('\n' :: s) = skipFree? fuel s := rfl

/-! ## Keys -/

theorem keyPart?_bare {name : List Char} (hname : name ≠ []) (hchars : name.all isKeyChar = true)
    {c : Char} (hc : isKeyChar c = false) (rest : List Char) :
    keyPart? (name ++ c :: rest) = some (String.ofList name, c :: rest) := by
  have htake : (name ++ c :: rest).takeWhile isKeyChar = name := by
    rw [List.takeWhile_append_of_pos (fun a ha => List.all_eq_true.1 hchars a ha),
      List.takeWhile_cons_of_neg (by rw [hc]; exact Bool.false_ne_true), List.append_nil]
  have hdrop : (name ++ c :: rest).dropWhile isKeyChar = c :: rest := by
    rw [List.dropWhile_append_of_pos (fun a ha => List.all_eq_true.1 hchars a ha),
      List.dropWhile_cons_of_neg (by rw [hc]; exact Bool.false_ne_true)]
  match name, hname with
  | a :: name, _ =>
    have ha : isKeyChar a = true := List.all_eq_true.1 hchars a List.mem_cons_self
    unfold keyPart?
    split
    · rename_i heq
      rw [(List.cons.inj heq).1] at ha
      exact absurd ha (by decide)
    · rename_i heq
      rw [(List.cons.inj heq).1] at ha
      exact absurd ha (by decide)
    · simp only [htake, hdrop]

theorem startsItem_of_isKeyChar {c : Char} (h : isKeyChar c = true) : startsItem c = true := by
  have hne (d : Char) (hd : isKeyChar d = false) : c ≠ d := by
    rintro rfl
    rw [h] at hd
    cases hd
  simp [startsItem, isSpace, hne ' ' (by decide), hne '\t' (by decide), hne '\n' (by decide),
    hne '\r' (by decide), hne '#' (by decide)]

theorem skipSpaces_bare {name : List Char} (hname : name ≠ []) (hchars : name.all isKeyChar = true)
    (rest : List Char) : skipSpaces (name ++ rest) = name ++ rest := by
  match name, hname with
  | a :: name, _ =>
    exact skipSpaces_of_startsItem
      (startsItem_of_isKeyChar (List.all_eq_true.1 hchars a List.mem_cons_self)) _

section BareNames

variable {name : List Char} (hname : name ≠ []) (hchars : name.all isKeyChar = true)

include hname hchars

theorem key?_bare (fuel : Nat) (rest : List Char) :
    key? (fuel + 1) (name ++ ' ' :: '=' :: rest) = some ([String.ofList name], '=' :: rest) := by
  rw [key?, skipSpaces_bare hname hchars, keyPart?_bare hname hchars (by decide)]
  rfl

theorem key?_closed (fuel : Nat) (rest : List Char) :
    key? (fuel + 1) (name ++ ']' :: rest) = some ([String.ofList name], ']' :: rest) := by
  rw [key?, skipSpaces_bare hname hchars, keyPart?_bare hname hchars (by decide)]
  rfl

theorem key?_dotted (fuel : Nat) (rest : List Char) :
    key? (fuel + 1) (name ++ '.' :: rest) =
      (key? fuel rest).map fun (parts, rest) => (String.ofList name :: parts, rest) := by
  rw [key?, skipSpaces_bare hname hchars, keyPart?_bare hname hchars (by decide)]
  rfl

end BareNames

/-! ## Lines -/

theorem readLines?_end (fuel : Nat) (p : Progress) : readLines? (fuel + 1) p [] = some p := rfl

/-- An empty line in front of a header does not count. -/
theorem readLines?_break (fuel : Nat) (p : Progress) (s : List Char) :
    readLines? (fuel + 1) p ('\n' :: '[' :: s) = readLines? (fuel + 1) p ('[' :: s) := by
  rw [readLines?, readLines?, List.length_cons, skipFree?_break,
    skipFree?_of_startsItem (by decide)]

theorem readLines?_header (fuel : Nat) (p : Progress) (s : List Char) :
    readLines? (fuel + 1) p ('[' :: s) =
      (header? p s).bind fun (p, rest) => readLines? fuel p rest := by
  rw [readLines?, skipFree?_of_startsItem (by decide)]
  rfl

theorem binding?_line {name written rest : List Char} {v : Option Value} (hname : name ≠ [])
    (hchars : name.all isKeyChar = true) (hstart : written.head?.any startsItem = true)
    (hvalue : ∀ fuel, value? (fuel + 2) 0 (written ++ '\n' :: rest) = v.map (·, '\n' :: rest))
    (p : Progress) :
    binding? p (name ++ ' ' :: '=' :: ' ' :: (written ++ '\n' :: rest)) =
      v.bind fun v =>
        (p.root.within .implied p.current fun t => t.bind? .dotted [] (String.ofList name) v).map
          fun root => ({ p with root }, rest) := by
  obtain ⟨c, written, rfl⟩ : ∃ c tail, written = c :: tail := by
    cases written with
    | nil => cases hstart
    | cons c tail => exact ⟨c, tail, rfl⟩
  have hskip : skipSpaces (' ' :: (c :: written ++ '\n' :: rest)) = c :: written ++ '\n' :: rest :=
    skipSpaces_of_startsItem hstart _
  rw [binding?, key?_bare hname hchars]
  simp only [Option.bind_eq_bind, Option.bind_some, hskip, List.length_cons, hvalue]
  cases v with
  | none => rfl
  | some v =>
    simp only [Option.bind_some, Option.map_eq_bind]
    rfl

theorem readLines?_binding {name written rest : List Char} {v : Option Value} (hname : name ≠ [])
    (hchars : name.all isKeyChar = true) (hstart : written.head?.any startsItem = true)
    (hvalue : ∀ fuel, value? (fuel + 2) 0 (written ++ '\n' :: rest) = v.map (·, '\n' :: rest))
    (fuel : Nat) (p : Progress) :
    readLines? (fuel + 1) p (name ++ ' ' :: '=' :: ' ' :: (written ++ '\n' :: rest)) =
      v.bind fun v =>
        (p.root.within .implied p.current fun t => t.bind? .dotted [] (String.ofList name) v).bind
          fun root => readLines? fuel { p with root } rest := by
  have hbinding := binding?_line hname hchars hstart hvalue p
  obtain ⟨c, name, rfl⟩ := List.exists_cons_of_ne_nil hname
  have hc : isKeyChar c = true := List.all_eq_true.1 hchars c List.mem_cons_self
  have hne : c ≠ '[' := by
    rintro rfl
    exact absurd hc (by decide)
  rw [readLines?, List.cons_append, skipFree?_of_startsItem (startsItem_of_isKeyChar hc)]
  simp only [Option.bind_eq_bind, Option.bind_some]
  split
  · rename_i heq
    cases heq
  · rename_i heq
    exact absurd (List.cons.inj heq).1 hne
  · rw [← List.cons_append, hbinding, Option.bind_assoc]
    simp only [Option.bind_map]
    rfl

end LoginGate.Toml
