import LoginGate.CommandLine.Directory
import LoginGate.Proofs.Checks

/-!
# Files that are written

A write that succeeds changes what stands at one place, the one that its path leads to, and the path
then leads to a file with the text:

    d.write path text = .ok d' → ∃ place, d.fileAt? path = some place ∧ d' = d.put place text
                                                                               (write_eq_ok)
    d.fileAt? path = some place → (d.put place text).read path = .ok text     (read_put)

The second is by the names of the path: all but the last lead to directories, and these stay.
-/

namespace LoginGate.CommandLine

open LoginGate.Text

/-- The file that a place is, or that it can become. -/
def Place.file? : Place → Option Path
  | .file path _ => some path
  | .vacant path => some path
  | _ => none

namespace Directory

/-- The place of the file that a path leads to, or will lead to. -/
def fileAt? (d : Directory) (path : String) : Option Path :=
  (d.place path).toOption.bind Place.file?

variable {d d' : Directory} {text path name : String} {place : Place} {p q : Path}

/-! ## What is found after a write -/

theorem find_put_self (d : Directory) (p : Path) (text : String) :
    (d.put p text).find p = .file p (.text text) := by
  unfold find
  rw [at?_put_self]

theorem file?_find (h : (d.find p).file? = some q) : q = p := by
  unfold find at h
  split at h
  · exact (Option.some.inj h).symm
  · cases h
  · split at h
    · cases h
    · exact (Option.some.inj h).symm

/-- Directories stay where a file is written. -/
theorem find_put_directory (hp : (d.find p).file? = some p) (hq : (d.find q).file? = none) :
    (d.put p text).find q = d.find q := by
  have hne : q ≠ p := by
    rintro rfl
    rw [hp] at hq
    cases hq
  unfold find at hq ⊢
  rw [at?_put_of_ne hne]
  cases hentry : d.at? q with
  | some entry => cases entry <;> rfl
  | none =>
    have hany : (d.entries.any fun entry => q.isPrefixOf entry.1) = true := by
      by_contra hany
      rw [hentry] at hq
      simp only [if_neg hany] at hq
      cases hq
    have hany' : ((d.put p text).entries.any fun entry => q.isPrefixOf entry.1) = true := by
      rw [List.any_eq_true] at hany ⊢
      obtain ⟨entry, hmem, hprefix⟩ := hany
      obtain ⟨other, hother, heq⟩ : ∃ other ∈ putFile p text d.entries, other.1 = entry.1 :=
        exists_mem_putFile hmem
      exact ⟨other, hother, heq ▸ hprefix⟩
    simp only [if_pos hany, if_pos hany']

/-! ## Paths after a write -/

theorem enter_directory (d : Directory) (path : Path) (name : String) :
    d.enter (.directory path) name =
      if name = "" ∨ name = "." then .ok (.directory path)
      else if name = ".." then .ok (if path = [] then .outside else .directory path.dropLast)
      else if nameLimit < name.utf8ByteSize then .error .nameTooLong
      else .ok (d.find (path ++ [name])) := rfl

/-- A name leads on from a directory only. -/
theorem file?_start {start : Place} (h : d.enter start name = .ok place) : start.file? = none := by
  cases start with
  | file _ _ => cases h
  | vacant _ => cases h
  | _ => rfl

theorem enter_put_of_none {start : Place} (hp : (d.find p).file? = some p)
    (h : d.enter start name = .ok place) (hplace : place.file? = none) :
    (d.put p text).enter start name = .ok place := by
  cases start with
  | directory path =>
    rw [enter_directory] at h ⊢
    by_cases hsame : name = "" ∨ name = "."
    · rwa [if_pos hsame] at h ⊢
    by_cases hparent : name = ".."
    · rwa [if_neg hsame, if_pos hparent] at h ⊢
    by_cases hlong : nameLimit < name.utf8ByteSize
    · rwa [if_neg hsame, if_neg hparent, if_pos hlong] at h ⊢
    rw [if_neg hsame, if_neg hparent, if_neg hlong] at h ⊢
    obtain rfl := Except.ok.inj h
    rw [find_put_directory hp hplace]
  | outside => exact h
  | file _ _ => cases h
  | vacant _ => cases h
  | sink => cases h

theorem enter_put_of_some {start : Place} (h : d.enter start name = .ok place)
    (hplace : place.file? = some p) :
    (d.find p).file? = some p ∧
      (d.put p text).enter start name = .ok (.file p (.text text)) := by
  cases start with
  | directory path =>
    rw [enter_directory] at h ⊢
    by_cases hsame : name = "" ∨ name = "."
    · rw [if_pos hsame] at h
      obtain rfl := Except.ok.inj h
      cases hplace
    by_cases hparent : name = ".."
    · rw [if_neg hsame, if_pos hparent] at h
      obtain rfl := Except.ok.inj h
      split at hplace <;> cases hplace
    by_cases hlong : nameLimit < name.utf8ByteSize
    · rw [if_neg hsame, if_neg hparent, if_pos hlong] at h
      cases h
    rw [if_neg hsame, if_neg hparent, if_neg hlong] at h ⊢
    obtain rfl := Except.ok.inj h
    obtain rfl := file?_find hplace
    exact ⟨hplace, congrArg _ (find_put_self d _ text)⟩
  | outside =>
    simp only [enter] at h
    split at h
    · obtain rfl := Except.ok.inj h
      cases hplace
    · cases h
  | file _ _ => cases h
  | vacant _ => cases h
  | sink => cases h

/-- Names that lead to a file lead to its text after the text is written.  All but the last lead to
directories. -/
theorem foldlM_enter_put {names : List String} {start : Place}
    (h : names.foldlM d.enter start = .ok place) (hstart : start.file? = none)
    (hplace : place.file? = some p) :
    (d.find p).file? = some p ∧
      names.foldlM (d.put p text).enter start = .ok (.file p (.text text)) := by
  induction names generalizing start with
  | nil =>
    obtain rfl := Except.ok.inj h
    rw [hstart] at hplace
    cases hplace
  | cons name names ih =>
    rw [List.foldlM_cons] at h ⊢
    obtain ⟨next, hnext, h⟩ := bind_eq_ok_iff.1 h
    cases hfile : next.file? with
    | none =>
      obtain ⟨hp, hrest⟩ := ih h hfile
      exact ⟨hp, bind_eq_ok_iff.2 ⟨next, enter_put_of_none hp hnext hfile, hrest⟩⟩
    | some q =>
      cases names with
      | nil =>
        obtain rfl := Except.ok.inj h
        obtain ⟨hp, hq⟩ : (d.find p).file? = some p ∧
            (d.put p text).enter start name = .ok (.file p (.text text)) :=
          enter_put_of_some hnext hplace
        exact ⟨hp, bind_eq_ok_iff.2 ⟨_, hq, rfl⟩⟩
      | cons other names =>
        rw [List.foldlM_cons] at h
        obtain ⟨_, hother, -⟩ := bind_eq_ok_iff.1 h
        rw [file?_start hother] at hfile
        cases hfile

theorem place_put (h : d.fileAt? path = some p) :
    (d.put p text).place path = .ok (.file p (.text text)) := by
  obtain ⟨place, hplace, hfile⟩ := Option.bind_eq_some_iff.1 h
  replace hplace : d.place path = .ok place := eq_ok_of_toOption hplace
  unfold Directory.place at hplace ⊢
  split_ifs at hplace ⊢
  · obtain rfl := Except.ok.inj hplace
    cases hfile
  · split at hplace
    · exact (foldlM_enter_put hplace rfl hfile).2
    · exact (foldlM_enter_put hplace rfl hfile).2

theorem read_put (h : d.fileAt? path = some p) : (d.put p text).read path = .ok text :=
  bind_eq_ok_iff.2 ⟨_, place_put h, rfl⟩

/-! ## What a write comes to -/

theorem find_ne_sink (d : Directory) (p : Path) : d.find p ≠ .sink := by
  unfold find
  split
  · exact Place.noConfusion
  · exact Place.noConfusion
  · split <;> exact Place.noConfusion

theorem enter_ne_sink (d : Directory) (start : Place) (name : String) :
    d.enter start name ≠ .ok .sink := by
  intro h
  cases start with
  | directory path =>
    rw [enter_directory] at h
    split_ifs at h
    · cases h
    · cases h
    · cases h
    · exact find_ne_sink d _ (Except.ok.inj h)
  | outside =>
    simp only [enter] at h
    split at h <;> cases h
  | file _ _ => cases h
  | vacant _ => cases h
  | sink => cases h

theorem foldlM_enter_ne_sink (d : Directory) {names : List String} {start : Place}
    (hstart : start ≠ .sink) : names.foldlM d.enter start ≠ .ok .sink := by
  induction names generalizing start with
  | nil => exact fun h => hstart (Except.ok.inj h)
  | cons name names ih =>
    intro h
    rw [List.foldlM_cons] at h
    obtain ⟨next, hnext, h⟩ := bind_eq_ok_iff.1 h
    exact ih (fun hsink => enter_ne_sink d start name (hsink ▸ hnext)) h

theorem eq_sinkPath_of_place (h : d.place path = .ok .sink) : path = sinkPath := by
  unfold Directory.place at h
  split_ifs at h with _ hsink
  · exact hsink
  · split at h
    · exact absurd h (foldlM_enter_ne_sink d Place.noConfusion)
    · exact absurd h (foldlM_enter_ne_sink d Place.noConfusion)

/-- A write puts the text into the file that its path leads to, or it is swallowed. -/
theorem write_eq_ok (h : d.write path text = .ok d') :
    (path = sinkPath ∧ d' = d) ∨ ∃ p, d.fileAt? path = some p ∧ d' = d.put p text := by
  obtain ⟨place, hplace, h⟩ := bind_eq_ok_iff.1 h
  -- whatever is written to, the path ends in no slash
  have hpath : String.ofList (dropEndWhile (· == '/') path.toList) = path := by
    by_contra hne
    cases place <;> simp only [if_neg hne] at h <;> cases h
  rw [hpath, ite_self] at hplace
  simp only [hpath, if_true] at h
  have hfile (p : Path) (hp : place.file? = some p) : d.fileAt? path = some p := by
    rw [fileAt?, hplace]
    exact hp
  cases place with
  | sink => exact Or.inl ⟨eq_sinkPath_of_place hplace, (Except.ok.inj h).symm⟩
  | file p _ => exact Or.inr ⟨p, hfile p rfl, (Except.ok.inj h).symm⟩
  | vacant p => exact Or.inr ⟨p, hfile p rfl, (Except.ok.inj h).symm⟩
  | directory _ => cases h
  | outside => cases h

end Directory

end LoginGate.CommandLine
