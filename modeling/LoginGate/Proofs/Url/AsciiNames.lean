import LoginGate.Proofs.Url.MappedCharacters
import LoginGate.Proofs.Url.Punycode

/-!
# Domain names are brought into their ASCII form once

A name of ASCII characters without capital letters is neither mapped nor composed to another one,
and it is its own ASCII form unless one of its labels is an encoded one (`toAscii?_of_forall`).

The ASCII form of any name is its own ASCII form, unless a label of it is longer than what is
decoded; then it has none:

    toAscii? name = some ascii →
      toAscii? ascii = if (pieces '.' ascii).any isOverlong then none else some ascii
                                                                            (toAscii?_toAscii?)

A label that is read is one that mapping leaves alone and that needs no reading (`IsRead`), whether
it was given in encoded form or not, and so its written form is read as that label again.
-/

namespace LoginGate.Url

open LoginGate.Text

/-! ## Directions -/

theorem low_rightToLeft : ∀ r ∈ rightToLeft.ranges, decide (0x80 ≤ r.1) = true := by
  apply RangeTable.forall_mem_ranges
  · repeat apply SpelledAs.cons
    exact .nil
  · decide +kernel

theorem low_arabicNumbers : ∀ r ∈ arabicNumbers.ranges, decide (0x80 ≤ r.1) = true := by
  apply RangeTable.forall_mem_ranges
  · repeat apply SpelledAs.cons
    exact .nil
  · decide +kernel

theorem turnsDirection_of_lt {c : Char} (hc : c.toNat < 0x80) : turnsDirection c = false := by
  have hletters : rightToLeft.contains c = false := by
    refine RangeTable.contains_eq_false fun r hr => Or.inl ?_
    exact Nat.lt_of_lt_of_le hc (of_decide_eq_true (low_rightToLeft r hr))
  have hnumbers : arabicNumbers.contains c = false := by
    refine RangeTable.contains_eq_false fun r hr => Or.inl ?_
    exact Nat.lt_of_lt_of_le hc (of_decide_eq_true (low_arabicNumbers r hr))
  rw [turnsDirection, hletters, hnumbers]
  rfl

/-! ## Plain names -/

section

variable {name : List Char} (h : ∀ c ∈ name, IsSmall c)

include h

theorem mapped?_of_forall : mapped? name = some name := by
  rw [mapped?_of_not_isChanged fun c hc => (not_isChanged_iff_isSmall (h c hc).1).2 (h c hc),
    composed_of_forall fun c hc => (h c hc).1]

/-- **A name in its ASCII form.** -/
theorem toAscii?_of_forall
    (hl : ∀ label ∈ pieces '.' name, dropPrefix? encodedLead label = none) :
    toAscii? name = some name := by
  have hlow : ∀ label ∈ pieces '.' name, ∀ c ∈ label, c.toNat < 0x80 :=
    fun label hlabel c hc => (h c (mem_of_mem_pieces hlabel hc)).1
  have hascii : ∀ label ∈ pieces '.' name, isAscii label = true :=
    fun label hlabel => List.all_eq_true.2 fun c hc => decide_eq_true (hlow label hlabel c hc)
  have hread : (pieces '.' name).mapM readLabel? = some (pieces '.' name) := by
    rw [mapM_eq_some_map (g := id), List.map_id]
    intro label hlabel
    rw [readLabel?, hl label hlabel]
    rfl
  have hmixed : ((pieces '.' name).any fun label => label.any turnsDirection) = false := by
    refine List.any_eq_false.2 fun label hlabel => ?_
    rw [Bool.not_eq_true, List.any_eq_false]
    intro c hc
    rw [turnsDirection_of_lt (hlow label hlabel c hc)]
    exact Bool.false_ne_true
  have hlabels : (pieces '.' name).all (isLabel false) = true := by
    refine List.all_eq_true.2 fun label hlabel => ?_
    rw [isLabel, hascii label hlabel]
    rfl
  have hwrite : (pieces '.' name).mapM writeLabel? = some (pieces '.' name) := by
    rw [mapM_eq_some_map (g := id), List.map_id]
    intro label hlabel
    rw [writeLabel?, if_pos (hascii label hlabel)]
    rfl
  simp only [toAscii?, mapped?_of_forall h, hread, hmixed, hlabels, hwrite, Option.bind_eq_bind,
    Option.bind_some, if_true, join_pieces]

end

/-! ## Labels -/

/-- Is this a label in encoded form that is too long to be decoded? -/
def isOverlong (label : List Char) : Bool :=
  (dropPrefix? encodedLead label).any fun encoded => decodeLimit < encoded.length

structure IsRead (label : List Char) : Prop where
  mapped : mapped? label = some label
  noLead : dropPrefix? encodedLead label = none
  noDot : '.' ∉ label

variable {name mapped piece label written : List Char}

theorem decodeLabel?_eq_some_iff {encoded : List Char} : decodeLabel? encoded = some label ↔
    encoded.length ≤ decodeLimit ∧ Punycode.decode? encoded = some label ∧
      isAscii label = false ∧ mapped? label = some label ∧
      dropPrefix? encodedLead label = none := by
  unfold decodeLabel?
  by_cases hlong : decodeLimit < encoded.length
  · rw [if_pos hlong]
    constructor
    · intro h
      cases h
    · intro h
      exact absurd hlong (Nat.not_lt.2 h.1)
  rw [if_neg hlong]
  cases hdecode : Punycode.decode? encoded with
  | none => simp
  | some read =>
  cases hmapped : mapped? read with
  | none =>
    constructor
    · intro h
      rw [Option.bind_eq_bind, Option.bind_some, hmapped] at h
      cases h
    · rintro ⟨-, heq, -, hsame, -⟩
      obtain rfl := Option.some.inj heq
      rw [hmapped] at hsame
      cases hsame
  | some again =>
    rw [Option.bind_eq_bind, Option.bind_some, hmapped]
    show (if (isAscii read || decide (again ≠ read) ||
      (dropPrefix? encodedLead read).isSome) = true then none else some read) = some label ↔ _
    rw [Option.ite_none_left_eq_some]
    constructor
    · rintro ⟨hno, heq⟩
      obtain rfl := Option.some.inj heq
      simp only [Bool.or_eq_true, not_or, Bool.not_eq_true, decide_eq_true_eq, Decidable.not_not,
        Option.isSome_eq_false_iff, Option.isNone_iff_eq_none] at hno
      obtain ⟨⟨hascii, rfl⟩, hnone⟩ := hno
      exact ⟨Nat.not_lt.1 hlong, rfl, hascii, hmapped, hnone⟩
    · rintro ⟨-, heq, hascii, hsame, hnone⟩
      obtain rfl := Option.some.inj heq
      rw [hmapped] at hsame
      obtain rfl := Option.some.inj hsame
      simp [hascii, hnone]

theorem isRead_of_readLabel? (hmapped : mapped? name = some mapped)
    (hpiece : piece ∈ pieces '.' mapped) (h : readLabel? piece = some label) :
    IsRead label ∧ (isAscii label = true → label = piece) := by
  have hnoDot := not_mem_of_mem_pieces '.' mapped piece hpiece
  unfold readLabel? at h
  split at h
  · rename_i encoded hlead
    obtain ⟨-, hdecode, hascii, hsame, hnone⟩ := decodeLabel?_eq_some_iff.1 h
    refine ⟨⟨hsame, hnone, fun hdot => ?_⟩, fun htrue => ?_⟩
    · rcases Punycode.mem_of_decode? hdecode _ hdot with hmem | hhigh
      · rw [eq_append_of_dropPrefix? hlead] at hnoDot
        exact hnoDot (List.mem_append_right _ hmem)
      · exact absurd hhigh (by decide)
    · rw [hascii] at htrue
      cases htrue
  · rename_i hlead
    obtain rfl := Option.some.inj h
    exact ⟨⟨mapped?_of_mem_pieces hmapped hpiece, hlead, hnoDot⟩, fun _ => rfl⟩

/-- ASCII characters of a label that is read are small. -/
theorem IsRead.isSmall (h : IsRead label) {c : Char} (hc : c ∈ label) (hlow : c.toNat < 0x80) :
    IsSmall c :=
  (not_isChanged_iff_isSmall hlow).1 (not_isChanged_of_mapped? h.mapped c hc)

/-- The written form of a label consists of small characters. -/
theorem IsRead.isSmall_of_writeLabel? (h : IsRead label)
    (hwrite : writeLabel? label = some written) : ∀ c ∈ written, IsSmall c ∧ c ≠ '.' := by
  have hdigit : ∀ n < 36, IsSmall (Punycode.digit n) ∧ Punycode.digit n ≠ '.' := by decide
  intro c hc
  unfold writeLabel? at hwrite
  split at hwrite
  · rename_i hascii
    obtain rfl := Option.some.inj hwrite
    have hlow := of_decide_eq_true (List.all_eq_true.1 hascii c hc)
    exact ⟨h.isSmall hc hlow, fun heq => h.noDot (heq ▸ hc)⟩
  · split at hwrite
    · cases hwrite
    · obtain rfl := Option.some.inj hwrite
      rcases List.mem_append.1 hc with hc | hc
      · have hlead : encodedLead = ['x', 'n', '-', '-'] := rfl
        have hall : ∀ c ∈ encodedLead, IsSmall c ∧ c ≠ '.' := by simp [hlead, IsSmall]
        exact hall c hc
      · rcases Punycode.mem_encode hc with ⟨hc, hlow⟩ | rfl | ⟨n, hn, rfl⟩
        · exact ⟨h.isSmall hc hlow, fun heq => h.noDot (heq ▸ hc)⟩
        · decide
        · exact hdigit n hn

/-- The written form of a label is read as the label. -/
theorem IsRead.readLabel?_of_writeLabel? (h : IsRead label)
    (hwrite : writeLabel? label = some written) :
    readLabel? written = if isOverlong written = true then none else some label := by
  unfold writeLabel? at hwrite
  split at hwrite
  · obtain rfl := Option.some.inj hwrite
    rw [readLabel?, isOverlong, h.noLead]
    rfl
  · rename_i hascii
    split at hwrite
    · cases hwrite
    · obtain rfl := Option.some.inj hwrite
      rw [readLabel?, isOverlong, dropPrefix?_append]
      show decodeLabel? (Punycode.encode label) = if decide (decodeLimit < _) = true then _ else _
      by_cases hlong : decodeLimit < (Punycode.encode label).length
      · rw [if_pos (decide_eq_true hlong), decodeLabel?, if_pos hlong]
        rfl
      · rw [if_neg (by simpa using hlong), decodeLabel?_eq_some_iff]
        exact ⟨Nat.not_lt.1 hlong, Punycode.decode?_encode label, Bool.not_eq_true _ ▸ hascii,
          h.mapped, h.noLead⟩

/-! ## Names -/

/-- The labels of a name, and how they are written. -/
structure Written (name : List Char) (labels written : List (List Char)) : Prop where
  read : ∃ mapped, mapped? name = some mapped ∧ (pieces '.' mapped).mapM readLabel? = some labels
  fit : labels.all (isLabel (labels.any fun label => label.any turnsDirection)) = true
  write : labels.mapM writeLabel? = some written

theorem toAscii?_eq_some_iff {ascii : List Char} : toAscii? name = some ascii ↔
    ∃ labels written, Written name labels written ∧ ascii = join ['.'] written := by
  unfold toAscii?
  simp only [Option.bind_eq_bind, Option.bind_eq_some_iff, Option.ite_none_right_eq_some]
  constructor
  · rintro ⟨mapped, hmapped, labels, hread, hfit, written, hwrite, hjoin⟩
    exact ⟨labels, written, ⟨⟨mapped, hmapped, hread⟩, hfit, hwrite⟩, (Option.some.inj hjoin).symm⟩
  · rintro ⟨labels, written, ⟨⟨mapped, hmapped, hread⟩, hfit, hwrite⟩, rfl⟩
    exact ⟨mapped, hmapped, labels, hread, hfit, written, hwrite, rfl⟩

section

variable {labels all : List (List Char)} (h : Written name labels all)

include h

theorem Written.isRead : ∀ label ∈ labels, IsRead label := by
  obtain ⟨⟨mapped, hmapped, hread⟩, -, -⟩ := h
  intro label hlabel
  obtain ⟨piece, hpiece, hpieceRead⟩ :=
    exists_of_forall₂ (mapM_eq_some_iff_forall₂.1 hread) hlabel
  exact (isRead_of_readLabel? hmapped hpiece hpieceRead).1

theorem Written.isSmall : ∀ written ∈ all, ∀ c ∈ written, IsSmall c ∧ c ≠ '.' := by
  intro written hwritten
  obtain ⟨label, hlabel, hwrite⟩ :=
    exists_of_forall₂ (mapM_eq_some_iff_forall₂.1 h.write) hwritten
  exact (h.isRead label hlabel).isSmall_of_writeLabel? hwrite

theorem Written.ne_nil : all ≠ [] := by
  obtain ⟨mapped, -, hread⟩ := h.read
  have hlength := (mapM_eq_some_iff_forall₂.1 hread).length_eq
  rw [(mapM_eq_some_iff_forall₂.1 h.write).length_eq] at hlength
  intro hnil
  rw [hnil, List.length_nil, List.length_eq_zero_iff] at hlength
  exact pieces_ne_nil '.' mapped hlength

/-- The written labels are read again. -/
theorem Written.mapM_readLabel? :
    all.mapM readLabel? = if all.any isOverlong = true then none else some labels := by
  have hread := h.isRead
  have hwrite := mapM_eq_some_iff_forall₂.1 h.write
  clear h
  induction hwrite with
  | nil => rfl
  | @cons label written labels all hwrite _ ih =>
    rw [List.mapM_cons, (hread label List.mem_cons_self).readLabel?_of_writeLabel? hwrite,
      ih fun other hother => hread other (List.mem_cons_of_mem label hother), List.any_cons]
    cases isOverlong written with
    | true => rfl
    | false => cases all.any isOverlong <;> rfl

theorem Written.pieces_join : pieces '.' (join ['.'] all) = all :=
  Text.pieces_join h.ne_nil fun written hwritten hdot => (h.isSmall written hwritten _ hdot).2 rfl

end

/-- A name in its ASCII form has no capital letters. -/
theorem isSmall_of_toAscii? {ascii : List Char} (h : toAscii? name = some ascii) :
    ∀ c ∈ ascii, IsSmall c := by
  obtain ⟨labels, all, hwritten, rfl⟩ := toAscii?_eq_some_iff.1 h
  intro c hc
  rcases mem_of_mem_join hc with hc | ⟨written, hmem, hc⟩
  · rw [List.mem_singleton.1 hc]
    decide
  · exact (hwritten.isSmall written hmem c hc).1

/-- **A name in its ASCII form is its own ASCII form.** -/
theorem toAscii?_toAscii? {ascii : List Char} (h : toAscii? name = some ascii) :
    toAscii? ascii = if (pieces '.' ascii).any isOverlong = true then none else some ascii := by
  obtain ⟨labels, all, hwritten, rfl⟩ := toAscii?_eq_some_iff.1 h
  have hmapped := mapped?_of_forall (isSmall_of_toAscii? h)
  have hread := hwritten.mapM_readLabel?
  unfold toAscii?
  rw [hmapped, Option.bind_eq_bind, Option.bind_some, hwritten.pieces_join, hread]
  cases all.any isOverlong with
  | true => rfl
  | false =>
    rw [if_neg Bool.false_ne_true, if_neg Bool.false_ne_true, Option.bind_eq_bind,
      Option.bind_some, if_pos hwritten.fit, hwritten.write]
    rfl

/-! ## Names with a colon -/

/-- A label with a colon, and digits behind it, is no encoded one. -/
theorem readLabel?_colon {s rest : List Char} (hrest : '-' ∉ rest)
    (h : readLabel? (s ++ ':' :: rest) = some label) : label = s ++ ':' :: rest := by
  unfold readLabel? at h
  split at h
  · rename_i encoded hlead
    obtain ⟨-, hdecode, -⟩ := decodeLabel?_eq_some_iff.1 h
    have hencoded : ∃ t, encoded = t ++ ':' :: rest := by
      rcases List.append_eq_append_iff.1 (eq_append_of_dropPrefix? hlead) with
        ⟨t, hs, hcut⟩ | ⟨t, hs, hcut⟩
      · cases t with
        | nil => exact ⟨[], hcut.symm⟩
        | cons c t =>
          rw [List.cons_append] at hcut
          have hcolon : ':' ∈ encodedLead := by
            rw [hs, (List.cons.inj hcut).1]
            simp
          exact absurd hcolon (by decide)
      · exact ⟨t, hcut⟩
    obtain ⟨t, rfl⟩ := hencoded
    rw [Punycode.decode?_eq_none (by decide) (by decide) hrest] at hdecode
    cases hdecode
  · exact (Option.some.inj h).symm

/-- A colon with digits behind it stays in the name. -/
theorem colon_mem_of_toAscii? {s rest ascii : List Char}
    (hsmall : ∀ c ∈ s ++ ':' :: rest, IsSmall c) (hrest : '-' ∉ rest ∧ '.' ∉ rest)
    (h : toAscii? (s ++ ':' :: rest) = some ascii) : ':' ∈ ascii := by
  obtain ⟨labels, all, hwritten, rfl⟩ := toAscii?_eq_some_iff.1 h
  obtain ⟨mapped, hmapped, hread⟩ := hwritten.read
  obtain rfl := Option.some.inj ((mapped?_of_forall hsmall).symm.trans hmapped)
  have hlast : ∃ last, last ++ ':' :: rest ∈ pieces '.' (s ++ ':' :: rest) := by
    obtain hs | ⟨before, after, rfl, hafter⟩ := eq_cutLast? '.' s
    · refine ⟨s, ?_⟩
      rw [pieces_of_not_mem (by simp [hs, hrest.2])]
      exact List.mem_singleton_self _
    · refine ⟨after, ?_⟩
      rw [List.append_assoc, List.cons_append, pieces_append_cons,
        pieces_of_not_mem (s := after ++ ':' :: rest) (by simp [hafter, hrest.2])]
      exact List.mem_append_right _ (List.mem_singleton_self _)
  obtain ⟨last, hlast⟩ := hlast
  obtain ⟨label, hlabel, hpiece⟩ :=
    exists_of_forall₂ (mapM_eq_some_iff_forall₂.1 hread).flip hlast
  obtain rfl := readLabel?_colon hrest.1 hpiece
  obtain ⟨written, hmem, hwrite⟩ :=
    exists_of_forall₂ (mapM_eq_some_iff_forall₂.1 hwritten.write).flip hlabel
  have hascii : isAscii (last ++ ':' :: rest) = true :=
    List.all_eq_true.2 fun c hc => decide_eq_true (hsmall c (mem_of_mem_pieces hlast hc)).1
  rw [writeLabel?, if_pos hascii] at hwrite
  obtain rfl := Option.some.inj hwrite
  obtain ⟨l, r, hjoin⟩ := exists_append_of_mem_join ['.'] hmem
  rw [hjoin]
  simp

end LoginGate.Url
