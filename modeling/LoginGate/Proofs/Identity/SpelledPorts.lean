import LoginGate.Identity.Derivation
import LoginGate.Proofs.Text.Runs
import LoginGate.Proofs.Url.Addresses
import LoginGate.Text.Bytes

/-!
# Ports that are spelled out

The reader of URLs forgets a port that is the default one of its scheme, so `spellsPort` looks for
it in the text.  The port of a target is the one that the URL spells out iff the two agree, or the
default does not matter:

    portOf text u = u.spelledPort ↔
      u.scheme is not wss or ftp ∨ u.unusualPort?.isSome ∨ spellsPort text = u.port.isSome

They agree on texts in the usual form (`IsUsual`), with the authority behind two slashes.
-/

namespace LoginGate

open LoginGate.Text

namespace Url

/-- The port that the URL spells out, or the one for its scheme: 443 if the connection is encrypted,
80 if not. -/
def spelledPort (u : Url) : Nat := u.port.getD (if u.scheme = "https".toList then 443 else 80)

/-! ## Hosts -/

theorem text_ne_nil_of_bracketedHost? {s : List Char} {host : Host}
    (h : bracketedHost? s = some host) : host.text ≠ [] := by
  obtain ⟨inner, -, h⟩ := Option.bind_eq_some_iff.1 h
  obtain ⟨l, hl, rfl⟩ := Option.map_eq_some_iff.1 h
  exact ipv6Text_ne_nil (length_of_ipv6? hl)

theorem text_ne_nil_of_webHost? {s : List Char} {host : Host} (h : webHost? s = some host) :
    host.text ≠ [] := by
  unfold webHost? at h
  split at h
  · exact text_ne_nil_of_bracketedHost? h
  · obtain ⟨raw, -, h⟩ := Option.bind_eq_some_iff.1 h
    obtain ⟨name, -, h⟩ := Option.bind_eq_some_iff.1 h
    split_ifs at h with hname hnumber
    · obtain ⟨n, -, rfl⟩ := Option.map_eq_some_iff.1 h
      exact ipv4Text_ne_nil n
    · obtain rfl := Option.some.inj h
      intro hnil
      have hempty : name = [] := hnil
      rw [hempty] at hname
      exact hname rfl

theorem escapeHostChar_ne_nil (c : Char) : escapeHostChar c ≠ [] := by
  unfold escapeHostChar
  split
  · obtain ⟨b, bytes, hbytes⟩ := List.exists_cons_of_ne_nil (utf8EncodeChar_ne_nil c)
    rw [hbytes, List.flatMap_cons]
    exact List.append_ne_nil_of_left_ne_nil (List.cons_ne_nil _ _) _
  · exact List.cons_ne_nil _ _

theorem text_ne_nil_of_otherHost? {s : List Char} {host : Host} (h : otherHost? s = some host) :
    host.text ≠ [] := by
  unfold otherHost? at h
  split at h
  · exact text_ne_nil_of_bracketedHost? h
  · cases h
  · rename_i hne _
    split_ifs at h
    obtain rfl := Option.some.inj h
    match s, hne with
    | c :: rest, _ =>
      show (c :: rest).flatMap escapeHostChar ≠ []
      rw [List.flatMap_cons]
      exact List.append_ne_nil_of_left_ne_nil (escapeHostChar_ne_nil c) _

/-! ## What was read -/

/-- The host and the port of an authority. -/
theorem ofAuthority?_eq_some {scheme s : List Char} {u : Url} (h : ofAuthority? scheme s = some u) :
    ∃ host port, u = ⟨scheme, host, port⟩ ∧
      let parts := cutHost false (afterCredentials
        (s.takeWhile fun c => !endsAuthority (isWebScheme scheme) c))
      (if isWebScheme scheme then webHost? parts.1 else otherHost? parts.1) = some host ∧
        port? parts.2 = some port := by
  unfold ofAuthority? at h
  dsimp only at h
  split_ifs at h ⊢
  all_goals
    obtain ⟨host, hhost, h⟩ := Option.bind_eq_some_iff.1 h
    obtain ⟨port, hport, h⟩ := Option.bind_eq_some_iff.1 h
    exact ⟨host, port, (Option.some.inj h).symm, hhost, hport⟩

theorem ofFile?_eq_some {s : List Char} {u : Url} (h : ofFile? s = some u) :
    ∃ a b rest host, s = a :: b :: rest ∧
      webHost? (rest.takeWhile fun c => !endsAuthority true c) = some host ∧
      u = ⟨fileScheme, host, none⟩ := by
  unfold ofFile? at h
  split at h
  · dsimp only at h
    split_ifs at h
    · cases h
    · obtain ⟨host, hhost, h⟩ := Option.bind_eq_some_iff.1 h
      split_ifs at h
      · cases h
      · exact ⟨_, _, _, host, rfl, hhost, (Option.some.inj h).symm⟩
  · cases h

/-- The reader that the scheme of a text leads to. -/
theorem ofChars?_eq_some {s : List Char} {u : Url} (h : ofChars? s = some u) :
    ∃ scheme rest, cutScheme? (cleaned s) = some (scheme, rest) ∧
      ((scheme = fileScheme ∧ ofFile? rest = some u) ∨
        (isWebScheme scheme = true ∧ ofAuthority? scheme (rest.dropWhile isSlash) = some u) ∨
        (scheme ≠ fileScheme ∧ isWebScheme scheme = false ∧ ∃ r, rest = '/' :: '/' :: r ∧
          ofAuthority? scheme r = some u)) := by
  obtain ⟨⟨scheme, rest⟩, hcut, h⟩ := Option.bind_eq_some_iff.1 h
  refine ⟨scheme, rest, hcut, ?_⟩
  dsimp only at h
  split_ifs at h with hfile hweb
  · exact Or.inl ⟨hfile, h⟩
  · exact Or.inr (Or.inl ⟨hweb, h⟩)
  · split at h
    · exact Or.inr (Or.inr ⟨hfile, Bool.eq_false_iff.2 hweb, _, rfl, h⟩)
    · cases h

theorem ne_fileScheme_of_isWebScheme {scheme : List Char} (h : isWebScheme scheme = true) :
    scheme ≠ fileScheme := by
  rintro rfl
  exact absurd h (by decide)

/-- A URL of the web, from its parts. -/
theorem ofChars?_web {s scheme rest name tail : List Char} {host : Host} {port : Option Nat}
    (hcut : cutScheme? (cleaned s) = some (scheme, rest)) (hweb : isWebScheme scheme = true)
    (hparts : cutHost false (afterCredentials
      ((rest.dropWhile isSlash).takeWhile fun c => !endsAuthority true c)) = (name, tail))
    (hhost : webHost? name = some host) (hport : port? tail = some port) :
    ofChars? s = some ⟨scheme, host, port⟩ := by
  unfold ofChars?
  rw [hcut, Option.bind_eq_bind, Option.bind_some]
  dsimp only
  rw [if_neg (ne_fileScheme_of_isWebScheme hweb), if_pos hweb, ofAuthority?]
  dsimp only
  rw [hweb, hparts]
  dsimp only
  rw [if_pos rfl, hhost, hport]
  rfl

/-- What is known of a URL by its scheme: how its host was read, and its port. -/
inductive IsParsed : Url → Prop
  | file {name : List Char} {host : Host} : webHost? name = some host →
      IsParsed ⟨fileScheme, host, none⟩
  | web {scheme name tail : List Char} {host : Host} {port : Option Nat} :
      isWebScheme scheme = true → webHost? name = some host → port? tail = some port →
      IsParsed ⟨scheme, host, port⟩
  | other {scheme name tail : List Char} {host : Host} {port : Option Nat} :
      scheme ≠ fileScheme → isWebScheme scheme = false → otherHost? name = some host →
      port? tail = some port → IsParsed ⟨scheme, host, port⟩

theorem isParsed_of_ofChars? {s : List Char} {u : Url} (h : ofChars? s = some u) : IsParsed u := by
  obtain ⟨scheme, rest, -, ⟨-, h⟩ | ⟨hweb, h⟩ | ⟨hfile, hweb, r, -, h⟩⟩ := ofChars?_eq_some h
  · obtain ⟨_, _, _, host, -, hhost, rfl⟩ := ofFile?_eq_some h
    exact .file hhost
  · obtain ⟨host, port, rfl, hhost, hport⟩ := ofAuthority?_eq_some h
    rw [if_pos hweb] at hhost
    exact .web hweb hhost hport
  · obtain ⟨host, port, rfl, hhost, hport⟩ := ofAuthority?_eq_some h
    rw [hweb, if_neg Bool.false_ne_true] at hhost
    exact .other hfile hweb hhost hport

theorem text_ne_nil_of_ofChars? {s : List Char} {u : Url} (h : ofChars? s = some u) :
    u.host.text ≠ [] := by
  cases isParsed_of_ofChars? h with
  | file hhost => exact text_ne_nil_of_webHost? hhost
  | web _ hhost _ => exact text_ne_nil_of_webHost? hhost
  | other _ _ hhost _ => exact text_ne_nil_of_otherHost? hhost

/-! ## Authorities -/

/-- A host goes on up to a colon that is not in brackets. -/
theorem cutHost_cons (inBrackets : Bool) (c : Char) (rest : List Char) :
    cutHost inBrackets (c :: rest) =
      if c = ':' ∧ inBrackets = false then ([], c :: rest)
      else (cutHost (if c = '[' then true else if c = ']' then false else inBrackets) rest).map
        (c :: ·) id := by
  have hcond : (c = ':' && !inBrackets) = true ↔ c = ':' ∧ inBrackets = false := by simp
  rw [cutHost]
  simp only [hcond]
  rfl

/-- The host and what is behind it make up the text; what is behind it starts with a colon. -/
theorem cutHost_append (inBrackets : Bool) (s : List Char) :
    (cutHost inBrackets s).1 ++ (cutHost inBrackets s).2 = s ∧
      ∀ c ∈ (cutHost inBrackets s).2.head?, c = ':' := by
  induction s generalizing inBrackets with
  | nil => exact ⟨rfl, nofun⟩
  | cons c rest ih =>
    rw [cutHost_cons]
    by_cases hcolon : c = ':' ∧ inBrackets = false
    · rw [if_pos hcolon]
      exact ⟨rfl, fun d hd => by rw [← Option.some.inj hd]; exact hcolon.1⟩
    · rw [if_neg hcolon]
      obtain ⟨happend, hhead⟩ :=
        ih (if c = '[' then true else if c = ']' then false else inBrackets)
      exact ⟨congrArg (c :: ·) happend, hhead⟩

/-- Colons belong to a host only behind a bracket. -/
theorem colon_not_mem_cutHost {s : List Char} (h : '[' ∉ s) : ':' ∉ (cutHost false s).1 := by
  induction s with
  | nil => exact List.not_mem_nil
  | cons c rest ih =>
    rw [List.mem_cons, not_or] at h
    rw [cutHost_cons, if_neg (Ne.symm h.1), ite_self]
    by_cases hcolon : c = ':' ∧ false = false
    · rw [if_pos hcolon]
      exact List.not_mem_nil
    · rw [if_neg hcolon]
      exact List.not_mem_cons_of_ne_of_not_mem (fun hc => hcolon ⟨hc.symm, rfl⟩) (ih h.2)

/-- The digits that spell out a port behind the last colon of a text. -/
def spelledDigits (s : List Char) : Bool :=
  match cutLast? ':' s with
  | some (_, port) => !port.isEmpty && port.all isDigit
  | none => false

theorem spelledDigits_append (s : List Char) {digits : List Char}
    (h : ∀ c ∈ digits, isDigit c = true) :
    spelledDigits (s ++ ':' :: digits) = !digits.isEmpty := by
  have hcolon : ':' ∉ digits := not_mem_of_digits h rfl
  rw [spelledDigits, cutLast?_append s hcolon]
  dsimp only
  rw [List.all_eq_true.2 h, Bool.and_true]

theorem spelledDigits_of_not_mem {s : List Char} (h : ':' ∉ s) : spelledDigits s = false := by
  rw [spelledDigits, cutLast?_of_not_mem h]

end Url

namespace NetworkTarget

open Url

theorem afterBracket_append (s : List Char) {rest : List Char} (h : ']' ∉ rest) :
    afterBracket (s ++ rest) = afterBracket s ++ rest := by
  obtain hs | ⟨before, after, rfl, hafter⟩ := eq_cutLast? ']' s
  · have hall : ']' ∉ s ++ rest := by
      rw [List.mem_append]
      exact not_or.2 ⟨hs, h⟩
    rw [afterBracket, cutLast?_of_not_mem hall, afterBracket, cutLast?_of_not_mem hs]
  · have hall : ']' ∉ after ++ rest := by
      rw [List.mem_append]
      exact not_or.2 ⟨hafter, h⟩
    rw [List.append_assoc, List.cons_append, afterBracket, cutLast?_append before hall,
      afterBracket, cutLast?_append before hafter]

theorem mem_of_mem_afterBracket {s : List Char} {c : Char} (h : c ∈ afterBracket s) : c ∈ s := by
  obtain hs | ⟨before, after, rfl, hafter⟩ := eq_cutLast? ']' s
  · rwa [afterBracket, cutLast?_of_not_mem hs] at h
  · rw [afterBracket, cutLast?_append before hafter] at h
    exact List.mem_append_right _ (List.mem_cons_of_mem _ h)

/-- The port that is looked for behind a host that can be read is the one that is read there. -/
theorem spelledDigits_afterBracket {s : List Char} (hbracket : '[' ∉ s.drop 1) (hslash : '\\' ∉ s)
    {host : Host} (hhost : webHost? (cutHost false s).1 = some host) {port : Option Nat}
    (hport : port? (cutHost false s).2 = some port) :
    spelledDigits (afterBracket s) = port.isSome := by
  obtain ⟨happend, hhead⟩ := cutHost_append false s
  match htail : (cutHost false s).2 with
  | [] =>
    rw [htail, List.append_nil] at happend
    rw [htail] at hport
    obtain rfl := Option.some.inj hport
    rw [happend] at hhost
    by_cases hopen : ∃ inner, s = '[' :: inner
    · -- an address ends with its bracket
      obtain ⟨inner, rfl⟩ := hopen
      obtain ⟨address, haddress, -⟩ := Option.bind_eq_some_iff.1 hhost
      rw [eq_append_of_dropSuffix? haddress, ← List.cons_append, afterBracket,
        cutLast?_append _ List.not_mem_nil]
      rfl
    · have hnone : '[' ∉ s := by
        cases s with
        | nil => exact List.not_mem_nil
        | cons c s =>
          exact List.not_mem_cons_of_ne_of_not_mem (fun h => hopen ⟨s, by rw [h]⟩) hbracket
      have hcolon := colon_not_mem_cutHost hnone
      rw [happend] at hcolon
      exact spelledDigits_of_not_mem fun h => hcolon (mem_of_mem_afterBracket h)
  | c :: digits =>
    rw [htail] at hport hhead happend
    obtain rfl := hhead c rfl
    have hrun : digits.takeWhile (· != '\\') = digits := by
      rw [List.takeWhile_eq_self_iff]
      intro d hd
      rw [bne_iff_ne]
      rintro rfl
      exact hslash (happend ▸ List.mem_append_right _ (List.mem_cons_of_mem _ hd))
    simp only [port?, hrun] at hport
    have hdigits : ∀ d ∈ digits, isDigit d = true := by
      split at hport
      · rename_i hempty
        rw [List.isEmpty_iff.1 hempty]
        exact nofun
      · obtain ⟨n, hn, -⟩ := Option.map_eq_some_iff.1 hport
        exact isDigit_of_decimalValue? (Option.filter_eq_some_iff.1 hn).1
    have hclose : ']' ∉ ':' :: digits :=
      List.not_mem_cons_of_ne_of_not_mem (by decide) (not_mem_of_digits hdigits rfl)
    rw [← happend, afterBracket_append _ hclose, spelledDigits_append _ hdigits]
    split at hport
    · rename_i hempty
      rw [← Option.some.inj hport, hempty]
      rfl
    · rename_i hempty
      obtain ⟨n, -, rfl⟩ := Option.map_eq_some_iff.1 hport
      rw [Bool.eq_false_iff.2 hempty]
      rfl

/-! ## Texts -/

/-- A text in the usual form: a scheme, two slashes, an authority in which only the host may start
with a bracket, and no control characters. -/
structure IsUsual (text : List Char) : Prop where
  parts : ∃ scheme authority rest, text = scheme ++ ':' :: '/' :: '/' :: (authority ++ rest) ∧
    (∀ c ∈ scheme, isSchemeChar c = true) ∧ authority ≠ [] ∧
    (∀ c ∈ authority, endsAuthority true c = false) ∧
    (∀ c ∈ rest.head?, endsAuthority false c = true) ∧
    '[' ∉ (afterCredentials authority).drop 1
  no_control : ∀ c ∈ text, 0x20 ≤ c.toNat

theorem cleaned_of_forall {text : List Char} (htrim : trimChars text = text)
    (h : ∀ c ∈ text, 0x20 ≤ c.toNat) : cleaned text = text := by
  obtain ⟨hfirst, hlast⟩ := dropWhile_of_trimChars htrim
  -- among these characters only the space is not read at the ends
  have hspace {c : Char} (hc : c ∈ text) (hblank : isBlank c = false) :
      ¬ decide (c.toNat ≤ 0x20) = true := by
    rw [decide_eq_true_eq]
    intro hle
    have heq : c.toNat = 0x20 := Nat.le_antisymm hle (h c hc)
    simp [isBlank, heq] at hblank
  have hleft : text.dropWhile (fun c => decide (c.toNat ≤ 0x20)) = text := by
    rw [List.dropWhile_eq_self_iff] at hfirst ⊢
    exact fun hl => hspace (List.getElem_mem hl) (Bool.eq_false_iff.2 (hfirst hl))
  have hright : text.rdropWhile (fun c => decide (c.toNat ≤ 0x20)) = text := by
    rw [List.rdropWhile_eq_self_iff] at hlast ⊢
    exact fun hne => hspace (List.getLast_mem hne) (Bool.eq_false_iff.2 (hlast hne))
  have hstrip : stripWhile (fun c => decide (c.toNat ≤ 0x20)) text = text := by
    show (text.dropWhile (fun c => decide (c.toNat ≤ 0x20))).rdropWhile _ = text
    rw [hleft, hright]
  rw [cleaned, hstrip, List.filter_eq_self]
  intro c hc
  have hle := h c hc
  rw [Bool.not_eq_true', isSkipped, Bool.or_eq_false_iff, Bool.or_eq_false_iff]
  refine ⟨⟨?_, ?_⟩, ?_⟩
  all_goals
    rw [decide_eq_false_iff_not]
    rintro rfl
    exact absurd hle (by decide)

theorem cutAtSlashes?_append {scheme : List Char} (h : ∀ c ∈ scheme, isSchemeChar c = true)
    (rest : List Char) :
    cutAtSlashes? (scheme ++ ':' :: '/' :: '/' :: rest) = some (scheme ++ [':'], rest) := by
  induction scheme with
  | nil => rfl
  | cons c scheme ih =>
    have hslash : c ≠ '/' := by
      rintro rfl
      exact absurd (h '/' List.mem_cons_self) (by decide)
    rw [List.cons_append, cutAtSlashes?, ih fun d hd => h d (List.mem_cons_of_mem c hd)]
    · rfl
    · exact fun _ hc _ => hslash hc

theorem cutScheme?_append {scheme : List Char} (h : ∀ c ∈ scheme, isSchemeChar c = true)
    {rest : List Char} {cut : List Char × List Char}
    (hcut : cutScheme? (scheme ++ ':' :: rest) = some cut) : cut.2 = rest := by
  have hcolon : EndsRun isSchemeChar (':' :: rest) := endsRun_cons rfl rest
  simp only [cutScheme?, takeWhile_run h hcolon, dropWhile_run h hcolon] at hcut
  split at hcut
  · rename_i hrest
    split at hcut
    · rw [← Option.some.inj hcut]
      exact (List.cons.inj hrest).2.symm
    · cases hcut
  · cases hcut

theorem mem_of_mem_afterCredentials {s : List Char} {c : Char} (h : c ∈ afterCredentials s) :
    c ∈ s := by
  obtain hs | ⟨before, after, rfl, hafter⟩ := eq_cutLast? '@' s
  · rwa [afterCredentials, cutLast?_of_not_mem hs] at h
  · rw [afterCredentials, cutLast?_append before hafter] at h
    exact List.mem_append_right _ (List.mem_cons_of_mem _ h)

/-- In a text of the usual form the port is found iff the URL spells one out. -/
theorem spellsPort_of_isUsual {text : List Char} (htrim : trimChars text = text)
    (h : IsUsual text) {u : Url} (hu : ofChars? text = some u)
    (hweb : isWebScheme u.scheme = true) : spellsPort text = u.port.isSome := by
  have hcleaned := cleaned_of_forall htrim h.no_control
  obtain ⟨scheme, authority, rest, rfl, hscheme, hne, hauthority, hrest, hbracket⟩ := h.parts
  have hends {c : Char} (hc : endsAuthority true c = false) :
      c ≠ '/' ∧ c ≠ '?' ∧ c ≠ '#' ∧ c ≠ '\\' := by
    simp only [endsAuthority, Bool.true_and, Bool.or_eq_false_iff, decide_eq_false_iff_not] at hc
    exact ⟨hc.1.1.1, hc.1.1.2, hc.1.2, hc.2⟩
  have hstops {c : Char} (hc : endsAuthority false c = true) : c = '/' ∨ c = '?' ∨ c = '#' := by
    simpa [endsAuthority, or_assoc] using hc
  -- where the program looks
  have hlook : spellsPort (scheme ++ ':' :: '/' :: '/' :: (authority ++ rest)) =
      spelledDigits (afterBracket (afterCredentials authority)) := by
    have hrun : ∀ c ∈ authority, (c ≠ '/' && c ≠ '?' && c ≠ '#') = true := fun c hc => by
      obtain ⟨h₁, h₂, h₃, -⟩ := hends (hauthority c hc)
      simp [h₁, h₂, h₃]
    have hstop : EndsRun (fun c => c ≠ '/' && c ≠ '?' && c ≠ '#') rest := fun c hc => by
      obtain rfl | rfl | rfl := hstops (hrest c hc) <;> rfl
    rw [spellsPort, cutAtSlashes?_append hscheme]
    simp only [takeWhile_run hrun hstop]
    rfl
  -- what the URL is read from
  rw [hlook]
  obtain ⟨name, tail, hcut, hread⟩ := ofChars?_eq_some hu
  rw [hcleaned] at hcut
  obtain rfl : tail = _ := cutScheme?_append hscheme hcut
  obtain ⟨-, hfile⟩ | ⟨hname, hread⟩ | ⟨-, hname, r, -, hread⟩ := hread
  · obtain ⟨_, _, _, host, -, -, rfl⟩ := ofFile?_eq_some hfile
    exact absurd rfl (ne_fileScheme_of_isWebScheme hweb)
  · have hslashes : ('/' :: '/' :: (authority ++ rest)).dropWhile isSlash = authority ++ rest := by
      obtain ⟨c, authority, rfl⟩ := List.exists_cons_of_ne_nil hne
      obtain ⟨h₁, -, -, h₄⟩ := hends (hauthority c List.mem_cons_self)
      have hc : ¬ isSlash c = true := by simp [isSlash, h₁, h₄]
      rw [List.dropWhile_cons_of_pos rfl, List.dropWhile_cons_of_pos rfl, List.cons_append,
        List.dropWhile_cons_of_neg hc]
    rw [hslashes] at hread
    obtain ⟨host, port, rfl, hparts⟩ := ofAuthority?_eq_some hread
    have hrun : ∀ c ∈ authority, (!endsAuthority true c) = true := fun c hc => by
      rw [hauthority c hc]
      rfl
    have hstop : EndsRun (fun c => !endsAuthority true c) rest := fun c hc => by
      obtain rfl | rfl | rfl := hstops (hrest c hc) <;> rfl
    rw [hname] at hparts
    simp only [takeWhile_run hrun hstop, if_true] at hparts
    exact spelledDigits_afterBracket hbracket
      (fun hmem => (hends (hauthority _ (mem_of_mem_afterCredentials hmem))).2.2.2 rfl)
      hparts.1 hparts.2
  · obtain ⟨host, port, rfl, -⟩ := ofAuthority?_eq_some hread
    exact absurd hweb (Bool.eq_false_iff.1 hname)

/-! ## Targets -/

/-- The default port of a scheme is the usual one, but for `wss` and `ftp`. -/
theorem usual_eq_default_iff {scheme : List Char} {p : Nat} (h : defaultPort? scheme = some p) :
    (if scheme = "https".toList then 443 else 80) = p ↔
      scheme ≠ "wss".toList ∧ scheme ≠ "ftp".toList := by
  unfold defaultPort? at h
  split_ifs at h with h₁ h₂ h₃
  all_goals obtain rfl := Option.some.inj h
  · obtain rfl | rfl := h₁ <;> decide
  · obtain rfl | rfl := h₂ <;> decide
  · subst h₃
    decide

/-- The port of a target is the one that the URL spells out iff that is not a default one, or it is
found in the text, or the default port of the scheme is also the usual one. -/
theorem portOf_eq_iff (text : List Char) (u : Url) :
    portOf text u = u.spelledPort ↔
      (u.scheme ≠ "wss".toList ∧ u.scheme ≠ "ftp".toList) ∨ u.unusualPort?.isSome = true ∨
        spellsPort text = u.port.isSome := by
  have husual {p : Nat} (hdefault : defaultPort? u.scheme = some p) := usual_eq_default_iff hdefault
  have hother (hdefault : defaultPort? u.scheme = none) :
      u.scheme ≠ "wss".toList ∧ u.scheme ≠ "ftp".toList := by
    constructor
    all_goals
      intro heq
      rw [heq] at hdefault
      exact absurd hdefault (by decide)
  unfold portOf spelledPort unusualPort?
  dsimp only
  -- of the scheme only its ports matter now
  generalize (if u.scheme = "https".toList then 443 else 80) = usual at husual ⊢
  generalize (u.scheme ≠ "wss".toList ∧ u.scheme ≠ "ftp".toList) = plain at husual hother ⊢
  cases u.port with
  | none =>
    cases hdefault : defaultPort? u.scheme with
    | none => simp [hother hdefault]
    | some p =>
      rw [← husual hdefault]
      cases spellsPort text <;> simp [eq_comm]
  | some p =>
    by_cases hdefault : defaultPort? u.scheme = some p
    · rw [← husual hdefault, hdefault]
      cases spellsPort text <;> simp [Option.filter_some]
    · have hne : some p ≠ defaultPort? u.scheme := Ne.symm hdefault
      simp [Option.filter_some, hne]

/-- The first of two texts with a URL, blank characters at its ends left out. -/
inductive IsBasis (tokenEndpoint wellKnownURI : String) : List Char → Url → Prop
  | token {u : Url} : basis? (trimChars tokenEndpoint.toList) = some u →
      IsBasis tokenEndpoint wellKnownURI (trimChars tokenEndpoint.toList) u
  | wellKnown {u : Url} : basis? (trimChars tokenEndpoint.toList) = none →
      basis? (trimChars wellKnownURI.toList) = some u →
      IsBasis tokenEndpoint wellKnownURI (trimChars wellKnownURI.toList) u

/-- A basis in the usual form is read as it stands. -/
theorem basis?_of_isUsual {text : List Char} (h : IsUsual text) : basis? text = ofChars? text := by
  obtain ⟨scheme, authority, rest, rfl, hscheme, -⟩ := h.parts
  unfold basis?
  split
  · rename_i heq
    cases scheme with
    | nil => exact absurd (List.cons.inj heq).1 (by decide)
    | cons c scheme =>
      have hc := hscheme c List.mem_cons_self
      rw [(List.cons.inj heq).1] at hc
      exact absurd hc (by decide)
  · rfl

theorem text_ne_nil_of_basis? {text : List Char} {u : Url} (h : basis? text = some u) :
    u.host.text ≠ [] := by
  unfold basis? at h
  split at h
  · exact text_ne_nil_of_ofChars? h
  · exact text_ne_nil_of_ofChars? h

/-- In the usual form the port is the one that is spelled out. -/
theorem portOf_of_isUsual {text : List Char} (htrim : trimChars text = text) (h : IsUsual text)
    {u : Url} (hu : basis? text = some u) : portOf text u = u.spelledPort := by
  rw [portOf_eq_iff]
  by_cases hweb : isWebScheme u.scheme = true
  · rw [basis?_of_isUsual h] at hu
    exact Or.inr (Or.inr (spellsPort_of_isUsual htrim h hu hweb))
  · refine Or.inl ⟨?_, ?_⟩
    all_goals
      intro heq
      rw [heq] at hweb
      exact hweb (by decide)

/-- What a target has of the URL that it is derived from.  Its port is the one that is spelled out
iff the scheme is another than `wss` and `ftp`, or the port is another than the default one, or
looking for it in the text gives what the URL holds; so it is for texts in the usual form. -/
structure IsTargetOf (target : NetworkTarget) (text : List Char) (u : Url) : Prop where
  scheme : target.scheme = String.ofList u.scheme
  host : target.host = String.ofList u.host.text
  host_ne : target.host ≠ ""
  tls_iff : target.tls = true ↔ u.scheme = "https".toList
  port_iff : target.port = u.spelledPort ↔
    (u.scheme ≠ "wss".toList ∧ u.scheme ≠ "ftp".toList) ∨ u.unusualPort?.isSome = true ∨
      spellsPort text = u.port.isSome
  port_of_isUsual : IsUsual text → target.port = u.spelledPort

theorem exists_ofText? {s : String} {u : Url} (h : basis? (trimChars s.toList) = some u) :
    ∃ target, ofText? s = some target ∧ target.IsTargetOf (trimChars s.toList) u := by
  refine ⟨⟨String.ofList u.scheme, String.ofList u.host.text, portOf (trimChars s.toList) u⟩, ?_,
    ⟨rfl, rfl, fun hempty => ?_, ?_, portOf_eq_iff _ u,
      fun husual => portOf_of_isUsual (trimChars_trimChars _) husual h⟩⟩
  · rw [ofText?, h]
    rfl
  · exact text_ne_nil_of_basis? h (by simpa using congrArg String.toList hempty)
  · rw [tls, beq_iff_eq, ← String.toList_inj, String.toList_ofList]

/-- **A target is derived from the first of the two texts with a URL, and cannot be derived only if
neither has one.** -/
theorem derive_basis (tokenEndpoint wellKnownURI : String) :
    (basis? (trimChars tokenEndpoint.toList) = none ∧
      basis? (trimChars wellKnownURI.toList) = none ∧
      derive tokenEndpoint wellKnownURI =
        .error (.configuration (.hostUnknown tokenEndpoint wellKnownURI))) ∨
    ∃ text u target, IsBasis tokenEndpoint wellKnownURI text u ∧
      derive tokenEndpoint wellKnownURI = .ok target ∧ target.IsTargetOf text u := by
  have hnone {s : String} (h : basis? (trimChars s.toList) = none) : ofText? s = none := by
    rw [ofText?, h]
    rfl
  cases htoken : basis? (trimChars tokenEndpoint.toList) with
  | some u =>
    obtain ⟨target, htext, htarget⟩ := exists_ofText? htoken
    refine Or.inr ⟨_, u, target, .token htoken, ?_, htarget⟩
    rw [derive, htext]
    rfl
  | none =>
    cases hknown : basis? (trimChars wellKnownURI.toList) with
    | some u =>
      obtain ⟨target, htext, htarget⟩ := exists_ofText? hknown
      refine Or.inr ⟨_, u, target, .wellKnown htoken hknown, ?_, htarget⟩
      rw [derive, hnone htoken, htext]
      rfl
    | none =>
      refine Or.inl ⟨rfl, rfl, ?_⟩
      rw [derive, hnone htoken, hnone hknown]
      rfl

/-- Without slashes the port is not found. -/
theorem derive_basis_without_slashes :
    ∃ text u target, IsBasis "wss:[::1]:443/token" "" text u ∧
      derive "wss:[::1]:443/token" "" = .ok target ∧ u.port = some 443 ∧ target.port ≠ 443 := by
  have hbasis : basis? (trimChars "wss:[::1]:443/token".toList) =
      some ⟨"wss".toList, .ipv6 [0, 0, 0, 0, 0, 0, 0, 1], some 443⟩ := by decide +kernel
  obtain ⟨hnone, -⟩ | ⟨text, u, target, hu, hderive, htarget⟩ :=
    derive_basis "wss:[::1]:443/token" ""
  · exact absurd (hnone.symm.trans hbasis) (by decide)
  · cases hu with
    | token hu =>
      obtain rfl := Option.some.inj (hu.symm.trans hbasis)
      refine ⟨_, _, target, .token hbasis, hderive, rfl, fun hport => ?_⟩
      have hspelled := htarget.port_iff.1 hport
      exact absurd hspelled (by decide +kernel)
    | wellKnown hnone => exact absurd (hnone.symm.trans hbasis) (by decide)

end NetworkTarget

end LoginGate
