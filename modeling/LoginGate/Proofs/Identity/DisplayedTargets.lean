import LoginGate.Proofs.Identity.SpelledPorts
import LoginGate.Proofs.Url.Hosts

/-!
# The text of a target

A target is shown as `scheme://host:port`.  The URL that it was derived from has a scheme in small
letters (`IsScheme`) and a host that was read once, so the text is read as the same scheme and host
with the port spelled out (`ofChars?_displayed`), and the target is derived from its own text
(`derive_text`).  A text tells apart all targets, those with addresses of 128 bits included, though
these are shown without their brackets.
-/

namespace LoginGate

open LoginGate.Text

namespace Url

/-! ## Schemes -/

/-- A scheme as it is read, in small letters. -/
structure IsScheme (scheme : List Char) : Prop where
  lower : lowerAscii scheme = scheme
  char : ∀ c ∈ scheme, isSchemeChar c = true
  first : ∃ c rest, scheme = c :: rest ∧ isLetter c = true

theorem lt_of_isSchemeChar {c : Char} (h : isSchemeChar c = true) : c.toNat < 123 := by
  simp only [isSchemeChar, isLetter, isDigit, Bool.or_eq_true, Bool.and_eq_true,
    decide_eq_true_eq] at h
  rcases h with (((h | h) | rfl) | rfl) | rfl
  · omega
  · omega
  all_goals decide

theorem lowerChar_of_isSchemeChar {c : Char} (h : isSchemeChar c = true) :
    isSchemeChar (lowerChar c) = true ∧ lowerChar (lowerChar c) = lowerChar c ∧
      isLetter (lowerChar c) = isLetter c :=
  of_forall_lt (P := fun c => isSchemeChar c = true → isSchemeChar (lowerChar c) = true ∧
    lowerChar (lowerChar c) = lowerChar c ∧ isLetter (lowerChar c) = isLetter c)
    (by decide) (lt_of_isSchemeChar h) h

theorem visible_of_isSchemeChar {c : Char} (h : isSchemeChar c = true) : 0x20 < c.toNat :=
  of_forall_lt (P := fun c => isSchemeChar c = true → 0x20 < c.toNat)
    (by decide) (lt_of_isSchemeChar h) h

theorem isScheme_of_cutScheme? {s scheme rest : List Char}
    (h : cutScheme? s = some (scheme, rest)) : IsScheme scheme := by
  unfold cutScheme? at h
  split at h
  · rename_i c run _ hrun _
    obtain ⟨hletter, h⟩ := Option.ite_none_right_eq_some.1 h
    obtain rfl := (Prod.mk.inj (Option.some.inj h)).1
    have hchar : ∀ d ∈ c :: run, isSchemeChar d = true := fun d hd => by
      rw [← hrun] at hd
      exact List.mem_takeWhile_imp hd
    refine ⟨?_, ?_, lowerChar c, lowerAscii run, rfl, ?_⟩
    · rw [lowerAscii, lowerAscii, List.map_map]
      exact List.map_congr_left fun d hd => (lowerChar_of_isSchemeChar (hchar d hd)).2.1
    · intro d hd
      obtain ⟨e, he, rfl⟩ := List.mem_map.1 hd
      exact (lowerChar_of_isSchemeChar (hchar e he)).1
    · rw [(lowerChar_of_isSchemeChar (hchar c List.mem_cons_self)).2.2]
      exact hletter
  · cases h

theorem isScheme_of_ofChars? {s : List Char} {u : Url} (h : ofChars? s = some u) :
    IsScheme u.scheme := by
  obtain ⟨scheme, rest, hcut, hread⟩ := ofChars?_eq_some h
  have hscheme := isScheme_of_cutScheme? hcut
  obtain ⟨rfl, hread⟩ | ⟨-, hread⟩ | ⟨-, -, r, -, hread⟩ := hread
  · obtain ⟨_, _, _, host, -, -, rfl⟩ := ofFile?_eq_some hread
    exact hscheme
  · obtain ⟨host, port, rfl, -⟩ := ofAuthority?_eq_some hread
    exact hscheme
  · obtain ⟨host, port, rfl, -⟩ := ofAuthority?_eq_some hread
    exact hscheme

theorem IsScheme.cutScheme?_append {scheme : List Char} (h : IsScheme scheme) (rest : List Char) :
    cutScheme? (scheme ++ ':' :: rest) = some (scheme, rest) := by
  have hcolon : EndsRun isSchemeChar (':' :: rest) := endsRun_cons rfl rest
  obtain ⟨c, run, rfl, hletter⟩ := h.first
  unfold cutScheme?
  rw [takeWhile_run h.char hcolon, dropWhile_run h.char hcolon]
  show (if isLetter c = true then some (lowerAscii (c :: run), rest) else none) = _
  rw [if_pos hletter, h.lower]

/-! ## Authorities -/

theorem cutHost_append_colon {host : List Char} (h : ∀ c ∈ host, c ≠ ':' ∧ c ≠ '[')
    (rest : List Char) : cutHost false (host ++ ':' :: rest) = (host, ':' :: rest) := by
  induction host with
  | nil => rw [List.nil_append, cutHost_cons, if_pos ⟨rfl, rfl⟩]
  | cons c host ih =>
    obtain ⟨hcolon, hbracket⟩ := h c List.mem_cons_self
    rw [List.cons_append, cutHost_cons, if_neg fun hc => hcolon hc.1, if_neg hbracket, ite_self,
      ih fun d hd => h d (List.mem_cons_of_mem c hd)]
    rfl

theorem isHostChar_of_isDigit {c : Char} (h : isDigit c = true) : IsHostChar c :=
  isHostChar_of_inDomain (digit_allowed h).1 (digit_allowed h).2

theorem port?_decimal {port : Nat} (h : port ≤ maxPort) :
    port? (':' :: decimal port) = some (some port) := by
  have hrun : (decimal port).takeWhile (· != '\\') = decimal port := by
    rw [List.takeWhile_eq_self_iff]
    intro c hc
    exact bne_iff_ne.2 ((isHostChar_of_isDigit (isDigit_of_mem_decimal hc)).ne (by decide))
  have hne : (decimal port).isEmpty = false := List.isEmpty_eq_false_iff.2 (decimal_ne_nil port)
  show (if ((decimal port).takeWhile (· != '\\')).isEmpty = true then some none
    else ((decimalValue? ((decimal port).takeWhile (· != '\\'))).filter (· ≤ maxPort)).map some) = _
  rw [hrun, hne, if_neg Bool.false_ne_true, decimalValue?_decimal, Option.filter_some,
    if_pos (decide_eq_true h), Option.map_some]

section

variable {host : List Char} (h : ∀ c ∈ host, IsHostChar c) (port : Nat)

include h

theorem mem_authority {c : Char} (hc : c ∈ host ++ ':' :: decimal port) :
    IsHostChar c ∨ c = ':' := by
  rcases List.mem_append.1 hc with hc | hc
  · exact Or.inl (h c hc)
  · rcases List.mem_cons.1 hc with rfl | hc
    · exact Or.inr rfl
    · exact Or.inl (isHostChar_of_isDigit (isDigit_of_mem_decimal hc))

/-- No character of the authority is a forbidden one, the colon apart. -/
theorem not_mem_authority {c : Char} (hc : isForbidden c = true) (hcolon : c ≠ ':') :
    c ∉ host ++ ':' :: decimal port := fun hmem =>
  (mem_authority h port hmem).elim (fun hchar => hchar.ne hc rfl) hcolon

theorem endsAuthority_of_mem {web : Bool} {c : Char} (hc : c ∈ host ++ ':' :: decimal port) :
    endsAuthority web c = false := by
  have hne {d : Char} (hd : isForbidden d = true) (hcolon : d ≠ ':') : c ≠ d := by
    rintro rfl
    exact not_mem_authority h port hd hcolon hc
  simp [endsAuthority, hne (d := '/') (by decide) (by decide),
    hne (d := '?') (by decide) (by decide), hne (d := '#') (by decide) (by decide),
    hne (d := '\\') (by decide) (by decide)]

theorem afterCredentials_authority :
    afterCredentials (host ++ ':' :: decimal port) = host ++ ':' :: decimal port := by
  rw [afterCredentials, cutLast?_of_not_mem (not_mem_authority h port (by decide) (by decide))]

theorem takeWhile_authority (web : Bool) :
    ((host ++ ':' :: decimal port).takeWhile fun c => !endsAuthority web c) =
      host ++ ':' :: decimal port := by
  rw [List.takeWhile_eq_self_iff]
  intro c hc
  rw [endsAuthority_of_mem h port hc]
  rfl

theorem ofAuthority?_authority (scheme : List Char) (hport : port ≤ maxPort) :
    ofAuthority? scheme (host ++ ':' :: decimal port) =
      (if isWebScheme scheme then webHost? host else otherHost? host).map
        (⟨scheme, ·, some port⟩) := by
  have hcut : cutHost false (host ++ ':' :: decimal port) = (host, ':' :: decimal port) :=
    cutHost_append_colon (fun c hc => ⟨(h c hc).ne (by decide), (h c hc).ne (by decide)⟩) _
  unfold ofAuthority?
  dsimp only
  rw [takeWhile_authority h port, afterCredentials_authority h port, hcut]
  dsimp only
  rw [port?_decimal hport]
  cases isWebScheme scheme with
  | true => cases webHost? host <;> rfl
  | false => cases otherHost? host <;> rfl

end

/-! ## URLs that are shown -/

def displayed (u : Url) (port : Nat) : List Char :=
  u.scheme ++ ':' :: '/' :: '/' :: (u.host.text ++ ':' :: decimal port)

/-- A host that is shown without a colon consists of characters that end no part of a URL. -/
theorem IsParsed.isHostChar {u : Url} (h : IsParsed u) (hcolon : ':' ∉ u.host.text) :
    ∀ c ∈ u.host.text, IsHostChar c := by
  cases h with
  | file hhost => exact (isNamed_of_webHost? hhost hcolon).isHostChar
  | web _ hhost _ => exact (isNamed_of_webHost? hhost hcolon).isHostChar
  | other _ _ hhost _ =>
    obtain ⟨name, rfl, hname⟩ := exists_name_of_otherHost? hhost hcolon
    exact hname

section

variable {u : Url} (hscheme : IsScheme u.scheme) (hhost : ∀ c ∈ u.host.text, IsHostChar c)
  (port : Nat)

include hscheme hhost

theorem visible_of_mem_displayed {c : Char} (hc : c ∈ u.displayed port) :
    0x20 < c.toNat ∧ c.toNat < 0x7F := by
  rcases List.mem_append.1 hc with hc | hc
  · have hchar := hscheme.char c hc
    exact ⟨visible_of_isSchemeChar hchar, Nat.lt_trans (lt_of_isSchemeChar hchar) (by decide)⟩
  · simp only [List.mem_cons] at hc
    rcases hc with rfl | rfl | rfl | hc
    · decide
    · decide
    · decide
    · rcases mem_authority hhost port hc with hc | rfl
      · exact ⟨hc.low, hc.high⟩
      · decide

theorem trimChars_displayed : trimChars (u.displayed port) = u.displayed port := by
  refine trimChars_of_forall fun c hc => ?_
  obtain ⟨hlow, hhigh⟩ := visible_of_mem_displayed hscheme hhost port hc
  simp only [isBlank, Bool.or_eq_false_iff, Bool.and_eq_false_iff, decide_eq_false_iff_not,
    beq_eq_false_iff_ne]
  omega

theorem isUsual_displayed : NetworkTarget.IsUsual (u.displayed port) where
  parts := by
    refine ⟨u.scheme, u.host.text ++ ':' :: decimal port, [], ?_, hscheme.char, by simp,
      fun c hc => endsAuthority_of_mem hhost port hc, nofun, ?_⟩
    · rw [List.append_nil]
      rfl
    · rw [afterCredentials_authority hhost port]
      exact fun hc => not_mem_authority hhost port (c := '[') (by decide) (by decide)
        (List.mem_of_mem_drop hc)
  no_control c hc := Nat.le_of_lt (visible_of_mem_displayed hscheme hhost port hc).1

theorem cutScheme?_displayed : cutScheme? (cleaned (u.displayed port)) =
    some (u.scheme, '/' :: '/' :: (u.host.text ++ ':' :: decimal port)) := by
  rw [NetworkTarget.cleaned_of_forall (trimChars_displayed hscheme hhost port)
    (isUsual_displayed hscheme hhost port).no_control]
  exact hscheme.cutScheme?_append _

end

/-- Is there no URL with this scheme and host that spells out a port?  Those of files have none, and
in a host of the web a label is decoded only up to a length. -/
def isUnreadable (scheme host : List Char) : Bool :=
  scheme = fileScheme || (isWebScheme scheme && (pieces '.' host).any isOverlong)

/-- **A URL is read from what is shown of it, with the port that is shown.** -/
theorem ofChars?_displayed {s : List Char} {u : Url} (hu : ofChars? s = some u)
    (hcolon : ':' ∉ u.host.text) {port : Nat} (hport : port ≤ maxPort) :
    ofChars? (u.displayed port) =
      if isUnreadable u.scheme u.host.text = true then none
      else some ⟨u.scheme, u.host, some port⟩ := by
  have hscheme := isScheme_of_ofChars? hu
  have hparsed := isParsed_of_ofChars? hu
  have hhost := hparsed.isHostChar hcolon
  have hne := text_ne_nil_of_ofChars? hu
  unfold ofChars?
  rw [cutScheme?_displayed hscheme hhost port, Option.bind_eq_bind, Option.bind_some]
  dsimp only
  cases hparsed with
  | @file name host hfile =>
    rw [if_pos rfl, if_pos (by simp [isUnreadable])]
    refine Option.eq_none_iff_forall_ne_some.2 fun v hv => ?_
    obtain ⟨a, b, rest, other, hrest, hother, -⟩ := ofFile?_eq_some hv
    obtain rfl : _ = rest := (List.cons.inj (List.cons.inj hrest).2).2
    rw [takeWhile_authority hhost port, (isNamed_of_webHost? hfile hcolon).webHost?_colon] at hother
    cases hother
  | @web scheme name tail host old hweb hread hold =>
    have hfile := ne_fileScheme_of_isWebScheme hweb
    have hslashes : ('/' :: '/' :: (host.text ++ ':' :: decimal port)).dropWhile isSlash =
        host.text ++ ':' :: decimal port := by
      rw [List.dropWhile_cons_of_pos rfl, List.dropWhile_cons_of_pos rfl]
      obtain ⟨c, rest, hcons⟩ := List.exists_cons_of_ne_nil hne
      have hc := hhost c (hcons ▸ List.mem_cons_self)
      rw [hcons, List.cons_append, List.dropWhile_cons_of_neg]
      simp [isSlash, hc.ne (d := '/') (by decide), hc.ne (d := '\\') (by decide)]
    rw [if_neg hfile, if_pos hweb, hslashes, ofAuthority?_authority hhost port scheme hport,
      if_pos hweb, (isNamed_of_webHost? hread hcolon).webHost?_text]
    simp only [isUnreadable, hfile, hweb, decide_false, Bool.false_or, Bool.true_and]
    split <;> rfl
  | @other scheme name tail host old hfile hweb hread hold =>
    obtain ⟨known, rfl, hknown⟩ := exists_name_of_otherHost? hread hcolon
    have hnil : known ≠ [] := hne
    rw [if_neg hfile, if_neg (Bool.eq_false_iff.1 hweb)]
    show ofAuthority? scheme (known ++ ':' :: decimal port) = _
    rw [ofAuthority?_authority hknown port scheme hport, if_neg (Bool.eq_false_iff.1 hweb),
      otherHost?_of_forall hnil hknown]
    simp [isUnreadable, hfile, hweb]

/-! ## Ports -/

theorem le_of_port? {s : List Char} {port : Option Nat} (h : port? s = some port) :
    ∀ p ∈ port, p ≤ maxPort := by
  unfold port? at h
  split at h
  · dsimp only at h
    split at h
    · obtain rfl := Option.some.inj h
      exact nofun
    · obtain ⟨n, hn, rfl⟩ := Option.map_eq_some_iff.1 h
      intro p hp
      rw [← Option.some.inj hp]
      exact of_decide_eq_true (Option.filter_eq_some_iff.1 hn).2
  · obtain rfl := Option.some.inj h
    exact nofun

theorem IsParsed.port_le {u : Url} (h : IsParsed u) : ∀ p ∈ u.port, p ≤ maxPort := by
  cases h with
  | file _ => exact nofun
  | web _ _ hport => exact le_of_port? hport
  | other _ _ _ hport => exact le_of_port? hport

theorem defaultPort?_le {scheme : List Char} : ∀ p ∈ defaultPort? scheme, p ≤ maxPort := by
  unfold defaultPort?
  split_ifs <;> simp [maxPort]

end Url

namespace NetworkTarget

open Url

theorem portOf_le {u : Url} (h : ∀ p ∈ u.port, p ≤ maxPort) (text : List Char) :
    portOf text u ≤ maxPort := by
  have husual : (if u.scheme = "https".toList then 443 else 80) ≤ maxPort := by
    split <;> decide
  unfold portOf
  dsimp only
  split
  · rename_i port hport
    exact h port (Option.filter_eq_some_iff.1 hport).1
  · split
    · cases hport : u.port with
      | some port => exact h port hport
      | none =>
        cases hdefault : defaultPort? u.scheme with
        | some port => exact defaultPort?_le port hdefault
        | none => exact husual
    · exact husual

/-! ## Targets -/

/-- A target is derived from a URL that was read, with a port that can be spelled out. -/
theorem exists_url {s : String} {target : NetworkTarget} (h : ofText? s = some target) :
    ∃ text u port, ofChars? text = some u ∧ port ≤ maxPort ∧
      target = ⟨String.ofList u.scheme, String.ofList u.host.text, port⟩ := by
  obtain ⟨u, hu, rfl⟩ := Option.map_eq_some_iff.1 h
  obtain ⟨text, htext⟩ : ∃ text, ofChars? text = some u := by
    unfold basis? at hu
    split at hu
    · exact ⟨_, hu⟩
    · exact ⟨_, hu⟩
  exact ⟨text, u, _, htext, portOf_le (isParsed_of_ofChars? htext).port_le _, rfl⟩

theorem toList_text (u : Url) (port : Nat) :
    (text ⟨String.ofList u.scheme, String.ofList u.host.text, port⟩).toList = u.displayed port := by
  simp only [text, String.toList_append, String.toList_ofList, toList_repr, displayed,
    List.append_assoc]
  rfl

/-- The text of a target is read as the target. -/
theorem ofText?_text {s : String} {target : NetworkTarget} (h : ofText? s = some target)
    (hcolon : ':' ∉ target.host.toList) : ofText? target.text =
      if isUnreadable target.scheme.toList target.host.toList = true then none
      else some target := by
  obtain ⟨text, u, port, hu, hport, rfl⟩ := exists_url h
  simp only [String.toList_ofList] at hcolon ⊢
  have hscheme := isScheme_of_ofChars? hu
  have hhost := (isParsed_of_ofChars? hu).isHostChar hcolon
  have htrim := trimChars_displayed hscheme hhost port
  have husual := isUsual_displayed hscheme hhost port
  have hread := ofChars?_displayed hu hcolon hport
  rw [← basis?_of_isUsual husual] at hread
  unfold ofText?
  rw [toList_text, htrim]
  dsimp only
  split at hread
  · rename_i hunreadable
    rw [hread, if_pos hunreadable]
    rfl
  · rename_i hreadable
    rw [hread, if_neg hreadable, Option.map_some, portOf_of_isUsual htrim husual hread]
    rfl

/-- Different targets have different texts. -/
theorem eq_of_text_eq {s s' : String} {target target' : NetworkTarget}
    (h : ofText? s = some target) (h' : ofText? s' = some target')
    (htext : target.text = target'.text) : target = target' := by
  obtain ⟨_, u, port, hu, -, rfl⟩ := exists_url h
  obtain ⟨_, u', port', hu', -, rfl⟩ := exists_url h'
  have hdisplayed : u.displayed port = u'.displayed port' := by
    rw [← toList_text, ← toList_text, htext]
  -- the first colon ends the scheme, the last one the host
  have hcut := (isScheme_of_ofChars? hu).cutScheme?_append
    ('/' :: '/' :: (u.host.text ++ ':' :: decimal port))
  have hcut' := (isScheme_of_ofChars? hu').cutScheme?_append
    ('/' :: '/' :: (u'.host.text ++ ':' :: decimal port'))
  have hparts := Option.some.inj (hcut.symm.trans ((congrArg cutScheme? hdisplayed).trans hcut'))
  have hrest : u.host.text ++ ':' :: decimal port = u'.host.text ++ ':' :: decimal port' :=
    (List.cons.inj (List.cons.inj (Prod.mk.inj hparts).2).2).2
  have hlast (n : Nat) : ':' ∉ decimal n :=
    not_mem_of_digits (fun c hc => isDigit_of_mem_decimal hc) rfl
  have hends := cutLast?_append u.host.text (hlast port)
  rw [hrest, cutLast?_append u'.host.text (hlast port')] at hends
  obtain ⟨hhost, hport⟩ := Prod.mk.inj (Option.some.inj hends)
  have hvalue := decimalValue?_decimal port
  rw [← hport, decimalValue?_decimal port'] at hvalue
  rw [(Prod.mk.inj hparts).1, hhost, Option.some.inj hvalue]

theorem exists_of_derive {tokenEndpoint wellKnownURI : String} {target : NetworkTarget}
    (h : derive tokenEndpoint wellKnownURI = .ok target) : ∃ s, ofText? s = some target := by
  unfold derive at h
  split at h
  · rename_i read hread
    rw [← Except.ok.inj h]
    cases htoken : ofText? tokenEndpoint with
    | some first =>
      rw [htoken] at hread
      exact ⟨tokenEndpoint, htoken.trans hread⟩
    | none =>
      rw [htoken] at hread
      exact ⟨wellKnownURI, hread⟩
  · cases h

/-- **A target is derived from its own text, and a text is that of one target only.**  Left out are
hosts with a colon, the addresses of 128 bits (`colon_mem_text_iff`), which are shown without the
brackets of a URL; and where the text is none of a URL with a host, the other text alone decides. -/
theorem derive_text {tokenEndpoint wellKnownURI : String} {target : NetworkTarget}
    (h : derive tokenEndpoint wellKnownURI = .ok target) :
    (':' ∉ target.host.toList → ∀ uri, derive target.text uri =
      if isUnreadable target.scheme.toList target.host.toList = true then
        (ofText? uri).elim (.error (.configuration (.hostUnknown target.text uri))) .ok
      else .ok target) ∧
    ∀ tokenEndpoint' wellKnownURI' target', derive tokenEndpoint' wellKnownURI' = .ok target' →
      target'.text = target.text → target' = target := by
  obtain ⟨s, hs⟩ := exists_of_derive h
  refine ⟨fun hcolon uri => ?_, fun tokenEndpoint' wellKnownURI' target' h' htext => ?_⟩
  · rw [derive, ofText?_text hs hcolon]
    cases isUnreadable target.scheme.toList target.host.toList with
    | true => cases ofText? uri <;> rfl
    | false => rfl
  · obtain ⟨s', hs'⟩ := exists_of_derive h'
    exact eq_of_text_eq hs' hs htext

theorem ofText?_https_idp :
    ofText? "https://idp.example.com/token" = some ⟨"https", "idp.example.com", 443⟩ := by
  have hhost : webHost? "idp.example.com".toList = some (.domain "idp.example.com".toList) :=
    webHost?_of_isPlain rfl rfl
  have hparts : cutHost false (afterCredentials ("idp.example.com/token".toList.takeWhile
      fun c => !endsAuthority true c)) = ("idp.example.com".toList, []) := rfl
  have hread : ofChars? "https://idp.example.com/token".toList =
      some ⟨"https".toList, .domain "idp.example.com".toList, none⟩ :=
    ofChars?_web rfl rfl hparts hhost rfl
  have hbasis : basis? (trimChars "https://idp.example.com/token".toList) =
      ofChars? "https://idp.example.com/token".toList := rfl
  rw [ofText?, hbasis, hread]
  rfl

theorem derive_text_https_idp :
    derive "https://idp.example.com/token" "" = .ok ⟨"https", "idp.example.com", 443⟩ ∧
      derive "https://idp.example.com:443" "" = .ok ⟨"https", "idp.example.com", 443⟩ := by
  have h : derive "https://idp.example.com/token" "" = .ok ⟨"https", "idp.example.com", 443⟩ := by
    rw [derive, ofText?_https_idp]
    rfl
  exact ⟨h, (derive_text h).1 (by decide) ""⟩

theorem ofText?_file_idp : ofText? "file://idp/token" = some ⟨"file", "idp", 80⟩ := by
  have hhost : webHost? "idp".toList = some (.domain "idp".toList) := webHost?_of_isPlain rfl rfl
  have hname : "idp/token".toList.takeWhile (fun c => !endsAuthority true c) = "idp".toList := rfl
  have hfile : ofFile? ('/' :: '/' :: "idp/token".toList) =
      some ⟨fileScheme, .domain "idp".toList, none⟩ := by
    unfold ofFile?
    simp only [hname, hhost]
    rfl
  have hcut : cutScheme? (cleaned "file://idp/token".toList) =
      some (fileScheme, '/' :: '/' :: "idp/token".toList) := rfl
  have hbasis : basis? (trimChars "file://idp/token".toList) =
      ofChars? "file://idp/token".toList := rfl
  rw [ofText?, hbasis, ofChars?, hcut, Option.bind_eq_bind, Option.bind_some]
  dsimp only
  rw [if_pos rfl, hfile]
  rfl

/-- The text of a target names no host where it has an address without its brackets, or a file with
a port. -/
theorem not_derive_text :
    (derive "http://[::1]:9000/token" "" = .ok ⟨"http", "::1", 9000⟩ ∧
      derive (text ⟨"http", "::1", 9000⟩) "" =
        .error (.configuration (.hostUnknown "http://::1:9000" ""))) ∧
    (derive "file://idp/token" "" = .ok ⟨"file", "idp", 80⟩ ∧
      derive (text ⟨"file", "idp", 80⟩) "" =
        .error (.configuration (.hostUnknown "file://idp:80" ""))) := by
  refine ⟨⟨rfl, rfl⟩, ?_, ?_⟩
  · rw [derive, ofText?_file_idp]
    rfl
  · have hunreadable : isUnreadable "file".toList "idp".toList = true := rfl
    have hnone : ofText? (text ⟨"file", "idp", 80⟩) = none :=
      (ofText?_text ofText?_file_idp (by decide)).trans (if_pos hunreadable)
    rw [derive, hnone]
    rfl

end NetworkTarget

end LoginGate
