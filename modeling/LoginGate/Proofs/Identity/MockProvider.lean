import LoginGate.Identity.Provider
import LoginGate.Proofs.Filter.Consistency
import LoginGate.Proofs.Identity.SpelledPorts
import LoginGate.Proofs.Pattern.Search
import LoginGate.Proofs.Url.Hosts

/-!
# The provider that tests run against

`mockURI issuer` is the only form of URI that the built-in provider recognises, for any issuer with
a character and without a slash.  Whatever else an issuer holds, the URL of its endpoints has the
same scheme, host and port, so that its cluster is never reached over an encrypted connection:

    mock.endpoints? uri = some e ↔
      ∃ issuer, IsIssuer issuer ∧ uri = mockURI issuer ∧ e = mockEndpoints issuer
                                                                           (endpoints?_mock_iff)
    derive (mockEndpoints issuer).token (mockURI issuer) = .ok mockTarget         (derive_mock)
-/

namespace LoginGate

open LoginGate.Text LoginGate.Pattern

namespace Identity.Provider

/-- What stands before the issuer. -/
def mockOrigin : String := "http://mock-oauth2.auth:8080/"

/-- What stands behind the issuer. -/
def mockDocument : String := "/.well-known/openid-configuration"

def issuerPattern : Pattern := .repeated (.one (.complement (.single '/'))) 1 none true

/-- The pattern of an issuer between two texts that are spelled out. -/
def framedPattern (lead tail : List Char) : Pattern :=
  .seq (.look .textStart) (.seq
    (.group (some baseGroup) (.sequence (lead.map (fun c => .one (.single c)) ++ [issuerPattern])))
    (.sequence (tail.map (fun c => .one (.single c)) ++ [.look .textEnd])))

theorem mockPattern_eq : mockPattern = framedPattern mockOrigin.toList mockDocument.toList := rfl

example : Pattern.ofText?
    "^(?P<base>http://mock-oauth2\\.auth:8080/[^/]+)/\\.well-known/openid-configuration$" =
      some mockPattern := by decide +kernel

theorem contains_complement_slash (c : Char) :
    (CharSet.complement (.single '/')).contains c = true ↔ c ≠ '/' := by
  rw [CharSet.contains, CharSet.contains_single, Bool.not_eq_true', beq_eq_false_iff_ne]
  exact ne_comm

section

variable {position : Nat} {before : Option Char} {text : List Char} {rest : List Task}
  {opened : Nat} {captured : Option (Nat × Nat)} {v : Thread}

theorem finishes_issuer_iff :
    Finishes baseGroup position before text ⟨.match_ issuerPattern :: rest, opened, captured⟩ v ↔
      ∃ issuer text', text = issuer ++ text' ∧ (issuer ≠ [] ∧ '/' ∉ issuer) ∧
        Finishes baseGroup (position + issuer.length) (issuer.getLast?.or before) text'
          ⟨rest, opened, captured⟩ v := by
  have hshape : issuerPattern = .seq (.copies 0 (.one (.complement (.single '/'))))
      (.seq (.one (.complement (.single '/'))) (.loop true (.one (.complement (.single '/'))))) :=
    rfl
  rw [hshape, finishes_seq_iff, finishes_copies_zero_iff, finishes_seq_iff, finishes_one_iff]
  simp only [finishes_loop_one_iff, contains_complement_slash]
  constructor
  · rintro ⟨c, _, rfl, hc, run, text', rfl, hrun, h⟩
    refine ⟨c :: run, text', rfl, ⟨List.cons_ne_nil _ _, ?_⟩, ?_⟩
    · intro hm
      exact (List.mem_cons.1 hm).elim (fun he => hc he.symm) fun hm => hrun _ hm rfl
    · rwa [getLast?_cons_or, List.length_cons, Nat.add_comm run.length, ← Nat.add_assoc]
  · rintro ⟨issuer, text', rfl, ⟨hne, hslash⟩, h⟩
    obtain ⟨c, run, rfl⟩ := List.exists_cons_of_ne_nil hne
    rw [List.mem_cons, not_or] at hslash
    refine ⟨c, run ++ text', rfl, Ne.symm hslash.1, run, text', rfl, ?_, ?_⟩
    · rintro d hd rfl
      exact hslash.2 hd
    · rwa [getLast?_cons_or, List.length_cons, Nat.add_comm run.length, ← Nat.add_assoc] at h

end

/-- Where such a pattern matches: at the start of a text that is spelled out but for the issuer. -/
theorem starts_framed_iff (lead tail text : List Char) (v : Thread) :
    Starts baseGroup (framedPattern lead tail) 0 none text v ↔
      ∃ issuer, (issuer ≠ [] ∧ '/' ∉ issuer) ∧ text = lead ++ issuer ++ tail ∧
        v = ⟨[], 0, some (0, lead.length + issuer.length)⟩ := by
  unfold Starts framedPattern
  simp only [finishes_seq_iff, finishes_look_iff, finishes_group_iff, finishes_spelled_iff,
    sequence_singleton, finishes_issuer_iff, finishes_close_iff, finishes_nil_iff]
  constructor
  · rintro ⟨l, r, rfl, hl, s, rfl, issuer, s', rfl, hissuer, t, rfl, ht, rfl⟩
    obtain rfl : l = [] := by simpa [Boundary.holds] using hl
    obtain rfl : t = [] := by simpa [Boundary.holds] using ht
    refine ⟨issuer, hissuer, by simp, by simp⟩
  · rintro ⟨issuer, hissuer, rfl, rfl⟩
    refine ⟨[], _, rfl, rfl, issuer ++ tail, ?_, issuer, tail, rfl, hissuer, [], ?_, rfl, ?_⟩
    · exact List.append_assoc lead issuer tail
    · rw [List.append_nil]
    · simp

/-- What the group holds where such a pattern matches. -/
theorem captured?_framed (lead tail : List Char) {issuer : List Char}
    (h : issuer ≠ [] ∧ '/' ∉ issuer) :
    (framedPattern lead tail).captured? baseGroup (lead ++ issuer ++ tail) =
      some (lead ++ issuer) := by
  have hall : ∀ v, Starts baseGroup (framedPattern lead tail) 0 none (lead ++ issuer ++ tail) v →
      v.captured = some (0, lead.length + issuer.length) := by
    intro v hv
    obtain ⟨other, -, he, rfl⟩ := (starts_framed_iff _ _ _ _).1 hv
    rw [List.append_left_inj, List.append_right_inj] at he
    rw [he]
  rw [captured?_of_starts ⟨_, (starts_framed_iff _ _ _ _).2 ⟨issuer, h, rfl, rfl⟩⟩ hall,
    List.drop_zero, Nat.sub_zero, ← List.length_append, List.take_left]

/-! ## Endpoints -/

/-- An issuer has a character, and none of its characters is a slash. -/
def IsIssuer (issuer : String) : Prop := issuer ≠ "" ∧ '/' ∉ issuer.toList

/-- The URI of the discovery document of an issuer. -/
def mockURI (issuer : String) : String := mockOrigin ++ issuer ++ mockDocument

def mockEndpoints (issuer : String) : Endpoints where
  authorize := mockOrigin ++ issuer ++ "/authorize"
  token := mockOrigin ++ issuer ++ "/token"
  endSession := some (mockOrigin ++ issuer ++ "/endsession")

theorem toList_mockURI (issuer : String) :
    (mockURI issuer).toList = mockOrigin.toList ++ issuer.toList ++ mockDocument.toList := by
  rw [mockURI, String.toList_append, String.toList_append]

theorem mockURI_injective {one other : String} (h : mockURI one = mockURI other) : one = other := by
  have hl := congrArg String.toList h
  rw [toList_mockURI, toList_mockURI, List.append_left_inj, List.append_right_inj] at hl
  exact String.toList_inj.1 hl

theorem endpoints?_mockURI {issuer : String} (h : IsIssuer issuer) :
    mock.endpoints? (mockURI issuer) = some (mockEndpoints issuer) := by
  have hne : issuer.toList ≠ [] := fun hn => h.1 (String.toList_eq_nil_iff.1 hn)
  have hbase : String.ofList (mockOrigin.toList ++ issuer.toList) = mockOrigin ++ issuer := by
    rw [← String.toList_append, String.ofList_toList]
  rw [endpoints?, toList_mockURI]
  show ((mockPattern.captured? baseGroup _).map _) = _
  rw [mockPattern_eq, captured?_framed _ _ ⟨hne, h.2⟩, Option.map_some, hbase]
  rfl

/-- **What the built-in provider recognises.** -/
theorem endpoints?_mock_iff (uri : String) (e : Endpoints) :
    mock.endpoints? uri = some e ↔
      ∃ issuer, IsIssuer issuer ∧ uri = mockURI issuer ∧ e = mockEndpoints issuer := by
  constructor
  · intro h
    by_cases hs : ∃ v, Starts baseGroup mockPattern 0 none uri.toList v
    · obtain ⟨v, hv⟩ := hs
      rw [mockPattern_eq, starts_framed_iff] at hv
      obtain ⟨issuer, ⟨hne, hslash⟩, he, -⟩ := hv
      have hissuer : IsIssuer (String.ofList issuer) := by
        refine ⟨fun hn => hne ?_, ?_⟩
        · simpa using congrArg String.toList hn
        · rwa [String.toList_ofList]
      have huri : uri = mockURI (String.ofList issuer) := by
        rw [← String.toList_inj, toList_mockURI, String.toList_ofList, he]
      rw [huri, endpoints?_mockURI hissuer] at h
      exact ⟨String.ofList issuer, hissuer, huri, (Option.some.inj h).symm⟩
    · rw [endpoints?] at h
      rw [show mock.pattern = mockPattern from rfl,
        captured?_of_not_starts fun v hv => hs ⟨v, hv⟩] at h
      cases h
  · rintro ⟨issuer, h, rfl, rfl⟩
    exact endpoints?_mockURI h

/-! ## The target -/

def mockScheme : List Char := ['h', 't', 't', 'p']

def mockHost : List Char := "mock-oauth2.auth".toList

def mockAuthority : List Char := "mock-oauth2.auth:8080".toList

theorem toList_mockOrigin :
    mockOrigin.toList = mockScheme ++ ':' :: '/' :: '/' :: (mockAuthority ++ ['/']) := by
  rfl

/-- Nothing is cut off behind the origin of an issuer if the last character stays. -/
theorem stripWhile_mockOrigin {p : Char → Bool} (hp : p 'h' = false) (s : List Char) {c : Char}
    (hc : p c = false) :
    stripWhile p (mockOrigin.toList ++ (s ++ [c])) = mockOrigin.toList ++ (s ++ [c]) := by
  have hfirst : ∃ d u, mockOrigin.toList ++ (s ++ [c]) = d :: u ∧ p d = false := by
    rw [toList_mockOrigin]
    exact ⟨'h', _, rfl, hp⟩
  have hlast : ∃ u d, mockOrigin.toList ++ (s ++ [c]) = u ++ [d] ∧ p d = false :=
    ⟨mockOrigin.toList ++ s, c, (List.append_assoc _ _ _).symm, hc⟩
  have h := stripWhile_append (l := []) (r := []) rfl rfl hfirst hlast
  rwa [List.nil_append, List.append_nil] at h

/-- Behind the origin of an issuer only what is not read is left out. -/
theorem cleaned_mockOrigin (s : List Char) {c : Char} (hc : 0x20 < c.toNat) :
    Url.cleaned (mockOrigin.toList ++ (s ++ [c])) =
      mockOrigin.toList ++ (s ++ [c]).filter fun c => !Url.isSkipped c := by
  have hkept : mockOrigin.toList.filter (fun c => !Url.isSkipped c) = mockOrigin.toList := by
    rfl
  rw [Url.cleaned, stripWhile_mockOrigin rfl s (decide_eq_false (Nat.not_le.2 hc)),
    List.filter_append, hkept]

theorem cutScheme?_mock (rest : List Char) :
    Url.cutScheme? (mockScheme ++ ':' :: rest) = some (mockScheme, rest) := by
  have hrun : ∀ c ∈ mockScheme, Url.isSchemeChar c = true := List.all_eq_true.1 rfl
  have hcolon : EndsRun Url.isSchemeChar (':' :: rest) := endsRun_cons rfl rest
  unfold Url.cutScheme?
  rw [takeWhile_run hrun hcolon, dropWhile_run hrun hcolon]
  rfl

/-- The host of every issuer is read as it is. -/
theorem webHost?_mock : Url.webHost? mockHost = some (.domain mockHost) :=
  Url.webHost?_of_isPlain rfl rfl

/-- The authority of every issuer, whatever is behind its slash. -/
theorem ofAuthority?_mock (rest : List Char) :
    Url.ofAuthority? mockScheme (mockAuthority ++ '/' :: rest) =
      some ⟨mockScheme, .domain mockHost, some 8080⟩ := by
  have hrun : ∀ c ∈ mockAuthority, (!Url.endsAuthority true c) = true :=
    List.all_eq_true.1 rfl
  have hstop : EndsRun (fun c => !Url.endsAuthority true c) ('/' :: rest) := endsRun_cons rfl rest
  have hweb : Url.isWebScheme mockScheme = true := rfl
  have hcut : Url.cutHost false (Url.afterCredentials mockAuthority) =
      (mockHost, ":8080".toList) := rfl
  have hport : Url.port? ":8080".toList = some (some 8080) := rfl
  unfold Url.ofAuthority?
  simp only [hweb, takeWhile_run hrun hstop, hcut, webHost?_mock, hport, if_true]
  rfl

/-- Behind the origin of an issuer anything may follow that does not end in a control character. -/
theorem ofChars?_mockOrigin (s : List Char) {c : Char} (hc : 0x20 < c.toNat) :
    Url.ofChars? (mockOrigin.toList ++ (s ++ [c])) =
      some ⟨mockScheme, .domain mockHost, some 8080⟩ := by
  have hslash (rest : List Char) : ('/' :: '/' :: (mockAuthority ++ rest)).dropWhile Url.isSlash =
      mockAuthority ++ rest := by
    have hm : mockAuthority = 'm' :: mockAuthority.tail := rfl
    rw [List.dropWhile_cons_of_pos rfl, List.dropWhile_cons_of_pos rfl, hm, List.cons_append,
      List.dropWhile_cons_of_neg (by decide)]
  have hfile : mockScheme ≠ Url.fileScheme := by decide
  have hweb : Url.isWebScheme mockScheme = true := rfl
  unfold Url.ofChars?
  rw [cleaned_mockOrigin s hc, toList_mockOrigin, List.append_assoc, List.cons_append,
    cutScheme?_mock, Option.bind_eq_bind, Option.bind_some]
  simp only [if_neg hfile, hweb, if_true, List.cons_append, List.append_assoc, List.nil_append,
    hslash]
  exact ofAuthority?_mock _

def mockTarget : NetworkTarget := ⟨"http", "mock-oauth2.auth", 8080⟩

/-- Behind the origin of an issuer anything may follow, as long as its last character is neither
blank nor a control character. -/
theorem ofText?_mockOrigin (s : String) {t : List Char} {c : Char} (hs : s.toList = t ++ [c])
    (hc : 0x20 < c.toNat) (hblank : isBlank c = false) :
    NetworkTarget.ofText? (mockOrigin ++ s) = some mockTarget := by
  have htrim : trimChars (mockOrigin ++ s).toList = mockOrigin.toList ++ (t ++ [c]) := by
    rw [String.toList_append, hs]
    exact stripWhile_mockOrigin (by decide) t hblank
  have hbasis : NetworkTarget.basis? (mockOrigin.toList ++ (t ++ [c])) =
      some ⟨mockScheme, .domain mockHost, some 8080⟩ := by
    rw [← ofChars?_mockOrigin t hc, toList_mockOrigin]
    rfl
  have hport (text : List Char) :
      NetworkTarget.portOf text ⟨mockScheme, .domain mockHost, some 8080⟩ = 8080 := by
    have h : Url.unusualPort? ⟨mockScheme, .domain mockHost, some 8080⟩ = some 8080 := by
      rfl
    rw [NetworkTarget.portOf, h]
  have hscheme : String.ofList mockScheme = "http" := rfl
  have hhost : String.ofList mockHost = "mock-oauth2.auth" := String.ofList_toList
  rw [NetworkTarget.ofText?, htrim, hbasis, Option.map_some, hport, hscheme]
  show some (NetworkTarget.mk "http" (String.ofList mockHost) 8080) = _
  rw [hhost]
  rfl

theorem derive_mock (issuer : String) :
    NetworkTarget.derive (mockEndpoints issuer).token (mockURI issuer) = .ok mockTarget := by
  have hlast : (issuer ++ "/token").toList = (issuer.toList ++ "/toke".toList) ++ ['n'] := by
    have h : "/token".toList = "/toke".toList ++ ['n'] := rfl
    rw [String.toList_append, h, List.append_assoc]
  have htext : (mockEndpoints issuer).token = mockOrigin ++ (issuer ++ "/token") :=
    String.append_assoc
  have htoken := ofText?_mockOrigin (issuer ++ "/token") hlast (by decide) (by decide)
  rw [NetworkTarget.derive, htext, htoken]
  rfl

theorem trim_mockURI (issuer : String) : trim (mockURI issuer) = mockURI issuer := by
  have hlast : mockDocument.toList = "/.well-known/openid-configuratio".toList ++ ['n'] := by
    rfl
  have htext : (mockURI issuer).toList = mockOrigin.toList ++
      ((issuer.toList ++ "/.well-known/openid-configuratio".toList) ++ ['n']) := by
    rw [toList_mockURI, hlast, List.append_assoc, List.append_assoc]
  have htrim : trimChars (mockURI issuer).toList = (mockURI issuer).toList := by
    rw [htext]
    exact stripWhile_mockOrigin (by decide) _ (by decide)
  rw [trim, htrim, String.ofList_toList]

end Identity.Provider

/-! ## Compilations -/

open LoginGate.Identity LoginGate.Identity.Provider LoginGate.Filter

theorem Compiler.exists_builtin {s : Settings} {c : Compiler} (h : Compiler.ofSettings s = .ok c) :
    ∃ providers, c = ⟨.mock :: providers, s.proxy⟩ := by
  obtain ⟨known, hknown, h⟩ := bind_eq_ok_iff.1 h
  obtain ⟨providers, -, hknown⟩ := bind_eq_ok_iff.1 hknown
  obtain rfl := Except.ok.inj hknown
  obtain rfl := Except.ok.inj h
  exact ⟨providers, rfl⟩

/-- A policy of an issuer is compiled to a filter that connects without encryption, and nothing is
fetched for it. -/
theorem Compiler.run_compileFilter_mock {s : Settings} {c : Compiler}
    (hc : Compiler.ofSettings s = .ok c) {p : Policy} (hp : p.check = .ok ()) {issuer : String}
    (hissuer : IsIssuer issuer) (huri : trim p.spec.wellKnownURI = mockURI issuer) (fetch : Fetch) :
    ∃ f, (c.compileFilter p).run fetch = ⟨.ok f, []⟩ ∧
      f.clusterAt? ["transport_socket"] = none ∧
      f.socketAt? "address" = some (.text "mock-oauth2.auth") ∧
      f.socketAt? "port_value" = some (.ofNat 8080) := by
  obtain ⟨providers, rfl⟩ := Compiler.exists_builtin hc
  have hne : mockURI issuer ≠ "" := by
    intro h
    have hl := congrArg String.toList h
    rw [toList_mockURI, toList_mockOrigin] at hl
    cases hl
  have hknown : recognise (.mock :: providers) (mockURI issuer) =
      some ("mock-oauth2", mockEndpoints issuer) := by
    rw [recognise, List.findSome?_cons, endpoints?_mockURI hissuer]
    rfl
  have hresolves : Resolves (.mock :: providers) fetch (trim p.spec.wellKnownURI)
      (.ok (mockEndpoints issuer)) [] := by
    rw [huri]
    exact .known hne hknown
  have htarget : NetworkTarget.derive (mockEndpoints issuer).token (trim p.spec.wellKnownURI) =
      .ok mockTarget := by
    rw [huri]
    exact derive_mock issuer
  obtain ⟨compiled, hcompiled⟩ := Policy.exists_compiled hp (mockEndpoints issuer) mockTarget
  obtain ⟨f, hf⟩ := Filter.exists_generate s.proxy compiled
  have hconsistent := Filter.isConsistent_of_generate (s := s)
    (NetworkTarget.derive_of_trim htarget) hcompiled hf
  obtain ⟨target, hd, haddress, hport, hsocket, -⟩ := hconsistent.target
  obtain rfl := Except.ok.inj (hd.symm.trans (NetworkTarget.derive_of_trim htarget))
  refine ⟨f, (Compiles.compiled hp hresolves htarget hcompiled hf).run_eq, ?_, haddress, hport⟩
  rw [← Option.not_isSome_iff_eq_none, hsocket]
  decide

/-- **The built-in provider is exact, and never encrypted.**  It recognises the URIs of issuers and
no others, each of one issuer; an issuer has the target of all issuers, and every compiler gives a
policy of it a filter whose cluster has no transport socket. -/
theorem mock_exact :
    (∀ uri e, Provider.mock.endpoints? uri = some e ↔
      ∃ issuer, IsIssuer issuer ∧ uri = mockURI issuer ∧ e = mockEndpoints issuer) ∧
    (∀ one other, mockURI one = mockURI other → one = other) ∧
    ∀ issuer, IsIssuer issuer →
      NetworkTarget.derive (mockEndpoints issuer).token (mockURI issuer) = .ok mockTarget ∧
      mockTarget.tls = false ∧
      ∀ s c p, Compiler.ofSettings s = .ok c → p.check = .ok () →
        trim p.spec.wellKnownURI = mockURI issuer → ∀ fetch, ∃ f,
          (c.compileFilter p).run fetch = ⟨.ok f, []⟩ ∧
          f.clusterAt? ["transport_socket"] = none ∧
          f.socketAt? "address" = some (.text mockTarget.host) ∧
          f.socketAt? "port_value" = some (.ofNat mockTarget.port) := by
  refine ⟨endpoints?_mock_iff, fun _ _ => mockURI_injective, fun issuer hissuer => ?_⟩
  refine ⟨derive_mock issuer, by decide, fun s c p hc hp huri fetch => ?_⟩
  exact Compiler.run_compileFilter_mock hc hp hissuer huri fetch

/-- A policy of an issuer that is made of what ends the parts of a URL, and of blank characters. -/
def delimitersPolicy : Policy := { spec := { wellKnownURI := mockURI "\t?#@:[\\] " } }

/-- Its filter connects without encryption. -/
theorem mock_exact_delimiters : ∀ fetch, ∃ f,
    (Compiler.compileFilter ⟨builtin, {}⟩ delimitersPolicy).run fetch = ⟨.ok f, []⟩ ∧
      f.clusterAt? ["transport_socket"] = none := by
  have hissuer : IsIssuer "\t?#@:[\\] " := ⟨by decide, by decide⟩
  intro fetch
  obtain ⟨f, hf, hsocket, -⟩ := (mock_exact.2.2 _ hissuer).2.2 {} ⟨builtin, {}⟩ delimitersPolicy rfl
    rfl (trim_mockURI _) fetch
  exact ⟨f, hf, hsocket⟩

end LoginGate
