import LoginGate.Identity.Response
import LoginGate.Proofs.Json.Parsing
import LoginGate.Text.Bytes

/-!
# What a fetch ends with

A response gives a document if it meets eight conditions, which are tested in order, and otherwise
the fault of the first that fails:

    client.fetch uri r = .ok d ↔ (∀ c, c.Holds client r) ∧ r.Names d
    client.fetch uri r = .error e ↔
      ∃ c, c.FailsFirst client r ∧ e = .discoveryFetch uri (c.fault client r)       (fetch_outcome)

The length of a body is tested where it is declared and again where the body has arrived; as both
tests are against one maximum, it makes no difference whether a complete body comes with its length.
-/

namespace LoginGate.Identity

open LoginGate.Text (fromUTF8?_eq_some_iff)

/-! ## Documents in a body -/

/-- Do the bytes write a JSON text that has a value?  Lists and objects may be nested as deep as
they are read, numbers have to be finite, and the halves of pairs of escapes stand together. -/
def IsJson (bytes : ByteArray) : Prop :=
  ∃ (s : String) (t : Json.Tree), s.toUTF8 = bytes ∧ Json.Writes t.lexemes s.toList ∧
    t.HasValue nestingLimit

/-- Do the bytes write a JSON text with the given value? -/
def WritesJson (bytes : ByteArray) (v : Json) : Prop :=
  ∃ (s : String) (t : Json.Tree), s.toUTF8 = bytes ∧ Json.Writes t.lexemes s.toList ∧
    t.value? nestingLimit = some v

theorem isJson_iff {bytes : ByteArray} : IsJson bytes ↔ ∃ v, WritesJson bytes v := by
  constructor
  · rintro ⟨s, t, hs, hwrites, hvalue⟩
    obtain ⟨v, hv⟩ := Option.isSome_iff_exists.1 ((Json.Tree.isSome_value?_iff _).2 hvalue)
    exact ⟨v, s, t, hs, hwrites, hv⟩
  · rintro ⟨v, s, t, hs, hwrites, hv⟩
    have hvalue := (Json.Tree.isSome_value?_iff _).1 (Option.isSome_of_eq_some hv)
    exact ⟨s, t, hs, hwrites, hvalue⟩

def endpointNames : List String :=
  ["authorization_endpoint", "token_endpoint", "end_session_endpoint"]

def isOptionalText : Option Json → Bool
  | none => true
  | some .null => true
  | some (.text _) => true
  | some _ => false

def textOf? : Option Json → Option String
  | some (.text s) => some s
  | _ => none

/-- The texts of the three fields. -/
def DiscoveryDocument.ofFields (v : Json) : DiscoveryDocument :=
  ⟨textOf? (v.member? "authorization_endpoint"), textOf? (v.member? "token_endpoint"),
    textOf? (v.member? "end_session_endpoint")⟩

theorem documentOfBytes_of_writesJson {bytes : ByteArray} {v : Json} (h : WritesJson bytes v) :
    documentOfBytes bytes = DiscoveryDocument.ofJson v := by
  obtain ⟨s, t, hs, hwrites, hvalue⟩ := h
  have hread : Json.read? nestingLimit s = some v := Json.read?_eq_some_iff.2 ⟨t, hwrites, hvalue⟩
  simp only [documentOfBytes, fromUTF8?_eq_some_iff.2 hs, hread]

theorem documentOfBytes_of_not_writesJson {bytes : ByteArray} (h : ¬ ∃ v, WritesJson bytes v) :
    documentOfBytes bytes = .error .malformed := by
  rw [documentOfBytes]
  cases hs : String.fromUTF8? bytes with
  | none => rfl
  | some s =>
    cases hread : Json.read? nestingLimit s with
    | none => simp only [hread]
    | some v =>
      obtain ⟨t, hwrites, hvalue⟩ := Json.read?_eq_some_iff.1 hread
      exact absurd ⟨v, s, t, fromUTF8?_eq_some_iff.1 hs, hwrites, hvalue⟩ h

theorem WritesJson.unique {bytes : ByteArray} {v w : Json} (h : WritesJson bytes v)
    (h' : WritesJson bytes w) : v = w := by
  obtain ⟨s, t, hs, hwrites, hvalue⟩ := h
  obtain ⟨s', t', hs', hwrites', hvalue'⟩ := h'
  obtain rfl : s = s' :=
    Option.some.inj ((fromUTF8?_eq_some_iff.2 hs).symm.trans (fromUTF8?_eq_some_iff.2 hs'))
  have hv := Json.read?_eq_some_iff.2 ⟨t, hwrites, hvalue⟩
  have hw := Json.read?_eq_some_iff.2 ⟨t', hwrites', hvalue'⟩
  exact Option.some.inj (hv.symm.trans hw)

theorem textMember_eq (name : String) (v : Json) : textMember name v =
    if isOptionalText (v.member? name) then .ok (textOf? (v.member? name))
    else .error .malformed := by
  rw [textMember]
  split <;> simp_all [isOptionalText, textOf?]

theorem ofJson_of_fields {v : Json} (hobject : v.isObject = true)
    (h : ∀ name ∈ endpointNames, isOptionalText (v.member? name) = true) :
    DiscoveryDocument.ofJson v = .ok (.ofFields v) := by
  simp only [endpointNames, List.forall_mem_cons] at h
  obtain ⟨hauthorization, htoken, hend, -⟩ := h
  rw [DiscoveryDocument.ofJson, if_pos hobject]
  simp only [textMember_eq, hauthorization, htoken, hend, if_true]
  rfl

theorem ofJson_of_not_fields {v : Json} (hobject : v.isObject = true)
    (h : ¬ ∀ name ∈ endpointNames, isOptionalText (v.member? name) = true) :
    DiscoveryDocument.ofJson v = .error .malformed := by
  simp only [endpointNames, List.forall_mem_cons] at h
  rw [DiscoveryDocument.ofJson, if_pos hobject]
  simp only [textMember_eq]
  split
  · split
    · split
      next hauthorization htoken hend =>
        exact absurd ⟨hauthorization, htoken, hend, by simp⟩ h
      · rfl
    · rfl
  · rfl

/-! ## Conditions -/

/-- What a response has to meet, in the order of the tests. -/
inductive Condition where
  /-- There is a response. -/
  | responds
  /-- Its status is one of success. -/
  | succeeds
  /-- The length that it declares is not too great. -/
  | declaresFitting
  /-- The body does not break off. -/
  | arrives
  /-- The length of the body is not too great. -/
  | fits
  /-- The body is a JSON text with a value. -/
  | isJson
  /-- It is the text of an object. -/
  | isObject
  /-- Each of the three fields is absent, null or a text. -/
  | hasTexts
  deriving DecidableEq, Repr

namespace Condition

def inOrder : List Condition :=
  [responds, succeeds, declaresFitting, arrives, fits, isJson, isObject, hasTexts]

theorem mem_inOrder (c : Condition) : c ∈ inOrder := by
  cases c <;> decide

/-- Does a body under a status meet the condition? -/
def HoldsOf (client : Client) (status : Nat) (body : Body) : Condition → Prop
  | responds => isFinal status = true
  | succeeds => 200 ≤ status ∧ status < 300
  | declaresFitting => ∀ length ∈ body.declaredLength, length ≤ client.maxResponseSize
  | arrives => ∀ length ∈ body.declaredLength, length ≤ body.bytes.size
  | fits => body.read.size ≤ client.maxResponseSize
  | isJson => IsJson body.read
  | isObject => ∃ v, WritesJson body.read v ∧ v.isObject = true
  | hasTexts => ∃ v, WritesJson body.read v ∧
      ∀ name ∈ endpointNames, isOptionalText (v.member? name) = true

/-- Does a response meet the condition?  A connection that is dropped meets none. -/
def Holds (client : Client) (r : Response) (c : Condition) : Prop :=
  ∃ status sent, r = .received status sent ∧ c.HoldsOf client status (sent.under status)

def fault (client : Client) (r : Response) : Condition → FetchFault
  | responds => .unreachable
  | succeeds => match r with
    | .dropped => .unreachable
    | .received status _ => .status status
  | declaresFitting => .tooLarge client.maxResponseSize
  | arrives => .unreachable
  | fits => .tooLarge client.maxResponseSize
  | isJson => .malformed
  | isObject => .notAnObject
  | hasTexts => .malformed

def FailsFirst (client : Client) (r : Response) (c : Condition) : Prop :=
  ∃ before after, inOrder = before ++ c :: after ∧ (∀ earlier ∈ before, earlier.Holds client r) ∧
    ¬ c.Holds client r

end Condition

/-- Does the body of a response write an object with the texts of a document? -/
def Response.Names (r : Response) (d : DiscoveryDocument) : Prop :=
  ∃ status sent v, r = .received status sent ∧ WritesJson (sent.under status).read v ∧
    d = .ofFields v

/-! ## Tests in order -/

section

variable {client : Client} {r : Response} {status : Nat} {sent : Body} {c : Condition}
  {conditions : List Condition} {rest : Except FetchFault DiscoveryDocument}

open Classical in
/-- Conditions tested one after the other; the rest is what comes behind them. -/
noncomputable def tested (client : Client) (r : Response) (conditions : List Condition)
    (rest : Except FetchFault DiscoveryDocument) : Except FetchFault DiscoveryDocument :=
  conditions.foldr
    (fun c rest => if c.Holds client r then rest else .error (c.fault client r)) rest

theorem tested_cons_of_holds (h : c.Holds client r) :
    tested client r (c :: conditions) rest = tested client r conditions rest := if_pos h

theorem tested_cons_of_not_holds (h : ¬ c.Holds client r) :
    tested client r (c :: conditions) rest = .error (c.fault client r) := if_neg h

theorem tested_append (one other : List Condition) :
    tested client r (one ++ other) rest = tested client r one (tested client r other rest) :=
  List.foldr_append

theorem tested_of_holds (h : ∀ c ∈ conditions, c.Holds client r) :
    tested client r conditions rest = rest := by
  induction conditions with
  | nil => rfl
  | cons c conditions ih =>
    obtain ⟨hc, h⟩ := List.forall_mem_cons.1 h
    rw [tested_cons_of_holds hc, ih h]

/-- Either all conditions hold, or one is the first that fails. -/
theorem holds_or_failsFirst (client : Client) (r : Response) (conditions : List Condition) :
    (∀ c ∈ conditions, c.Holds client r) ∨
      ∃ before c after, conditions = before ++ c :: after ∧
        (∀ earlier ∈ before, earlier.Holds client r) ∧ ¬ c.Holds client r := by
  induction conditions with
  | nil => exact .inl (List.forall_mem_nil _)
  | cons c conditions ih =>
    by_cases hc : c.Holds client r
    · rcases ih with hall | ⟨before, first, after, hsplit, hbefore, hfirst⟩
      · exact .inl (List.forall_mem_cons.2 ⟨hc, hall⟩)
      · exact .inr ⟨c :: before, first, after, by rw [hsplit]; rfl,
          List.forall_mem_cons.2 ⟨hc, hbefore⟩, hfirst⟩
    · exact .inr ⟨[], c, conditions, rfl, List.forall_mem_nil _, hc⟩

/-- A test in the program, for a condition that fails if and only if the test is met. -/
theorem ite_eq_tested {test : Prop} [Decidable test]
    {behind : Except FetchFault DiscoveryDocument} (h : ¬ c.Holds client r ↔ test)
    (hbehind : behind = tested client r conditions rest) :
    (if test then .error (c.fault client r) else behind) =
      tested client r (c :: conditions) rest := by
  by_cases ht : test
  · rw [if_pos ht, tested_cons_of_not_holds (h.2 ht)]
  · rw [if_neg ht, tested_cons_of_holds (not_not.1 (mt h.1 ht)), hbehind]

theorem Condition.holds_received :
    c.Holds client (.received status sent) ↔ c.HoldsOf client status (sent.under status) := by
  constructor
  · rintro ⟨_, _, h, hc⟩
    cases h
    exact hc
  · exact fun h => ⟨status, sent, rfl, h⟩

theorem not_responds_iff : ¬ Condition.responds.Holds client (.received status sent) ↔
    (!isFinal status) = true := by
  rw [Condition.holds_received, Condition.HoldsOf, Bool.not_eq_true, Bool.not_eq_true']

theorem not_succeeds_iff : ¬ Condition.succeeds.Holds client (.received status sent) ↔
    status < 200 ∨ 300 ≤ status := by
  rw [Condition.holds_received, Condition.HoldsOf]
  omega

theorem not_declaresFitting_iff :
    ¬ Condition.declaresFitting.Holds client (.received status sent) ↔
      ((sent.under status).declaredLength.any fun length => client.maxResponseSize < length) =
        true := by
  rw [Condition.holds_received, Condition.HoldsOf]
  cases (sent.under status).declaredLength <;> simp

theorem not_arrives_iff : ¬ Condition.arrives.Holds client (.received status sent) ↔
    (sent.under status).brokenOff = true := by
  rw [Condition.holds_received, Condition.HoldsOf, Body.brokenOff]
  cases (sent.under status).declaredLength <;> simp

theorem not_fits_iff : ¬ Condition.fits.Holds client (.received status sent) ↔
    client.maxResponseSize < (sent.under status).read.size := by
  rw [Condition.holds_received]
  exact Nat.not_le

theorem document_received : client.document (.received status sent) =
    tested client (.received status sent) [.responds, .succeeds, .declaresFitting, .arrives, .fits]
      (documentOfBytes (sent.under status).read) :=
  ite_eq_tested not_responds_iff <| ite_eq_tested not_succeeds_iff <|
    ite_eq_tested not_declaresFitting_iff <| ite_eq_tested not_arrives_iff <|
    ite_eq_tested not_fits_iff rfl

theorem holds_isJson_iff : Condition.isJson.Holds client (.received status sent) ↔
    ∃ v, WritesJson (sent.under status).read v := Condition.holds_received.trans isJson_iff

/-- What is asked of the value that a body writes is asked of its only one. -/
theorem WritesJson.exists_iff {bytes : ByteArray} {v : Json} (hv : WritesJson bytes v)
    (p : Json → Prop) : (∃ w, WritesJson bytes w ∧ p w) ↔ p v :=
  ⟨fun ⟨_, hw, hp⟩ => hv.unique hw ▸ hp, fun hp => ⟨v, hv, hp⟩⟩

theorem holds_isObject_iff {v : Json} (hv : WritesJson (sent.under status).read v) :
    Condition.isObject.Holds client (.received status sent) ↔ v.isObject = true :=
  Condition.holds_received.trans (hv.exists_iff _)

theorem holds_hasTexts_iff {v : Json} (hv : WritesJson (sent.under status).read v) :
    Condition.hasTexts.Holds client (.received status sent) ↔
      ∀ name ∈ endpointNames, isOptionalText (v.member? name) = true :=
  Condition.holds_received.trans (hv.exists_iff _)

theorem exists_documentOfBytes_eq (client : Client) (status : Nat) (sent : Body) :
    ∃ d, documentOfBytes (sent.under status).read =
        tested client (.received status sent) [.isJson, .isObject, .hasTexts] (.ok d) ∧
      (Condition.isJson.Holds client (.received status sent) →
        (Response.received status sent).Names d) := by
  by_cases hjson : Condition.isJson.Holds client (.received status sent)
  · obtain ⟨v, hv⟩ := holds_isJson_iff.1 hjson
    refine ⟨.ofFields v, ?_, fun _ => ⟨status, sent, v, rfl, hv, rfl⟩⟩
    rw [documentOfBytes_of_writesJson hv, tested_cons_of_holds hjson]
    by_cases hobject : v.isObject = true
    · rw [tested_cons_of_holds ((holds_isObject_iff hv).2 hobject)]
      by_cases hfields : ∀ name ∈ endpointNames, isOptionalText (v.member? name) = true
      · rw [tested_cons_of_holds ((holds_hasTexts_iff hv).2 hfields)]
        exact ofJson_of_fields hobject hfields
      · rw [tested_cons_of_not_holds (mt (holds_hasTexts_iff hv).1 hfields)]
        exact ofJson_of_not_fields hobject hfields
    · rw [tested_cons_of_not_holds (mt (holds_isObject_iff hv).1 hobject)]
      exact if_neg hobject
  · refine ⟨default, ?_, fun h => absurd h hjson⟩
    rw [documentOfBytes_of_not_writesJson (mt holds_isJson_iff.2 hjson),
      tested_cons_of_not_holds hjson]
    rfl

/-- **A response is put to all tests in order.** -/
theorem exists_document_eq (client : Client) (r : Response) :
    ∃ d, client.document r = tested client r Condition.inOrder (.ok d) ∧
      (Condition.isJson.Holds client r → r.Names d) := by
  cases r with
  | dropped =>
    have hnone (c : Condition) : ¬ c.Holds client .dropped := fun ⟨_, _, h, _⟩ => nomatch h
    refine ⟨default, ?_, fun h => absurd h (hnone _)⟩
    rw [Condition.inOrder, tested_cons_of_not_holds (hnone _)]
    rfl
  | received status sent =>
    obtain ⟨d, hd, hnames⟩ := exists_documentOfBytes_eq client status sent
    refine ⟨d, ?_, hnames⟩
    rw [document_received, hd, ← tested_append]
    rfl

theorem Response.Names.unique {d d' : DiscoveryDocument} (h : r.Names d) (h' : r.Names d') :
    d = d' := by
  obtain ⟨status, sent, v, rfl, hv, rfl⟩ := h
  obtain ⟨_, _, w, hr, hw, rfl⟩ := h'
  cases hr
  rw [hv.unique hw]

theorem document_of_holds {d : DiscoveryDocument} (h : ∀ c : Condition, c.Holds client r)
    (hd : r.Names d) : client.document r = .ok d := by
  obtain ⟨d', hdocument, hnames⟩ := exists_document_eq client r
  rw [hdocument, tested_of_holds fun c _ => h c, hd.unique (hnames (h .isJson))]

theorem document_of_failsFirst (h : c.FailsFirst client r) :
    client.document r = .error (c.fault client r) := by
  obtain ⟨before, after, hsplit, hbefore, hc⟩ := h
  obtain ⟨d, hdocument, -⟩ := exists_document_eq client r
  rw [hdocument, hsplit, tested_append, tested_of_holds hbefore, tested_cons_of_not_holds hc]

/-- Either all conditions hold, and a document is named, or one of them fails first. -/
theorem names_or_failsFirst (client : Client) (r : Response) :
    (∃ d, (∀ c : Condition, c.Holds client r) ∧ r.Names d) ∨
      ∃ c : Condition, c.FailsFirst client r := by
  rcases holds_or_failsFirst client r Condition.inOrder with hall | ⟨before, c, after, h⟩
  · obtain ⟨d, -, hnames⟩ := exists_document_eq client r
    exact .inl ⟨d, fun c => hall c c.mem_inOrder, hnames (hall _ (Condition.mem_inOrder _))⟩
  · exact .inr ⟨c, before, after, h⟩

/-- A complete body is read alike with its length and without. -/
theorem document_declaringLength (client : Client) (status : Nat) (bytes : ByteArray) :
    client.document (.received status ⟨some bytes.size, bytes⟩) =
      client.document (.received status ⟨none, bytes⟩) := by
  by_cases hbody : status = 204
  · simp only [Client.document, Body.under, if_pos hbody]
  have hread : Body.read ⟨some bytes.size, bytes⟩ = Body.read ⟨none, bytes⟩ :=
    ByteArray.extract_zero_size
  have hbroken : Body.brokenOff ⟨some bytes.size, bytes⟩ = Body.brokenOff ⟨none, bytes⟩ :=
    decide_eq_false (Nat.lt_irrefl _)
  simp only [Client.document, Body.under, if_neg hbody, hread, hbroken]
  by_cases hgreat : client.maxResponseSize < bytes.size
  · simp [hgreat, Body.read, Body.brokenOff]
  · simp [hgreat, Body.read, Body.brokenOff]

/-- **What a fetch ends with.**  There is a document if and only if all conditions hold, and it has
the texts of the three fields.  There is an error if and only if a condition fails, and it has the
URI and the fault of the first that does.  It makes no difference whether a body that is sent as a
whole comes with its length. -/
theorem fetch_outcome (client : Client) (uri : String) :
    (∀ r d, client.fetch uri r = .ok d ↔ (∀ c : Condition, c.Holds client r) ∧ r.Names d) ∧
    (∀ r e, client.fetch uri r = .error e ↔
      ∃ c : Condition, c.FailsFirst client r ∧ e = .discoveryFetch uri (c.fault client r)) ∧
    ∀ status bytes, client.fetch uri (.received status ⟨some bytes.size, bytes⟩) =
      client.fetch uri (.received status ⟨none, bytes⟩) := by
  have hok (r : Response) (d : DiscoveryDocument) (h : ∀ c : Condition, c.Holds client r)
      (hd : r.Names d) : client.fetch uri r = .ok d := by
    rw [Client.fetch, document_of_holds h hd]
    rfl
  have herror (r : Response) (c : Condition) (h : c.FailsFirst client r) :
      client.fetch uri r = .error (.discoveryFetch uri (c.fault client r)) := by
    rw [Client.fetch, document_of_failsFirst h]
    rfl
  refine ⟨fun r d => ⟨fun h => ?_, fun h => hok r d h.1 h.2⟩,
    fun r e => ⟨fun h => ?_, ?_⟩, fun status bytes => ?_⟩
  · rcases names_or_failsFirst client r with ⟨d', hall, hnames⟩ | ⟨c, hc⟩
    · rw [hok r d' hall hnames] at h
      obtain rfl := Except.ok.inj h
      exact ⟨hall, hnames⟩
    · rw [herror r c hc] at h
      cases h
  · rcases names_or_failsFirst client r with ⟨d', hall, hnames⟩ | ⟨c, hc⟩
    · rw [hok r d' hall hnames] at h
      cases h
    · rw [herror r c hc] at h
      exact ⟨c, hc, (Except.error.inj h).symm⟩
  · rintro ⟨c, hc, rfl⟩
    exact herror r c hc
  · rw [Client.fetch, document_declaringLength, Client.fetch]

end

/-- The text of an object with a number that is greater than all finite ones. -/
def greatNumberText : String := "\x7b\"x\":1e400\x7d"

/-- To write an object is not enough: here a field that is not asked for has no value. -/
theorem fetch_greatNumber :
    ∃ members : List (List Json.Piece × Json.Tree),
      Json.Writes (Json.Tree.object members).lexemes greatNumberText.toList ∧
      (∀ m ∈ members, ∀ name ∈ endpointNames, Json.Piece.text? m.1 ≠ some name.toList) ∧
      greatNumberText.toUTF8.size ≤ 1048576 ∧
      Client.fetch ⟨1048576, "authgen/0.0.1"⟩ "http://idp.test/"
        (.received 200 ⟨some greatNumberText.toUTF8.size, greatNumberText.toUTF8⟩) =
        .error (.discoveryFetch "http://idp.test/" .malformed) := by
  have hchars : greatNumberText.toList =
      ['{', '"', 'x', '"', ':', '1', 'e', '4', '0', '0', '}'] := by decide
  have hread : Json.read? nestingLimit greatNumberText = none := by decide +kernel
  have hdocument : documentOfBytes greatNumberText.toUTF8 = .error .malformed := by
    simp only [documentOfBytes, fromUTF8?_eq_some_iff.2 rfl, hread]
  have hsize : greatNumberText.toUTF8.size = 11 := by decide
  have hkey : ∀ name ∈ endpointNames, ['x'] ≠ name.toList := by decide
  have hwhole : Json.IsDigits ['1'] := by decide
  have hpower : Json.IsDigits ['4', '0', '0'] := by decide
  refine ⟨[([.plain 'x' (by decide)], .number
    { negative := false, whole := ['1'], fraction := none
      exponent := some ⟨'e', [], ['4', '0', '0'], .inl rfl, .inl rfl, hpower⟩
      isWhole := hwhole, unpadded := nofun, isFraction := nofun })], ?_, ?_,
    by rw [hsize]; decide, ?_⟩
  · rw [hchars]
    exact .lexeme .openObject nofun <| .lexeme (.quoted _) nofun <| .lexeme .colon nofun <|
      .lexeme (.word _ _) (fun _ c hc => by cases hc; decide) <| .lexeme .closeObject nofun .nil
  · intro m hm
    rw [List.mem_singleton.1 hm]
    exact fun name hname h => hkey name hname (Option.some.inj h)
  · have hbody (bytes : ByteArray) (h : ¬ 1048576 < bytes.size) :
        Client.document ⟨1048576, "authgen/0.0.1"⟩ (.received 200 ⟨none, bytes⟩) =
          documentOfBytes bytes := if_neg h
    rw [Client.fetch, document_declaringLength, hbody _ (by rw [hsize]; decide), hdocument]
    rfl

end LoginGate.Identity
