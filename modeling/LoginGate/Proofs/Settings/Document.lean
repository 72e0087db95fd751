import LoginGate.Proofs.Toml.Documents
import LoginGate.Settings.Document

/-!
# The document of settings, read as TOML
-/

namespace LoginGate

open LoginGate.Text LoginGate.Toml

/-! ## What the document says -/

def textValues (bindings : List (String × String)) : List (String × Value) :=
  bindings.map fun (key, s) => (key, .text s)

def ProxySettings.texts (s : ProxySettings) : List (String × String) :=
  [("cluster_name", s.clusterName), ("connect_timeout", s.connectTimeout.written),
    ("token_timeout", s.tokenTimeout.written), ("client_id", s.clientId),
    ("hmac_secret_path", s.hmacSecretPath), ("token_secret_path", s.tokenSecretPath),
    ("credentials_dir", s.credentialsDir)]

def ProviderSettings.texts (s : ProviderSettings) : List (String × String) :=
  [("name", s.name), ("pattern", s.pattern), ("authorize_suffix", s.authorizeSuffix),
    ("token_suffix", s.tokenSuffix)] ++ (s.endSessionSuffix.map ("end_session_suffix", ·)).toList

def DiscoverySettings.values (s : DiscoverySettings) : List (String × Value) :=
  [("max_response_size", .whole s.maxResponseSize), ("user_agent", .text s.userAgent),
    ("offline_providers", .list (s.offlineProviders.map fun p => .table (textValues p.texts)))]

def Settings.values (s : Settings) : List (String × Value) :=
  [("envoy", .table (textValues s.proxy.texts)), ("discovery", .table s.discovery.values),
    ("logging", .table (textValues [("level", s.logLevel)])),
    ("output", .table (textValues [("format", s.format.name)]))]

/-! ## Lines of the document -/

theorem toList_textLine (key value : String) :
    (textLine key value).toList = valueLine key (quoted value.toList) := by
  simp [textLine, bindingLine, valueLine]

def textLines (bindings : List (String × String)) : List Char :=
  bindings.flatMap fun (key, s) => valueLine key (quoted s.toList)

theorem toList_proxyDocument (s : ProxySettings) :
    s.document.toList = headerLine "envoy" ++ textLines s.texts := by
  have hheader : "[envoy]\n".toList = headerLine "envoy" := by rfl
  simp only [ProxySettings.document, String.toList_append, toList_textLine, textLines, hheader,
    ProxySettings.texts, List.flatMap_cons, List.flatMap_nil, List.append_nil, List.append_assoc]

theorem toList_providerDocument (s : ProviderSettings) :
    s.document.toList = '\n' :: (elementLine "discovery" "offline_providers" ++ textLines s.texts) := by
  have hheader : "\n[[discovery.offline_providers]]\n".toList =
      '\n' :: elementLine "discovery" "offline_providers" := by
    simp [elementLine]
  unfold ProviderSettings.document
  cases h : s.endSessionSuffix <;>
    simp only [ProviderSettings.texts, h, String.toList_append,
      toList_textLine, textLines, hheader, Option.map_some, Option.map_none, Option.toList_some,
      Option.toList_none, List.flatMap_cons, List.flatMap_nil, List.append_nil, List.append_assoc,
      List.cons_append, List.nil_append, String.toList_empty]

def DiscoverySettings.lines (s : DiscoverySettings) : List Char :=
  valueLine "max_response_size" (decimal s.maxResponseSize) ++
    textLines [("user_agent", s.userAgent)] ++
    if s.offlineProviders.isEmpty then valueLine "offline_providers" ['[', ']']
    else s.offlineProviders.flatMap fun p => p.document.toList

theorem toList_discoveryDocument (s : DiscoverySettings) :
    s.document.toList = headerLine "discovery" ++ s.lines := by
  have hheader : "[discovery]\n".toList = headerLine "discovery" := by rfl
  have hsize : (bindingLine "max_response_size" s.maxResponseSize.repr).toList =
      valueLine "max_response_size" (decimal s.maxResponseSize) := by
    have hmarks : " = ".toList = [' ', '=', ' '] := by rfl
    have hbreak : "\n".toList = ['\n'] := by rfl
    simp only [bindingLine, String.toList_append, toList_repr, valueLine, hmarks, hbreak,
      List.append_assoc, List.cons_append, List.nil_append]
  have hlist : (if s.offlineProviders.isEmpty then bindingLine "offline_providers" "[]"
      else String.join (s.offlineProviders.map ProviderSettings.document)).toList =
      if s.offlineProviders.isEmpty then valueLine "offline_providers" ['[', ']']
      else s.offlineProviders.flatMap fun p => p.document.toList := by
    split
    · rfl
    · rw [String.toList_join, List.flatMap_map]
  simp only [DiscoverySettings.document, DiscoverySettings.lines, String.toList_append, hlist,
    toList_textLine, textLines, List.flatMap_cons, List.flatMap_nil, List.append_nil,
    List.append_assoc, hheader, hsize]

/-- What stands in the document behind the sections for the proxy and for finding endpoints. -/
def Settings.lastLines (s : Settings) : List Char :=
  '\n' :: (headerLine "logging" ++ textLines [("level", s.logLevel)]) ++
    '\n' :: (headerLine "output" ++ textLines [("format", s.format.name)])

theorem toList_document (s : Settings) : s.document.toList =
    s.proxy.document.toList ++
      ('\n' :: (headerLine "discovery" ++ s.discovery.lines) ++ s.lastLines) := by
  have hlogging : "\n[logging]\n".toList = '\n' :: headerLine "logging" := by rfl
  have houtput : "\n[output]\n".toList = '\n' :: headerLine "output" := by rfl
  have hbreak : "\n".toList = ['\n'] := by rfl
  simp only [Settings.document, Settings.lastLines, String.toList_append, toList_textLine,
    textLines, toList_discoveryDocument, hlogging, houtput, hbreak, List.flatMap_cons,
    List.flatMap_nil, List.append_nil, List.append_assoc, List.cons_append, List.nil_append]

/-! ## Reading the document -/

theorem fills_textLines {bindings : List (String × String)}
    (hkeys : ∀ entry ∈ bindings, isBareKey entry.1 = true) (hnodup : (bindings.map Prod.fst).Nodup) :
    Fills bindings.length (textLines bindings) (textValues bindings) :=
  fills_texts hkeys hnodup

theorem fills_proxy (s : ProxySettings) :
    Fills s.texts.length (textLines s.texts) (textValues s.texts) :=
  fills_textLines (by simp only [ProxySettings.texts, List.forall_mem_cons]; decide)
    (by simp only [ProxySettings.texts, List.map_cons, List.map_nil]; decide)

theorem fills_provider (s : ProviderSettings) :
    Fills s.texts.length (textLines s.texts) (textValues s.texts) := by
  refine fills_textLines ?_ ?_ <;> cases h : s.endSessionSuffix <;>
    simp only [ProviderSettings.texts, h] <;> simp <;> decide

theorem takes_providers {put : DraftTable → DraftTable} (hfocus : Focuses ["discovery"] put)
    {members : List (String × Draft)} (hnew : List.lookup "offline_providers" members = none)
    (providers : List ProviderSettings) (elements : List (List (String × Draft)))
    (path : List String) : ∃ lines path',
      Takes lines (providers.flatMap fun p => p.document.toList)
        ⟨put (withElements members "offline_providers" elements), path⟩
        ⟨put (withElements members "offline_providers"
          ((providers.map fun p => drafts (textValues p.texts)).reverse ++ elements)), path'⟩ := by
  induction providers generalizing elements path with
  | nil => exact ⟨0, path, Takes.nil _⟩
  | cons p providers ih =>
    have hfirst := takes_element "discovery" (by decide) (by decide) hfocus hnew
      (fills_provider p) elements path
    obtain ⟨lines, path', hothers⟩ := ih (drafts (textValues p.texts) :: elements) _
    refine ⟨lines + (p.texts.length + 1), path', ?_⟩
    rw [List.flatMap_cons, toList_providerDocument, List.map_cons, List.reverse_cons,
      List.append_assoc, List.singleton_append]
    exact (hfirst.afterBreak rfl).append hothers

/-- Sizes below this one are integers of a document. -/
def sizeLimit : Nat := Number.twoTo 63

theorem wholeOf?_eq (n : Nat) :
    wholeOf? false n = if n < sizeLimit then some (.whole n) else none := by
  have htwo : (Number.twoTo (64 - 1) : Int) = sizeLimit := by decide
  have hsigned : Number.isSigned 64 (n : Int) = decide (n < sizeLimit) := by
    rw [Number.isSigned, htwo, Bool.eq_iff_iff]
    simp only [Bool.and_eq_true, decide_eq_true_eq]
    omega
  simp only [wholeOf?, Bool.false_eq_true, if_false, hsigned, decide_eq_true_eq]

theorem startsItem_decimal (n : Nat) : (decimal n).head?.any startsItem = true := by
  obtain ⟨c, rest, h⟩ := List.exists_cons_of_ne_nil (decimal_ne_nil n)
  have hc : isDigit c = true := isDigit_of_mem_decimal (h ▸ List.mem_cons_self)
  rw [h]
  exact startsItem_of_isKeyChar (isKeyChar_of_isDigit hc)

/-- What the section for finding endpoints binds before the providers. -/
def DiscoverySettings.plainValues (s : DiscoverySettings) : List (String × Value) :=
  [("max_response_size", .whole s.maxResponseSize), ("user_agent", .text s.userAgent)]

theorem fills_plainValues {s : DiscoverySettings} (hsize : s.maxResponseSize < sizeLimit) :
    Fills (1 + 1) (valueLine "max_response_size" (decimal s.maxResponseSize) ++
      textLines [("user_agent", s.userAgent)]) s.plainValues := by
  have hnumber : Fills 1 (valueLine "max_response_size" (decimal s.maxResponseSize))
      [("max_response_size", .whole s.maxResponseSize)] :=
    fills_line (by decide) (startsItem_decimal _) fun fuel rest => by
      rw [value?_decimal, wholeOf?_eq, if_pos hsize]
      rfl
  have hagent : Fills 1 (textLines [("user_agent", s.userAgent)])
      (textValues [("user_agent", s.userAgent)]) :=
    fills_textLines (by simp only [List.forall_mem_cons]; decide) (by simp)
  exact hnumber.append hagent (by simp [List.lookup_cons])

theorem lookup_offlineProviders (s : DiscoverySettings) :
    List.lookup "offline_providers" (drafts s.plainValues) = none := by
  rfl

theorem finishMembers_withProviders {s : DiscoverySettings} (h : s.offlineProviders ≠ []) :
    finishMembers (withElements (drafts s.plainValues) "offline_providers"
      ((s.offlineProviders.map fun p => drafts (textValues p.texts)).reverse ++ [])).members =
      s.values := by
  have hsome : (s.offlineProviders.map fun p => drafts (textValues p.texts)).reverse ++ [] ≠ [] := by
    simpa using h
  rw [withElements, if_neg hsome, finishMembers_append, finishMembers_drafts, finishMembers,
    Draft.finish, finishElements_eq, List.append_nil, List.map_reverse, List.reverse_reverse,
    List.map_map]
  simp only [Function.comp_def, finishMembers_drafts]
  rfl

theorem takes_discovery {s : DiscoverySettings} (hsize : s.maxResponseSize < sizeLimit)
    (before : List (String × Draft)) (hnew : List.lookup "discovery" before = none)
    (path : List String) : ∃ lines members path',
      Takes (lines + 1) (headerLine "discovery" ++ s.lines) ⟨⟨.header, before⟩, path⟩
        ⟨withTable before "discovery" ⟨.header, members⟩, path'⟩ ∧
      finishMembers members = s.values := by
  have hfirst := fills_plainValues hsize
  rw [DiscoverySettings.lines]
  split
  · rename_i hempty
    rw [List.isEmpty_iff] at hempty
    have hall := hfirst.append (fills_emptyList "offline_providers" (by decide))
      (by simp [DiscoverySettings.plainValues, List.lookup_cons])
    refine ⟨_, _, _, takes_section _ (by decide) hnew hall path, ?_⟩
    rw [finishMembers_drafts, DiscoverySettings.values, hempty]
    rfl
  · rename_i hsome
    rw [List.isEmpty_iff] at hsome
    have hsection := takes_section "discovery" (by decide) hnew hfirst path
    obtain ⟨lines, path', hproviders⟩ := takes_providers (focuses_withTable hnew)
      (lookup_offlineProviders s) s.offlineProviders [] ["discovery"]
    have hall := hsection.append hproviders
    rw [List.append_assoc] at hall
    exact ⟨_, _, path', hall, finishMembers_withProviders hsome⟩

theorem takes_proxy (s : ProxySettings) : Takes (s.texts.length + 1) s.document.toList {}
    ⟨withTable [] "envoy" ⟨.header, drafts (textValues s.texts)⟩, ["envoy"]⟩ := by
  rw [toList_proxyDocument]
  exact takes_section "envoy" (by decide) rfl (fills_proxy s) []

theorem takes_textSection (name key : String) (hname : isBareKey name = true)
    (hkey : isBareKey key = true) {before : List (String × Draft)}
    (hnew : List.lookup name before = none) (s : String) (path : List String) :
    Takes (1 + 1) (headerLine name ++ textLines [(key, s)]) ⟨⟨.header, before⟩, path⟩
      ⟨withTable before name ⟨.header, drafts (textValues [(key, s)])⟩, [name]⟩ := by
  have htext : Fills 1 (textLines [(key, s)]) (textValues [(key, s)]) :=
    fills_textLines (by simpa using hkey) (by simp)
  exact takes_section name hname hnew htext path

theorem takes_lastLines (s : Settings) (before : List (String × Draft))
    (hlogging : List.lookup "logging" before = none) (houtput : List.lookup "output" before = none)
    (path : List String) : ∃ lines,
      Takes lines s.lastLines ⟨⟨.header, before⟩, path⟩
        ⟨⟨.header, before ++ [("logging", .table .header (drafts (textValues [("level", s.logLevel)]))),
          ("output", .table .header (drafts (textValues [("format", s.format.name)])))]⟩,
          ["output"]⟩ := by
  have hlevel := takes_textSection "logging" "level" (by decide) (by decide)
    hlogging s.logLevel path
  have hnew : List.lookup "output" (before ++
      [("logging", .table .header (drafts (textValues [("level", s.logLevel)])))]) = none := by
    rw [List.lookup_append, houtput]
    rfl
  have hformat := takes_textSection "output" "format" (by decide) (by decide)
    hnew s.format.name ["logging"]
  have hall := (hlevel.afterBreak rfl).append (hformat.afterBreak rfl)
  rw [withTable, List.append_assoc] at hall
  exact ⟨_, hall⟩

theorem mark_proxyDocument (s : ProxySettings) (rest : List Char) :
    (s.document.toList ++ rest).head?.any (· != '\uFEFF') = true := by
  rw [toList_proxyDocument]
  rfl

def proxyDraft (s : ProxySettings) : List (String × Draft) :=
  [("envoy", .table .header (drafts (textValues s.texts)))]

/-- The document binds all settings, if it can hold the size. -/
theorem read?_document_of_lt {s : Settings} (hsize : s.discovery.maxResponseSize < sizeLimit) :
    read? s.document = some s.values := by
  obtain ⟨lines, members, path, hdiscovery, hmembers⟩ :=
    takes_discovery hsize (proxyDraft s.proxy) rfl ["envoy"]
  obtain ⟨more, hlast⟩ := takes_lastLines s
    (proxyDraft s.proxy ++ [("discovery", .table .header members)]) rfl rfl path
  have hall := (takes_proxy s.proxy).append ((hdiscovery.afterBreak rfl).append hlast)
  have hread := read?_of_takes hall (mark_proxyDocument _ _)
  rw [← toList_document, String.ofList_toList] at hread
  rw [hread, Settings.values, ← hmembers]
  simp only [proxyDraft, List.cons_append, List.nil_append, finishMembers, Draft.finish,
    finishMembers_drafts]

/-- A document with a size that it cannot hold is not read. -/
theorem read?_document_of_le {s : Settings} (hsize : sizeLimit ≤ s.discovery.maxResponseSize) :
    read? s.document = none := by
  have hheader : Takes 1 (headerLine "discovery") ⟨⟨.header, proxyDraft s.proxy⟩, ["envoy"]⟩
      ⟨withTable (proxyDraft s.proxy) "discovery" ⟨.header, []⟩, ["discovery"]⟩ :=
    takes_header "discovery" (by decide) rfl ["envoy"]
  have hbefore := (takes_proxy s.proxy).append (hheader.afterBreak rfl)
  have hstuck (fuel : Nat) (rest : List Char) : readLines? (fuel + 1)
      ⟨withTable (proxyDraft s.proxy) "discovery" ⟨.header, []⟩, ["discovery"]⟩
        (valueLine "max_response_size" (decimal s.discovery.maxResponseSize) ++ rest) = none := by
    refine readLines?_valueLine (v := none) (by decide) (startsItem_decimal _) (fun fuel rest => ?_)
      (focuses_withTable rfl) rfl fuel rest
    rw [value?_decimal, wholeOf?_eq, if_neg (Nat.not_lt.2 hsize), Option.map_none]
  have hrest : s.document.toList = s.proxy.document.toList ++ '\n' :: headerLine "discovery" ++
      (s.discovery.lines ++ s.lastLines) := by
    rw [toList_document]
    simp only [List.append_assoc, List.cons_append]
  rw [← String.ofList_toList (s := s.document), hrest]
  refine read?_of_stuck hbefore (mark_proxyDocument _ _) fun fuel => ?_
  rw [DiscoverySettings.lines, List.append_assoc, List.append_assoc]
  exact hstuck fuel _

end LoginGate
