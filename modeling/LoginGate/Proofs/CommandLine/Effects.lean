import LoginGate.CommandLine.Run
import LoginGate.Proofs.CommandLine.WrittenFiles
import LoginGate.Proofs.CompilationPass

/-!
# What a command leaves behind

A command first makes the whole text that it is asked for, which reads and changes nothing, and only
then hands it over (`answer_eq`):

    w.answer r = w.requestedText r >>= (failure or w.deliver _ _ r.output?)

So a command that fails prints nothing and changes nothing, and the text is the same whether it is
printed or written to a file, be it one that was read before.  `run_effects` says so for a
directory.
-/

namespace LoginGate.CommandLine

open LoginGate.Identity LoginGate.Filter LoginGate.Text

/-! ## Computations that change nothing -/

section Keeps

variable {σ α β : Type} {x : StateM σ α}

/-- Does the computation leave what it works on as it is? -/
def Keeps (x : StateM σ α) : Prop := ∀ s, (x.run s).2 = s

theorem keeps_pure (a : α) : Keeps (pure a : StateM σ α) := fun _ => rfl

theorem Keeps.bind (hx : Keeps x) {f : α → StateM σ β} (hf : ∀ a, Keeps (f a)) :
    Keeps (x >>= f) := fun s => (hf _ _).trans (hx s)

theorem Keeps.run_eq (hx : Keeps x) (s : σ) : x.run s = ((x.run s).1, s) := Prod.ext rfl (hx s)

theorem Keeps.run_bind (hx : Keeps x) (f : α → StateM σ β) (s : σ) :
    (x >>= f).run s = (f (x.run s).1).run s := congrArg _ (hx s)

end Keeps

/-- Do files change by a write that succeeds, and by nothing else?  A write is taken to fail only
when its file cannot be opened; a device that is full in the middle of a text is not described, and
neither are absolute paths and paths above the working directory, which a `Directory` does not
follow. -/
structure Surroundings.OnlyWritesChange {σ : Type} (w : Surroundings (StateM σ)) : Prop where
  isPresent : ∀ path, Keeps (w.isPresent path)
  isFile : ∀ path, Keeps (w.isFile path)
  read : ∀ path, Keeps (w.read path)
  input : Keeps w.input
  write : ∀ {path text s fault}, ((w.write path text).run s).1 = .error fault →
    ((w.write path text).run s).2 = s

namespace Directory

variable {input : Except FileFault String} {environment : Settings.Environment}
  {respond : String → Response} {d after : Directory} {path text : String}

theorem run_write_ok (h : d.write path text = .ok after) :
    ((surroundingsWith input environment respond).write path text).run d = (.ok (), after) := by
  simp only [surroundingsWith, StateT.run, h]

theorem run_write_error {fault : FileFault} (h : d.write path text = .error fault) :
    ((surroundingsWith input environment respond).write path text).run d = (.error fault, d) := by
  simp only [surroundingsWith, StateT.run, h]

theorem onlyWritesChange (input : Except FileFault String) (environment : Settings.Environment)
    (respond : String → Response) :
    (surroundingsWith input environment respond).OnlyWritesChange where
  isPresent _ _ := rfl
  isFile _ _ := rfl
  read _ _ := rfl
  input _ := rfl
  write {path text d fault} h := by
    cases hwrite : d.write path text with
    | ok after =>
      rw [run_write_ok hwrite] at h
      cases h
    | error fault' => rw [run_write_error hwrite]

end Directory

/-! ## The text first, then its delivery -/

/-- The file that a request has its text written to; without one the text is printed. -/
def Request.output? (r : Request) : Option String :=
  match r.command with
  | .compile _ _ output => output
  | _ => none

namespace Surroundings

section Programs

variable {m : Type → Type} [Monad m] (w : Surroundings m)

/-- The text that a request asks for, and the format that it is in. -/
def requestedText (r : Request) : m (Except Failure (OutputFormat × String)) := do
  match ← w.loadSettings r.settingsFile with
  | .error fault => return .error (.settings fault)
  | .ok settings => match r.command with
    | .compile file format _ =>
      let format := format.getD settings.format
      return ((← w.policyText file).bind (compiledText settings w.respond format)).map (format, ·)
    | .resolve uri => return (resolvedText settings w.respond uri).map (settings.format, ·)
    | .showSettings => return .ok (settings.format, settings.document)

/-- A request is carried out by making its text, and then delivering it. -/
theorem answer_eq [LawfulMonad m] (r : Request) : w.answer r = do
    match ← w.requestedText r with
    | .ok (format, text) => w.deliver format text r.output?
    | .error failure => return .ofFailure failure := by
  unfold answer requestedText
  rw [bind_assoc]
  refine bind_congr fun loaded => ?_
  cases loaded with
  | error fault => simp
  | ok settings =>
    obtain ⟨settingsFile, command⟩ := r
    cases command with
    | compile file format output =>
      simp only [perform, compile, bind_assoc, pure_bind, Request.output?]
      refine bind_congr fun source => ?_
      cases source.bind (compiledText settings w.respond (format.getD settings.format)) <;> rfl
    | resolve uri =>
      simp only [perform, pure_bind, Request.output?]
      cases resolvedText settings w.respond uri <;> rfl
    | showSettings =>
      simp only [perform, pure_bind, Request.output?]
      rfl

end Programs

section Effects

variable {σ : Type} {w : Surroundings (StateM σ)}

theorem keeps_firstFile? (hw : w.OnlyWritesChange) (paths : List String) :
    Keeps (w.firstFile? paths) := by
  induction paths with
  | nil => exact keeps_pure none
  | cons path paths ih =>
    refine (hw.isFile path).bind fun isFile => ?_
    cases isFile
    · exact ih
    · exact keeps_pure _

theorem keeps_settingsText (hw : w.OnlyWritesChange) (path : String) :
    Keeps (w.settingsText path) := by
  refine (keeps_firstFile? hw _).bind fun found => ?_
  cases found with
  | none => exact keeps_pure _
  | some path => exact (hw.read path).bind fun _ => keeps_pure _

theorem keeps_loadSettings (hw : w.OnlyWritesChange) (file : Option String) :
    Keeps (w.loadSettings file) := by
  refine Keeps.bind ?_ fun _ => keeps_pure _
  cases file with
  | some path => exact (keeps_settingsText hw path).bind fun _ => keeps_pure _
  | none =>
    refine (hw.isPresent _).bind fun isPresent => ?_
    cases isPresent
    · exact keeps_pure _
    · exact (keeps_settingsText hw _).bind fun _ => keeps_pure _

theorem keeps_policyText (hw : w.OnlyWritesChange) (file : Option String) :
    Keeps (w.policyText file) := by
  cases file with
  | some path => exact (hw.read path).bind fun _ => keeps_pure _
  | none => exact hw.input.bind fun _ => keeps_pure _

theorem keeps_requestedText (hw : w.OnlyWritesChange) (r : Request) :
    Keeps (w.requestedText r) := by
  refine (keeps_loadSettings hw _).bind fun loaded => ?_
  cases loaded with
  | error fault => exact keeps_pure _
  | ok settings =>
    obtain ⟨_, command⟩ := r
    cases command with
    | compile file _ _ => exact (keeps_policyText hw file).bind fun _ => keeps_pure _
    | resolve uri => exact keeps_pure _
    | showSettings => exact keeps_pure _

/-- The document that the policy of a compile command is compiled to, with what is there at the
start. -/
def IsDocument (w : Surroundings (StateM σ)) (s : σ) (settingsFile file : Option String)
    (format : Option OutputFormat) (text : String) : Prop :=
  ∃ settings source client compiler policy filter,
    ((w.loadSettings settingsFile).run s).1 = .ok settings ∧
    ((w.policyText file).run s).1 = .ok source ∧
    connect settings = .ok (client, compiler) ∧
    Policy.ofYamlText source = .ok policy ∧
    ((compiler.compileFilter policy).run fun uri => client.fetch uri (w.respond uri)).result =
      .ok filter ∧
    text = filter.write (format.getD settings.format)

theorem requestedText_compile_iff (hw : w.OnlyWritesChange) {s : σ}
    {settingsFile file : Option String} {format : Option OutputFormat} {output : Option String}
    {text : String} :
    (∃ f, ((w.requestedText ⟨settingsFile, .compile file format output⟩).run s).1 = .ok (f, text)) ↔
      w.IsDocument s settingsFile file format text := by
  have hrun : ((w.requestedText ⟨settingsFile, .compile file format output⟩).run s).1 =
      match ((w.loadSettings settingsFile).run s).1 with
      | .error fault => .error (.settings fault)
      | .ok settings =>
        (((w.policyText file).run s).1.bind
          (compiledText settings w.respond (format.getD settings.format))).map
            (format.getD settings.format, ·) := by
    rw [requestedText, (keeps_loadSettings hw _).run_bind]
    cases ((w.loadSettings settingsFile).run s).1 with
    | error fault => rfl
    | ok settings =>
      dsimp only
      rw [(keeps_policyText hw _).run_bind]
      rfl
  rw [hrun]
  constructor
  · rintro ⟨f, h⟩
    cases hsettings : ((w.loadSettings settingsFile).run s).1 with
    | error fault =>
      rw [hsettings] at h
      cases h
    | ok settings =>
      rw [hsettings] at h
      obtain ⟨text', h, heq⟩ := map_eq_ok_iff.1 h
      obtain ⟨source, hsource, h⟩ := bind_eq_ok_iff.1 h
      obtain ⟨⟨client, compiler⟩, hconnect, h⟩ := bind_eq_ok_iff.1 h
      obtain ⟨policy, hpolicy, h⟩ := bind_eq_ok_iff.1 h
      obtain ⟨filter, hfilter, h⟩ := bind_eq_ok_iff.1 h
      obtain rfl := Except.ok.inj h
      exact ⟨settings, source, client, compiler, policy, filter, hsettings, hsource,
        eq_ok_of_mapError hconnect, eq_ok_of_mapError hpolicy, eq_ok_of_mapError hfilter,
        (congrArg Prod.snd heq).symm⟩
  · rintro ⟨settings, source, client, compiler, policy, filter, hsettings, hsource, hconnect,
      hpolicy, hfilter, rfl⟩
    refine ⟨format.getD settings.format, ?_⟩
    rw [hsettings]
    refine map_eq_ok_iff.2 ⟨_, bind_eq_ok_iff.2 ⟨source, hsource, ?_⟩, rfl⟩
    refine bind_eq_ok_iff.2 ⟨(client, compiler), by rw [hconnect]; rfl, ?_⟩
    refine bind_eq_ok_iff.2 ⟨policy, by rw [hpolicy]; rfl, ?_⟩
    exact bind_eq_ok_iff.2 ⟨filter, by rw [hfilter]; rfl, rfl⟩

/-- A request is carried out on what its text was made from. -/
theorem run_answer (hw : w.OnlyWritesChange) (r : Request) (s : σ) :
    (w.answer r).run s = match ((w.requestedText r).run s).1 with
      | .ok (format, text) => (w.deliver format text r.output?).run s
      | .error failure => (.ofFailure failure, s) := by
  rw [answer_eq, (keeps_requestedText hw r).run_bind]
  cases ((w.requestedText r).run s).1 <;> rfl

/-- A request for the same document as a text has the same text. -/
theorem requestedText_output (settingsFile file : Option String) (format : Option OutputFormat)
    (output : Option String) :
    w.requestedText ⟨settingsFile, .compile file format output⟩ =
      w.requestedText ⟨settingsFile, .compile file format none⟩ := rfl

end Effects

end Surroundings

section Runs

variable {arguments : List String} {request : Request} {input : Except FileFault String}
  {environment : Settings.Environment} {respond : String → Response} {d after : Directory}
  {report : Report}

theorem run_eq_answer {m : Type → Type} [Monad m] {w : Surroundings m}
    (h : Request.ofArguments arguments w.environment = .ok request) :
    w.run arguments = w.answer request := by
  rw [Surroundings.run, h]

theorem run_deliver_ok {text path : String} (h : d.write path text = .ok after)
    (format : OutputFormat) :
    ((Directory.surroundingsWith input environment respond).deliver format text (some path)).run d =
      (.ofWritten format path, after) := by
  simp only [Surroundings.deliver, StateT.run_bind, Directory.run_write_ok h]
  rfl

theorem run_deliver_error {text path : String} {fault : FileFault}
    (h : d.write path text = .error fault) (format : OutputFormat) :
    ((Directory.surroundingsWith input environment respond).deliver format text (some path)).run d =
      (.ofFailure (.writing path fault), d) := by
  simp only [Surroundings.deliver, StateT.run_bind, Directory.run_write_error h]
  rfl

/-- How a request ends on a directory: it fails, or its text is printed, or its text is written. -/
inductive Ends (w : Surroundings (StateM Directory)) (d : Directory) (r : Request) :
    Report → Directory → Prop
  | failed (failure : Failure) : Ends w d r (.ofFailure failure) d
  | printed {format : OutputFormat} {text : String} :
      ((w.requestedText r).run d).1 = .ok (format, text) → r.output? = none →
      Ends w d r (.ofText text) d
  | written {format : OutputFormat} {text path : String} {after : Directory} :
      ((w.requestedText r).run d).1 = .ok (format, text) → r.output? = some path →
      d.write path text = .ok after → Ends w d r (.ofWritten format path) after

theorem ends_of_run (hrequest : Request.ofArguments arguments environment = .ok request)
    (hrun : ((Directory.surroundingsWith input environment respond).run arguments).run d =
      (report, after)) :
    Ends (Directory.surroundingsWith input environment respond) d request report after := by
  have hw := Directory.onlyWritesChange input environment respond
  rw [run_eq_answer hrequest, Surroundings.run_answer hw] at hrun
  cases htext : (((Directory.surroundingsWith input environment respond).requestedText request).run
      d).1 with
  | error failure =>
    rw [htext] at hrun
    obtain ⟨rfl, rfl⟩ := Prod.mk.inj hrun
    exact .failed failure
  | ok made =>
    obtain ⟨format, text⟩ := made
    rw [htext] at hrun
    dsimp only at hrun
    cases houtput : request.output? with
    | none =>
      rw [houtput] at hrun
      obtain ⟨rfl, rfl⟩ := Prod.mk.inj hrun
      exact .printed htext houtput
    | some path =>
      rw [houtput] at hrun
      cases hwrite : d.write path text with
      | error fault =>
        rw [run_deliver_error hwrite] at hrun
        obtain ⟨rfl, rfl⟩ := Prod.mk.inj hrun
        exact .failed _
      | ok written =>
        rw [run_deliver_ok hwrite] at hrun
        obtain ⟨rfl, rfl⟩ := Prod.mk.inj hrun
        exact .written htext houtput hwrite

/-- **What a command leaves behind.**  A command that fails prints nothing and changes no file, and
only one that compiles to a file changes any.  The document that is printed is the one that the
policy is compiled to; with `-o` nothing is printed, and the file, be it the policy or the settings,
holds the same text as is printed without it.  All other files are kept. -/
theorem run_effects (hrequest : Request.ofArguments arguments environment = .ok request)
    (hrun : ((Directory.surroundingsWith input environment respond).run arguments).run d =
      (report, after)) :
    (report.status ≠ 0 → report.output = "" ∧ after = d) ∧
    (request.output? = none → after = d) ∧
    (∀ settingsFile file format, request = ⟨settingsFile, .compile file format none⟩ →
      report.status = 0 → (Directory.surroundingsWith input environment respond).IsDocument d
        settingsFile file format report.output) ∧
    ∀ settingsFile file format path,
      request = ⟨settingsFile, .compile file format (some path)⟩ → report.status = 0 →
      report.output = "" ∧
      ∃ text, (Directory.surroundingsWith input environment respond).IsDocument d
          settingsFile file format text ∧
        (∀ others, Request.ofArguments others environment =
            .ok ⟨settingsFile, .compile file format none⟩ →
          ((Directory.surroundingsWith input environment respond).run others).run d =
            (.ofText text, d)) ∧
        (path ≠ Directory.sinkPath → ∃ place, d.fileAt? path = some place ∧
          after.read path = .ok text ∧ after.at? place = some (text : Entry) ∧
          ∀ other, other ≠ place → after.at? other = d.at? other) := by
  have hw := Directory.onlyWritesChange input environment respond
  cases ends_of_run hrequest hrun with
  | failed failure =>
    exact ⟨fun _ => ⟨rfl, rfl⟩, fun _ => rfl, fun _ _ _ _ h => absurd h Nat.one_ne_zero,
      fun _ _ _ _ _ h => absurd h Nat.one_ne_zero⟩
  | printed htext houtput =>
    refine ⟨fun h => absurd rfl h, fun _ => rfl, ?_, ?_⟩
    · rintro settingsFile file format rfl -
      exact (Surroundings.requestedText_compile_iff hw).1 ⟨_, htext⟩
    · rintro settingsFile file format path rfl
      cases houtput
  | @written f text path _ htext houtput hwrite =>
    refine ⟨fun h => absurd rfl h, fun h => ?_, ?_, ?_⟩
    · rw [houtput] at h
      cases h
    · rintro settingsFile file format rfl
      cases houtput
    · rintro settingsFile file format path' rfl -
      obtain rfl := Option.some.inj houtput
      have hdocument := (Surroundings.requestedText_compile_iff hw).1 ⟨_, htext⟩
      refine ⟨rfl, text, hdocument, fun others hothers => ?_, fun hsink => ?_⟩
      · rw [run_eq_answer hothers, Surroundings.run_answer hw,
          ← Surroundings.requestedText_output settingsFile file format (some path'), htext]
        rfl
      · rcases Directory.write_eq_ok hwrite with ⟨hpath, -⟩ | ⟨place, hplace, rfl⟩
        · exact absurd hpath hsink
        · exact ⟨place, hplace, Directory.read_put hplace, Directory.at?_put_self d place text,
            fun other hne => Directory.at?_put_of_ne hne d text⟩

end Runs

/-- A policy whose provider publishes its endpoints. -/
def publishedPolicyText : String := "spec:\n  wellKnownURI: https://[::1]/endpoints\n"

def policyDirectory : Directory := ⟨[(["p.yaml"], publishedPolicyText)]⟩

def publishedText : String :=
  "\x7B\"authorization_endpoint\": \"https://[::1]/authorize\"," ++
    "\"token_endpoint\": \"https://[::1]/token\"\x7D"

def publishedResponse : Response := .received 200 ⟨none, publishedText.toUTF8⟩

def policySurroundings : Surroundings (StateM Directory) :=
  Directory.surroundingsWith (.ok "") [] fun _ => publishedResponse

theorem isDocument_policy : ∃ text,
    policySurroundings.IsDocument policyDirectory none (some "p.yaml") none text := by
  have hloaded : ((policySurroundings.loadSettings none).run policyDirectory).1 = .ok {} :=
    eq_ok_of_toOption (by decide +kernel)
  have hsource : ((policySurroundings.policyText (some "p.yaml")).run policyDirectory).1 =
      .ok publishedPolicyText := rfl
  have hconnect : connect {} = .ok (⟨1024 * 1024, "authgen/0.0.1"⟩, ⟨builtin, {}⟩) := by
    have hclient : Client.make (1024 * 1024) "authgen/0.0.1" =
        .ok ⟨1024 * 1024, "authgen/0.0.1"⟩ := eq_ok_of_toOption (by decide +kernel)
    exact bind_eq_ok_iff.2 ⟨_, hclient, rfl⟩
  have hread : (Policy.ofYamlText publishedPolicyText).toOption.map
      (fun p => (p.check.toOption, trim p.spec.wellKnownURI)) =
      some (some (), "https://[::1]/endpoints") := by
    decide +kernel
  obtain ⟨policy, hpolicy, hp⟩ := Option.map_eq_some_iff.1 hread
  obtain ⟨hcheck, huri⟩ := Prod.mk.inj hp
  replace hcheck := eq_ok_of_toOption hcheck
  have hfetch : (⟨1024 * 1024, "authgen/0.0.1"⟩ : Client).fetch "https://[::1]/endpoints"
      publishedResponse =
      .ok ⟨some "https://[::1]/authorize", some "https://[::1]/token", none⟩ :=
    eq_ok_of_toOption (by decide +kernel)
  have hset : "https://[::1]/endpoints" ≠ "" := by decide +kernel
  have hunknown : recognise builtin "https://[::1]/endpoints" = none := by decide +kernel
  have hresolves : Resolves builtin
      (fun uri => (⟨1024 * 1024, "authgen/0.0.1"⟩ : Client).fetch uri publishedResponse)
      "https://[::1]/endpoints" (.ok ⟨"https://[::1]/authorize", "https://[::1]/token", none⟩)
      ["https://[::1]/endpoints"] := by
    have hendpoints : DiscoveryDocument.endpoints
        ⟨some "https://[::1]/authorize", some "https://[::1]/token", none⟩
          "https://[::1]/endpoints" = .ok ⟨"https://[::1]/authorize", "https://[::1]/token", none⟩ :=
      eq_ok_of_toOption (by decide +kernel)
    exact hendpoints ▸ .fetched hset hunknown hfetch
  have htarget : NetworkTarget.derive "https://[::1]/token" "https://[::1]/endpoints" =
      .ok ⟨"https", "::1", 443⟩ := eq_ok_of_toOption (by decide +kernel)
  rw [← huri] at hresolves htarget
  obtain ⟨compiled, hcompiled⟩ := Policy.exists_compiled hcheck _ _
  obtain ⟨filter, hfilter⟩ := exists_generate {} compiled
  have hrun := (Compiler.Compiles.compiled (c := ⟨builtin, {}⟩) hcheck hresolves htarget hcompiled
    hfilter).run_eq
  exact ⟨_, {}, _, _, _, policy, filter, hloaded, hsource, hconnect, eq_ok_of_toOption hpolicy,
    congrArg Outcome.result hrun, rfl⟩

/-- The document of the policy may be written over it: with `-o p.yaml` the file of the policy holds
what is printed without. -/
theorem run_effects_over_policy : ∃ text format after,
    (policySurroundings.run ["compile", "-f", "p.yaml"]).run policyDirectory =
      (.ofText text, policyDirectory) ∧
    (policySurroundings.run ["compile", "-f", "p.yaml", "-o", "p.yaml"]).run policyDirectory =
      (.ofWritten format "p.yaml", after) ∧
    after.read "p.yaml" = .ok text := by
  have hover : Request.ofArguments ["compile", "-f", "p.yaml", "-o", "p.yaml"] [] =
      .ok ⟨none, .compile (some "p.yaml") none (some "p.yaml")⟩ := rfl
  have hplain : Request.ofArguments ["compile", "-f", "p.yaml"] [] =
      .ok ⟨none, .compile (some "p.yaml") none none⟩ := rfl
  obtain ⟨text, hdocument⟩ := isDocument_policy
  have hw := Directory.onlyWritesChange (.ok "") [] fun _ => publishedResponse
  obtain ⟨format, htext⟩ : ∃ format, (((Directory.surroundingsWith (.ok "") [] fun _ =>
      publishedResponse).requestedText ⟨none, .compile (some "p.yaml") none (some "p.yaml")⟩).run
        policyDirectory).1 = .ok (format, text) :=
    (Surroundings.requestedText_compile_iff hw).2 hdocument
  have hwrite : policyDirectory.write "p.yaml" text =
      .ok (policyDirectory.put ["p.yaml"] text) := by
    have hplace : policyDirectory.place "p.yaml" =
        .ok (.file ["p.yaml"] (.text publishedPolicyText)) := eq_ok_of_toOption (by decide +kernel)
    have hslashes : String.ofList (dropEndWhile (· == '/') "p.yaml".toList) = "p.yaml" := by
      decide +kernel
    refine bind_eq_ok_iff.2 ⟨_, by rw [hslashes, ite_self, hplace], ?_⟩
    exact if_pos hslashes
  have hrun : (policySurroundings.run ["compile", "-f", "p.yaml", "-o", "p.yaml"]).run
      policyDirectory = (.ofWritten format "p.yaml", policyDirectory.put ["p.yaml"] text) := by
    unfold policySurroundings
    rw [run_eq_answer hover, Surroundings.run_answer hw, htext]
    exact run_deliver_ok hwrite format
  obtain ⟨-, text', -, hothers, hfile⟩ := (run_effects hover hrun).2.2.2 _ _ _ _ rfl rfl
  obtain ⟨-, -, hread, -⟩ := hfile (by decide)
  exact ⟨text', format, _, hothers _ hplain, hrun, hread⟩

end LoginGate.CommandLine
