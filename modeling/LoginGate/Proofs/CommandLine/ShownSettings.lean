import LoginGate.CommandLine.Run
import LoginGate.Proofs.Settings.Reloading

/-!
# Settings that the program shows, taken as its settings file

Settings that were loaded from any file and environment are shown as a document.  With the document
as its settings file and nothing in the environment, the program loads the same settings and shows
the same document again (`show_shown`).
-/

namespace LoginGate.CommandLine

open LoginGate.Settings

/-- A path that is not taken for an option. -/
def isPlainPath (path : String) : Bool := path.toList.head?.any (· != '-')

theorem admits_of_isPlainPath {path : String} (h : isPlainPath path = true) :
    Parameter.settingsFile.admits path = true := by
  have hne : path ≠ "" := by
    rintro rfl
    cases h
  simpa [Parameter.admits] using hne

theorem step_path {path : String} (hpath : isPlainPath path = true) :
    Reading.step { expecting := .value .settingsFile } path =
      .ok { values := [(.settingsFile, path)] } := by
  have hgive : Reading.give { expecting := .value .settingsFile } .settingsFile path =
      .ok { values := [(.settingsFile, path)] } := by
    rw [Reading.give, if_neg]
    simp [admits_of_isPlainPath hpath]
  obtain ⟨c, rest, hpath⟩ : ∃ c rest, path.toList = c :: rest ∧ c ≠ '-' := by
    rw [isPlainPath] at hpath
    cases h : path.toList with
    | nil => rw [h] at hpath; cases hpath
    | cons c rest => exact ⟨c, rest, rfl, by rw [h] at hpath; simpa using hpath⟩
  unfold Reading.step
  rw [hpath.1]
  split
  case h_3 heq => exact absurd (List.cons.inj heq).1 hpath.2
  case h_4 heq _ =>
    cases heq
    exact hgive
  all_goals contradiction

theorem ofArguments_show {path : String} (hpath : isPlainPath path = true) :
    Request.ofArguments ["--config", path, "config", "show"] [] =
      .ok ⟨some path, .showSettings⟩ := by
  have hoption : Reading.step {} "--config" = .ok { expecting := .value .settingsFile } := by
    rfl
  have hconfig : Reading.step { values := [(.settingsFile, path)] } "config" =
      .ok { level := .settings, outer := [[(.settingsFile, path)]] } := by
    rfl
  have hshow : Reading.step { level := .settings, outer := [[(.settingsFile, path)]] } "show" =
      .ok { level := .settingsShown, outer := [[], [(.settingsFile, path)]] } := by
    rfl
  rw [Request.ofArguments, bind_eq_ok_iff]
  refine ⟨{ level := .settingsShown, outer := [[], [(.settingsFile, path)]] }, ?_, rfl⟩
  simp only [List.foldlM_cons, List.foldlM_nil]
  exact bind_eq_ok_iff.2 ⟨_, hoption, bind_eq_ok_iff.2 ⟨_, step_path hpath,
    bind_eq_ok_iff.2 ⟨_, hconfig, bind_eq_ok_iff.2 ⟨_, hshow, rfl⟩⟩⟩⟩

section Runs

variable {m : Type → Type} [Monad m] [LawfulMonad m] {w : Surroundings m}

/-- The settings in effect are those of a file, where no variable gives any. -/
theorem loadSettings_of_file {path text : String} (hfile : w.isFile path = pure true)
    (hread : w.read path = pure (.ok text)) (henvironment : w.environment = []) :
    w.loadSettings (some path) = pure (Settings.load (some text) []) := by
  simp only [Surroundings.loadSettings, Surroundings.settingsText?, Surroundings.settingsText,
    Surroundings.firstFile?, hfile, hread, henvironment, pure_bind, if_true]
  rfl

theorem run_show {path text : String} {s : Settings} (hpath : isPlainPath path = true)
    (hfile : w.isFile path = pure true) (hread : w.read path = pure (.ok text))
    (henvironment : w.environment = []) (hload : Settings.load (some text) [] = .ok s) :
    w.run ["--config", path, "config", "show"] = pure (.ofText s.document) := by
  rw [Surroundings.run, henvironment, ofArguments_show hpath]
  simp only [Surroundings.answer, loadSettings_of_file hfile hread henvironment, pure_bind, hload]
  rfl

end Runs

/-- **Settings that are shown and loaded again are the same settings, and are shown as before**,
unless their size is one that the document cannot hold; then the document is not read. -/
theorem show_shown {file : Option String} {environment : Environment} {s : Settings}
    (h : Settings.load file environment = .ok s) :
    Settings.load (some s.document) [] =
        (if s.discovery.maxResponseSize < sizeLimit then .ok s else .error .unreadable) ∧
      (s.discovery.maxResponseSize < sizeLimit →
        ∀ {m : Type → Type} [Monad m] [LawfulMonad m] (w : Surroundings m) (path : String),
          isPlainPath path = true → w.isFile path = pure true →
          w.read path = pure (.ok s.document) → w.environment = [] →
          w.run ["--config", path, "config", "show"] = pure (.ofText s.document)) := by
  refine ⟨load_document h, fun hsize m _ _ w path hpath hfile hread henvironment => ?_⟩
  have hload := load_document h
  rw [if_pos hsize] at hload
  exact run_show hpath hfile hread henvironment hload

/-- Settings with quotes, line breaks and control characters, a provider and a duration in parts. -/
theorem show_shown_provider : ∃ s,
    Settings.load
      (some "envoy.client_id = \"a\\u0001\\n\\\"'\"\n[[discovery.offline_providers]]\nname = \"x\"\npattern = '(?P<base>.*)'\n")
      [("AUTHGEN__ENVOY__TOKEN_TIMEOUT", "1h 1ms"), ("AUTHGEN__OUTPUT__FORMAT", "json")] = .ok s ∧
    s.proxy.clientId = "a\x01\n\"'" ∧ Settings.load (some s.document) [] = .ok s := by
  have h : Settings.load
      (some "envoy.client_id = \"a\\u0001\\n\\\"'\"\n[[discovery.offline_providers]]\nname = \"x\"\npattern = '(?P<base>.*)'\n")
      [("AUTHGEN__ENVOY__TOKEN_TIMEOUT", "1h 1ms"), ("AUTHGEN__OUTPUT__FORMAT", "json")] = .ok {
        proxy := { clientId := "a\x01\n\"'", tokenTimeout := ⟨3600, 1000000, by decide⟩ }
        discovery := { offlineProviders := [{ name := "x", pattern := "(?P<base>.*)" }] }
        format := .json } :=
    eq_ok_of_toOption (by decide +kernel)
  exact ⟨_, h, rfl, (show_shown h).1⟩

/-- A size of 2⁶³ is taken from the environment, where it is read as a fraction, and shown; but no
document holds it. -/
theorem show_shown_size : ∃ s,
    Settings.load none [("AUTHGEN__DISCOVERY__MAX_RESPONSE_SIZE", "9223372036854775808")] = .ok s ∧
    Settings.load (some s.document) [] ≠ .ok s := by
  have h : Settings.load none [("AUTHGEN__DISCOVERY__MAX_RESPONSE_SIZE", "9223372036854775808")] =
      .ok { discovery := { maxResponseSize := 2 ^ 63 } } :=
    eq_ok_of_toOption (by decide +kernel)
  refine ⟨_, h, ?_⟩
  rw [load_document h, if_neg (by decide)]
  exact fun heq => by cases heq

end LoginGate.CommandLine
