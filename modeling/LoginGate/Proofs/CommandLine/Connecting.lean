import LoginGate.CommandLine.Run
import LoginGate.Proofs.Identity.FilledEndpoints
import LoginGate.Proofs.Settings.Layering
import LoginGate.Text.Bytes

/-!
# What loaded settings connect to

Commands that need a provider first make a client and a compiler from the settings.  The compiler of
accepted settings has the built-in provider and then those of the settings, in order.  The client
has a condition of its own, that no check of the settings knows: it sends the user agent as the
value of a header, so each of its bytes has to be a `HeaderByte`.

    Settings.load file environment = .ok s →
      connect s = (if every byte of the user agent may be sent then the client and the compiler
                   else the user agent is refused)                                (connect_of_load)
-/

namespace LoginGate

open LoginGate.Text LoginGate.Identity

/-! ## User agents -/

/-- A byte that the value of a header holds: a tab, or anything but a control character. -/
def HeaderByte (b : UInt8) : Prop := b.toNat = 9 ∨ (32 ≤ b.toNat ∧ b.toNat ≠ 127)

theorem headerBytes_char (c : Char) :
    (∀ b ∈ String.utf8EncodeChar c, HeaderByte b) ↔ c = '\t' ∨ (32 ≤ c.toNat ∧ c.toNat ≠ 127) := by
  have htab : c = '\t' ↔ c.toNat = 9 := ⟨fun h => h ▸ rfl, fun h => by
    rw [← Char.ofNat_toNat c, h]⟩
  rcases Nat.lt_or_ge c.toNat 128 with hc | hc
  · have hb : (UInt8.ofNat c.toNat).toNat = c.toNat := by
      rw [UInt8.toNat_ofNat']
      omega
    rw [utf8EncodeChar_of_lt hc, List.forall_mem_singleton, HeaderByte, hb, htab]
  · -- the bytes of other characters are beyond ASCII, and so no control characters
    refine iff_of_true (fun b hb => Or.inr ?_) (Or.inr (by omega))
    have := le_of_mem_utf8EncodeChar hc hb
    omega

theorem isHeaderText_iff (s : String) :
    isHeaderText s = true ↔ ∀ b ∈ textBytes s, HeaderByte b := by
  simp only [isHeaderText, List.all_eq_true, textBytes, utf8, List.mem_flatMap]
  constructor
  · rintro h b ⟨c, hc, hb⟩
    exact (headerBytes_char c).2 (by simpa using h c hc) b hb
  · intro h c hc
    simpa using (headerBytes_char c).1 fun b hb => h b ⟨c, hc, hb⟩

/-! ## Clients and compilers -/

namespace CommandLine

variable {s : Settings}

theorem connect_refused (h : isHeaderText s.discovery.userAgent = false) :
    connect s = .error (.configuration .userAgentRefused) := by
  rw [connect, Client.make, h]
  rfl

theorem connect_sent {c : Compiler} (h : isHeaderText s.discovery.userAgent = true)
    (hc : Compiler.ofSettings s = .ok c) :
    connect s = .ok (⟨s.discovery.maxResponseSize, s.discovery.userAgent⟩, c) := by
  rw [connect, Client.make, h, hc]
  rfl

/-- Where nothing can be connected to, a policy is not read. -/
theorem compiledText_of_connect {e : CompileError} (h : connect s = .error e)
    (respond : String → Response) (format : OutputFormat) (source : String) :
    compiledText s respond format source = .error (.provider e) := by
  rw [compiledText, h]
  rfl

/-- Where nothing can be connected to, a URI is not looked at. -/
theorem resolvedText_of_connect {e : CompileError} (h : connect s = .error e)
    (respond : String → Response) (uri : String) :
    resolvedText s respond uri = .error (.provider e) := by
  rw [resolvedText, h]
  rfl

/-- **When settings that load can be used.**  They describe a client and a compiler, with the
built-in provider and then those of the settings in order, exactly when every byte of their user
agent can be sent.  Else every compilation and every question about a URI ends before the policy or
the URI is looked at. -/
theorem connect_of_load {file : Option String} {environment : Settings.Environment}
    (h : Settings.load file environment = .ok s) :
    ∃ ps, List.Forall₂ (fun o p => Provider.ofSettings o = .ok p) s.discovery.offlineProviders ps ∧
      ((∀ b ∈ textBytes s.discovery.userAgent, HeaderByte b) →
        connect s = .ok (⟨s.discovery.maxResponseSize, s.discovery.userAgent⟩,
          ⟨builtin ++ ps, s.proxy⟩)) ∧
      ((∃ b ∈ textBytes s.discovery.userAgent, ¬ HeaderByte b) →
        connect s = .error (.configuration .userAgentRefused) ∧
        (∀ respond format source, compiledText s respond format source =
          .error (.provider (.configuration .userAgentRefused))) ∧
        ∀ respond uri, resolvedText s respond uri =
          .error (.provider (.configuration .userAgentRefused))) := by
  obtain ⟨_, -, -, hcheck⟩ := Settings.load_eq_ok_iff.1 h
  obtain ⟨ps, hps, hc⟩ := Compiler.exists_providers hcheck
  refine ⟨ps, hps, fun hbytes => connect_sent ((isHeaderText_iff _).2 hbytes) hc, ?_⟩
  rintro ⟨b, hb, hbad⟩
  have hrefused : isHeaderText s.discovery.userAgent = false :=
    Bool.eq_false_iff.2 fun hsent => hbad ((isHeaderText_iff _).1 hsent b hb)
  have hconnect := connect_refused hrefused
  exact ⟨hconnect, compiledText_of_connect hconnect, resolvedText_of_connect hconnect⟩

/-- A user agent with a line break is loaded from a variable, and no command can use it. -/
theorem connect_of_load_lineBreak : ∃ s,
    Settings.load none [("AUTHGEN__DISCOVERY__USER_AGENT", "a\nb")] = .ok s ∧
    s.discovery.userAgent = "a\nb" ∧
    connect s = .error (.configuration .userAgentRefused) ∧
    ∀ respond, resolvedText s respond
        "http://mock-oauth2.auth:8080/default/.well-known/openid-configuration" =
      .error (.provider (.configuration .userAgentRefused)) := by
  have h : Settings.load none [("AUTHGEN__DISCOVERY__USER_AGENT", "a\nb")] =
      .ok { discovery := { userAgent := "a\nb" } } :=
    eq_ok_of_toOption (by decide +kernel)
  obtain ⟨ps, -, -, hrefused⟩ := connect_of_load h
  have hbyte : (10 : UInt8) ∈ textBytes "a\nb" := by decide +kernel
  obtain ⟨hconnect, -, hresolved⟩ := hrefused ⟨10, hbyte, by unfold HeaderByte; decide⟩
  exact ⟨_, h, rfl, hconnect, fun respond => hresolved respond _⟩

end CommandLine

end LoginGate
