import LoginGate.Proofs.Filter.ScriptBindings
import LoginGate.Proofs.Filter.Substitution
import LoginGate.Proofs.FormEncoding
import LoginGate.Proofs.Json.Members

/-!
# Login parameters in the script

The script gets the login parameters as a table with one field for each key, in the order of the
keys.  A field holds the encoded form of the last value that was given for its key:

    (encodeParameters pairs).lookup key = some text ↔
      ∃ value, BindsLast pairs key value ∧ text = encode value            (lookup_encodeParameters)

What a reader of the script finds decodes to what was given (`parameters_read_back`).
-/

namespace LoginGate.Filter

open LoginGate.Text LoginGate.Lua LoginGate.FormEncoding

/-- Is this the value that pairs bind to a key last? -/
def BindsLast (pairs : List (String × String)) (key value : String) : Prop :=
  ∃ before after, pairs = before ++ (key, value) :: after ∧ ∀ pair ∈ after, pair.1 ≠ key

theorem lookup_reverse_eq_some_iff {pairs : List (String × String)} {key value : String} :
    pairs.reverse.lookup key = some value ↔ BindsLast pairs key value := by
  rw [List.lookup_eq_some_iff]
  constructor
  · rintro ⟨after, before, heq, hafter⟩
    refine ⟨before.reverse, after.reverse, ?_, fun pair hp => ?_⟩
    · rw [← pairs.reverse_reverse, heq]
      simp
    · exact (bne_iff_ne.1 (hafter pair (List.mem_reverse.1 hp))).symm
  · rintro ⟨before, after, rfl, hafter⟩
    refine ⟨after.reverse, before.reverse, by simp, fun pair hp => ?_⟩
    exact bne_iff_ne.2 (hafter pair (List.mem_reverse.1 hp)).symm

theorem lookup_encodeParameters {pairs : List (String × String)} {key text : String} :
    (encodeParameters pairs).lookup key = some text ↔
      ∃ value, BindsLast pairs key value ∧ text = encode value := by
  have hmap : ∀ l : List (String × String),
      (l.map fun pair => (pair.1, encode pair.2)).lookup key = (l.lookup key).map encode := by
    intro l
    induction l with
    | nil => rfl
    | cons pair l ih =>
      rw [List.map_cons, List.lookup_cons, List.lookup_cons, ih]
      cases key == pair.1 <;> rfl
  rw [encodeParameters, KeyMap.lookup_ofPairs_eq_reverse, ← List.map_reverse, hmap,
    Option.map_eq_some_iff]
  simp only [lookup_reverse_eq_some_iff, eq_comm]

theorem mem_keys_encodeParameters {pairs : List (String × String)} {key : String} :
    key ∈ (encodeParameters pairs).map Prod.fst ↔ key ∈ pairs.map Prod.fst := by
  rw [← KeyMap.lookup_isSome_iff, encodeParameters, KeyMap.lookup_ofPairs_eq_reverse,
    KeyMap.lookup_isSome_iff, List.map_reverse, List.mem_reverse, List.map_map]
  rfl

theorem ofText?_stringTable (entries : List (String × String)) :
    Value.ofText? (stringTable entries) =
      some (.table [] (entries.map fun entry => (textBytes entry.1, .text (textBytes entry.2)))) :=
  ofText?_of_reads (reads_stringTable entries _) (makes_stringTable entries)

theorem ofText?_quote (s : String) : Value.ofText? (quote s) = some (.text (textBytes s)) :=
  ofText?_of_reads (reads_quote s _) (makes_text _)

theorem field_encodeParameters {pairs : List (String × String)} {field : String × String}
    (h : field ∈ encodeParameters pairs) : ∃ value, BindsLast pairs field.1 value ∧
      field.2 = encode value := by
  have hnodup := (KeyMap.ascending_ofPairs (pairs.map fun pair => (pair.1, encode pair.2))).nodup
  exact lookup_encodeParameters.1 ((KeyMap.lookup_eq_some_iff hnodup).2 h)

/-- **Login parameters, written and read.**  The table that is written for pairs of keys and values
has a field for each key, in the order of the code points of the keys; it holds no character that
means anything in a query string, and decodes to the last value for the key.  The target after a
logout decodes to what was given, and nothing is written exactly if nothing was given.  These are
the values that a reader of the script finds, whatever else a policy holds. -/
theorem parameters_read_back (pairs : List (String × String)) (target : Option String) :
    (∃ fields : List (String × String),
      Value.ofText? (stringTable (encodeParameters pairs)) =
        some (.table [] (fields.map fun field => (textBytes field.1, .text (textBytes field.2)))) ∧
      fields.Pairwise (fun a b => a.1.toList < b.1.toList) ∧
      (∀ key, key ∈ fields.map Prod.fst ↔ key ∈ pairs.map Prod.fst) ∧
      ∀ field ∈ fields, IsEncoded field.2.toList ∧ (∀ c ∈ separators, c ∉ field.2.toList) ∧
        ∃ value, BindsLast pairs field.1 value ∧ decode field.2 = textBytes value) ∧
    (∃ text, Value.ofText? (quote (encodeOptional target)) = some (.text (textBytes text)) ∧
      IsEncoded text.toList ∧ decode text = textBytes (target.getD "") ∧
      (text = "" ↔ target = none ∨ target = some "")) ∧
    ∀ c : CompiledPolicy, ∃ source,
      script (.ofPolicy { c with
        loginParams := encodeParameters pairs
        postLogoutRedirectURI := encodeOptional target }) = .ok source ∧
      boundValue? source "login_params" = Value.ofText? (stringTable (encodeParameters pairs)) ∧
      boundValue? source "post_logout_redirect_uri" =
        Value.ofText? (quote (encodeOptional target)) := by
  refine ⟨⟨encodeParameters pairs, ofText?_stringTable _, ?_, fun key => mem_keys_encodeParameters,
    fun field hf => ?_⟩, ⟨encodeOptional target, ofText?_quote _, encodeOptional_spec target⟩,
    fun c => ?_⟩
  · exact (KeyMap.ascending_ofPairs _).imp fun h => String.lt_iff.1 h
  · obtain ⟨value, hlast, htext⟩ := field_encodeParameters hf
    rw [htext]
    exact ⟨isEncoded_encode value, (isEncoded_encode value).not_mem, value, hlast,
      decode_encode value⟩
  · obtain ⟨literals, last, -, -, hscript⟩ := exists_script_eq
    refine ⟨_, hscript _, ?_, ?_⟩
    · rw [boundValue?_script (hscript _) (by decide), ofText?_stringTable]
      rfl
    · rw [boundValue?_script (hscript _) (by decide), ofText?_quote]
      rfl

end LoginGate.Filter
