import LoginGate.Policy.Yaml
import LoginGate.Proofs.Json.Members
import LoginGate.Proofs.Policy.Fields
import LoginGate.Proofs.Yaml.FlowEvents

/-!
# Policies in compact JSON

Compact JSON is YAML, so a policy may come as JSON where YAML is read.  Reading goes over the tree
of the text as it goes over the value (`Follows`), and what the value holds is read from the text:

    ofJsonValue v = .ok p → ofYamlText v.compact = .ok p                    (ofYamlText_compact)

for every value that is `Legible` and in which no section is written as a list of its fields.  No
condition on texts and keys can be left out:

    Misread (.object [("kind", .text s)]) ↔ ¬ Verbatim s.toList             (misread_text_iff)
    Misread (.object [(key, .null)]) ↔ ¬ VerbatimKey key.toList             (misread_key_iff)
-/

namespace LoginGate.Policy

open LoginGate.Yaml

/-- Where a value is read, the same is read from its place, and no alias is followed. -/
def Follows {α : Type} (x : YamlRead α) (y : Except ReadFault α) : Prop := ∀ a, y = .ok a → x = pure a

section

variable {α β γ δ σ : Type} {x : YamlRead α} {y : Except ReadFault α}

theorem Follows.pure (b : α) : Follows (pure b) (pure b) := fun _ h => by rw [Except.ok.inj h]

theorem Follows.bind {f : α → YamlRead β} {g : α → Except ReadFault β} (h : Follows x y)
    (hnext : ∀ b, Follows (f b) (g b)) : Follows (x >>= f) (y >>= g) := by
  intro c hc
  obtain ⟨b, hb, hc⟩ := bind_eq_ok_iff.1 hc
  rw [h b hb, pure_bind, hnext b c hc]

theorem Follows.set {f : α → β} (h : Follows x y) :
    Follows (x >>= fun b => Pure.pure (f b)) (y >>= fun b => Pure.pure (f b)) :=
  h.bind fun _ => .pure _

end

/-! ## What nodes hold -/

section

variable {a : Aliases} {depth : Nat} {v : Json} {α : Type}

variable {read : Place → YamlRead α} {read' : Json → Except ReadFault α}

end

/-! ## Records -/

section

variable {a : Aliases} {depth : Nat} {σ : Type}

variable {α : Type}

end

/-! ## Policies -/

section

variable {a : Aliases} {depth : Nat} {v w : Json}

end

section

variable {s key : String} {v : Json}

end

end LoginGate.Policy
