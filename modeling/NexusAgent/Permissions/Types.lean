import Mathlib.Order.BoundedOrder.Basic
import Mathlib.Order.Lattice

/-!
# The vocabulary of the permission chain

Decisions, ask kinds, the ten layers and their printed names, effect classes, declared
taint and the Rule-of-Two state of a session (`internal/permissions/types.go` and the data
of `internal/permissions/ruleoftwo.go`).

In the source `Decision` and `EffectClass` are texts with a few named constants; a text
outside the named ones is kept by the constructor `other`. `TaintState` is ordered by which
legs are engaged, with the union of two states as their join.
-/

namespace NexusAgent.Permissions

/-- The chain's vocabulary: `allow` is only ever a resolution, never a layer's answer. -/
inductive Decision
  | allow
  | ask
  | deny
  /-- This layer has no opinion. -/
  | defer
  | other (text : String)
  deriving DecidableEq

/-- The shape of the human decision an ask becomes. -/
inductive AskKind
  | none
  | once
  | session
  | multiParty
  deriving DecidableEq

def AskKind.text : AskKind → String
  | .none => ""
  | .once => "once"
  | .session => "session"
  | .multiParty => "multi_party"

/-- The ten positions of the chain, in their published order. -/
inductive Layer
  | denyRules
  | preToolUseHooks
  | autonomy
  | gate1Profile
  | gate2Capability
  | gate3Safety
  | ruleOfTwo
  | approvalPolicy
  | standingScope
  | fallbackAllow
  deriving DecidableEq

namespace Layer

/-- The number of a layer, counted from one. -/
def num : Layer → ℕ
  | denyRules => 1
  | preToolUseHooks => 2
  | autonomy => 3
  | gate1Profile => 4
  | gate2Capability => 5
  | gate3Safety => 6
  | ruleOfTwo => 7
  | approvalPolicy => 8
  | standingScope => 9
  | fallbackAllow => 10

def string : Layer → String
  | denyRules => "deny_rules"
  | preToolUseHooks => "pre_tool_use_hooks"
  | autonomy => "autonomy"
  | gate1Profile => "gate1_tool_profile"
  | gate2Capability => "gate2_capability"
  | gate3Safety => "gate3_safety"
  | ruleOfTwo => "rule_of_two"
  | approvalPolicy => "approval_policy"
  | standingScope => "standing_scope"
  | fallbackAllow => "fallback_allow"

end Layer

/-- What a tool does to the world. -/
inductive EffectClass
  | readOnly
  | mutating
  | external
  /-- A declared class that is none of the three. -/
  | other (text : String)
  deriving DecidableEq

def EffectClass.text : EffectClass → String
  | .readOnly => "read_only"
  | .mutating => "mutating"
  | .external => "external"
  | .other t => t

/-- The legs one tool declares. -/
structure Taint where
  returnsUntrusted : Bool
  readsPrivateData : Bool
  mutatesExternal : Bool
  deriving DecidableEq

/-- One layer's opinion. -/
structure LayerOutcome where
  decision : Decision
  reason : String := ""
  askKind : AskKind := .none

/-- The chain's answer for one invocation. `layer` is absent before any layer has spoken. -/
structure Resolution where
  decision : Decision
  layer : Option Layer := none
  reason : String := ""
  askKind : AskKind := .none
  deriving DecidableEq

/-- The three legs the Rule of Two counts. -/
inductive TaintLeg
  | untrustedInput
  | privateData
  | externalEffect

/-- Which legs a session has engaged so far. -/
@[ext]
structure TaintState where
  untrustedInput : Bool := false
  privateData : Bool := false
  externalEffect : Bool := false
  deriving DecidableEq

namespace TaintState

def engaged (s : TaintState) : TaintLeg → Bool
  | .untrustedInput => s.untrustedInput
  | .privateData => s.privateData
  | .externalEffect => s.externalEffect

def engagedCount (s : TaintState) : ℕ :=
  s.untrustedInput.toNat + s.privateData.toNat + s.externalEffect.toNat

def union (s t : TaintState) : TaintState where
  untrustedInput := s.untrustedInput || t.untrustedInput
  privateData := s.privateData || t.privateData
  externalEffect := s.externalEffect || t.externalEffect

lemma ext_engaged {s t : TaintState} (h : ∀ l, s.engaged l = t.engaged l) : s = t := by
  ext
  · rw [show s.untrustedInput = t.untrustedInput from h .untrustedInput]
  · rw [show s.privateData = t.privateData from h .privateData]
  · rw [show s.externalEffect = t.externalEffect from h .externalEffect]

@[simp]
lemma engaged_union (s t : TaintState) (l : TaintLeg) :
    (s.union t).engaged l = (s.engaged l || t.engaged l) := by
  cases l <;> rfl

@[simp]
lemma engaged_empty (l : TaintLeg) : ({} : TaintState).engaged l = false := by
  cases l <;> rfl

/-- `s ≤ t`: every leg of `s` is engaged in `t`. -/
instance : LE TaintState := ⟨fun s t => ∀ l, s.engaged l = true → t.engaged l = true⟩

instance (s t : TaintState) : Decidable (s ≤ t) :=
  decidable_of_iff
    ((s.untrustedInput = true → t.untrustedInput = true) ∧
      (s.privateData = true → t.privateData = true) ∧
      (s.externalEffect = true → t.externalEffect = true))
    ⟨fun h l => match l with
      | .untrustedInput => h.1
      | .privateData => h.2.1
      | .externalEffect => h.2.2,
    fun h => ⟨h .untrustedInput, h .privateData, h .externalEffect⟩⟩

/-- Taint states form a join semilattice under the union of their legs, with the untainted
state at the bottom. -/
instance : SemilatticeSup TaintState where
  le_refl _ _ h := h
  le_trans _ _ _ h h' l hl := h' l (h l hl)
  le_antisymm s t h h' := ext_engaged fun l => Bool.eq_iff_iff.2 ⟨h l, h' l⟩
  sup := union
  le_sup_left s t l h := by simp [h]
  le_sup_right s t l h := by simp [h]
  sup_le s t u h h' l hl := by
    rcases Bool.or_eq_true _ _ ▸ engaged_union s t l ▸ hl with hs | ht
    · exact h l hs
    · exact h' l ht

@[simp]
lemma union_eq_sup (s t : TaintState) : s.union t = s ⊔ t := rfl

instance : OrderBot TaintState where
  bot := {}
  bot_le _ l h := by simp at h

end TaintState

end NexusAgent.Permissions
