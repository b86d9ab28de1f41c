import NexusAgent.Permissions.Layers

/-!
# Resolving one invocation

`Chain.resolve` walks the ten layers in their published order
(`internal/permissions/chain.go`). A layer's answer is folded into the resolution
accumulated so far: a deny returns at once, the first ask is kept, and an allow from one of
the layers 1 to 8 is an error, since those layers are not a source of permission.

`Chain.answer` names what each layer answers, and `Chain.resolve_eq_walk` presents the
walk over the first eight layers as one fold over their answers.
-/

namespace NexusAgent.Permissions

/-- Everything one session binds the chain to. -/
structure Chain where
  denyRules : List DenyRule
  profiles : List ToolProfile
  approval : ApprovalPolicy
  standingScopes : List StandingScope
  safety : Classifier

/-- One invocation. The answers of layers 2 and 5 come with it. -/
structure Request where
  toolID : String
  ns : String
  effectClass : EffectClass
  taint : Taint
  /-- The raw input, which layers 1 and 6 match against. -/
  input : String
  autonomy : Option Autonomy
  hookOutcome : LayerOutcome
  gate2 : LayerOutcome
  /-- The session's Rule-of-Two state going in. -/
  taintState : TaintState

/-- The binding resolution and the Rule-of-Two state after the call. -/
structure Result where
  resolution : Resolution
  taintState : TaintState

/-- What a call of `Resolve` returns: a result and, possibly, an error. -/
abbrev Return := Result × Option String

def guardNotAllow (l : Layer) (o : LayerOutcome) : Except String LayerOutcome :=
  if o.decision = .allow then
    .error ("permissions: layer " ++ l.string ++
      " resolved Allow, which is not a valid layer outcome")
  else .ok o

/-- One layer's answer folded into the accumulated resolution. The error case is a return
from `Resolve` with the taint state `taint`. -/
def fold (taint : TaintState) (l : Layer) (raw : LayerOutcome) (accumulated : Resolution) :
    Except Return Resolution :=
  match guardNotAllow l raw with
  | .error err => .error (⟨accumulated, taint⟩, some err)
  | .ok o =>
    match o.decision with
    | .deny =>
      .error (⟨{ decision := .deny, layer := some l, reason := o.reason }, taint⟩, none)
    | .ask =>
      if accumulated.decision ≠ .ask then
        .ok { decision := .ask, layer := some l, reason := o.reason, askKind := o.askKind }
      else .ok accumulated
    | _ => .ok accumulated

namespace Chain

/-- The answer of layer 3, which has no opinion while no autonomy is pinned. -/
def autonomyOutcome (req : Request) : LayerOutcome :=
  match req.autonomy with
  | none => { decision := .defer, reason := "no autonomy pinned" }
  | some a => a.resolve req.effectClass

/-- Layers 1 to 5. -/
def resolveGates (c : Chain) (req : Request) : Except Return Resolution := do
  let accumulated : Resolution := { decision := .defer }
  let accumulated ← fold req.taintState .denyRules
    (resolveDenyRules c.denyRules req.toolID req.ns req.input) accumulated
  let accumulated ← fold req.taintState .preToolUseHooks req.hookOutcome accumulated
  let accumulated ← fold req.taintState .autonomy (autonomyOutcome req) accumulated
  let accumulated ← fold req.taintState .gate1Profile
    (resolveProfiles c.profiles req.toolID) accumulated
  fold req.taintState .gate2Capability req.gate2 accumulated

/-- Layers 6 to 8, given the classification of the invocation. -/
def resolveAlways (c : Chain) (sr : SafetyResult) (req : Request) (accumulated : Resolution) :
    Except Return Resolution := do
  let accumulated ← fold req.taintState .gate3Safety
    { decision := sr.verdict.toDecision, reason := sr.reason } accumulated
  let rot := resolveRuleOfTwo req.taintState req.taint
  let accumulated ← fold rot.2 .ruleOfTwo rot.1 accumulated
  fold rot.2 .approvalPolicy (c.approval.resolve req.effectClass) accumulated

/-- Layers 9 and 10: a standing scope can satisfy an outstanding ask; with nothing asked
the call is allowed. -/
def resolveFinal (c : Chain) (req : Request) (accumulated : Resolution) : Return :=
  let nextTaintState := (resolveRuleOfTwo req.taintState req.taint).2
  if accumulated.decision = .ask then
    match c.standingScopes.find? fun scope => scope.covers req.toolID req.ns with
    | some scope =>
      (⟨{ decision := .allow
          layer := some .standingScope
          reason := "standing scope " ++ Go.quote scope.name ++
            " satisfied the ask raised at layer " ++
            (accumulated.layer.map Layer.string).getD "" },
        nextTaintState⟩, none)
    | none => (⟨accumulated, nextTaintState⟩, none)
  else
    (⟨{ decision := .allow, layer := some .fallbackAllow, reason := "no layer objected" },
      nextTaintState⟩, none)

/-- `Resolve`: the return of one invocation and the chain after it. The classifier is
consulted, and its breaker moved, only when the first five layers do not return. -/
def resolve (c : Chain) (call : SafetyCall) (req : Request) : Return × Chain :=
  match c.resolveGates req with
  | .error out => (out, c)
  | .ok accumulated =>
    let (sr, safety) := c.safety.classify call req.toolID req.input
    match c.resolveAlways sr req accumulated with
    | .error out => (out, { c with safety })
    | .ok accumulated => (c.resolveFinal req accumulated, { c with safety })

/-! ### The walk as one fold -/

def answer (c : Chain) (call : SafetyCall) (req : Request) : Layer → LayerOutcome
  | .denyRules => resolveDenyRules c.denyRules req.toolID req.ns req.input
  | .preToolUseHooks => req.hookOutcome
  | .autonomy => autonomyOutcome req
  | .gate1Profile => resolveProfiles c.profiles req.toolID
  | .gate2Capability => req.gate2
  | .gate3Safety =>
    let sr := (c.safety.classify call req.toolID req.input).1
    { decision := sr.verdict.toDecision, reason := sr.reason }
  | .ruleOfTwo => (resolveRuleOfTwo req.taintState req.taint).1
  | .approvalPolicy => c.approval.resolve req.effectClass
  | .standingScope => { decision := .defer }
  | .fallbackAllow => { decision := .defer }

def covered (c : Chain) (req : Request) : Bool :=
  c.standingScopes.any fun scope => scope.covers req.toolID req.ns

end Chain

def Layer.answering : List Layer :=
  [.denyRules, .preToolUseHooks, .autonomy, .gate1Profile, .gate2Capability, .gate3Safety,
    .ruleOfTwo, .approvalPolicy]

/-- The taint state a return at layer `l` carries: the successor from layer 7 on. -/
def taintAt (req : Request) (l : Layer) : TaintState :=
  if l.num ≤ 6 then req.taintState else (resolveRuleOfTwo req.taintState req.taint).2

/-- The answers `ans` of the layers `ls` folded into a resolution, in order. -/
def walk (ans : Layer → LayerOutcome) (taint : Layer → TaintState) :
    List Layer → Resolution → Except Return Resolution
  | [], acc => pure acc
  | l :: ls, acc => fold (taint l) l (ans l) acc >>= walk ans taint ls

lemma walk_append (ans : Layer → LayerOutcome) (taint : Layer → TaintState)
    (ls ls' : List Layer) (acc : Resolution) :
    walk ans taint (ls ++ ls') acc = walk ans taint ls acc >>= walk ans taint ls' := by
  induction ls generalizing acc with
  | nil => rfl
  | cons l ls ih =>
    simp only [List.cons_append, walk, bind_assoc]
    congr 1
    funext acc'
    exact ih acc'

/-- `resolve` returns where the walk over the answering layers returns, and otherwise
resolves by layers 9 and 10. -/
theorem Chain.resolve_eq_walk (c : Chain) (call : SafetyCall) (req : Request) :
    (c.resolve call req).1 =
      match walk (c.answer call req) (taintAt req) Layer.answering { decision := .defer } with
      | .error out => out
      | .ok acc => c.resolveFinal req acc := by
  have hgates : walk (c.answer call req) (taintAt req)
      [.denyRules, .preToolUseHooks, .autonomy, .gate1Profile, .gate2Capability]
      { decision := .defer } = c.resolveGates req := by
    simp [walk, resolveGates, answer, taintAt, Layer.num]
  have halways (acc : Resolution) : walk (c.answer call req) (taintAt req)
      [.gate3Safety, .ruleOfTwo, .approvalPolicy] acc =
        c.resolveAlways (c.safety.classify call req.toolID req.input).1 req acc := by
    simp [walk, resolveAlways, answer, taintAt, Layer.num]
  have hsplit : Layer.answering =
      [.denyRules, .preToolUseHooks, .autonomy, .gate1Profile, .gate2Capability] ++
        [.gate3Safety, .ruleOfTwo, .approvalPolicy] := rfl
  rw [hsplit, walk_append, hgates, resolve]
  cases c.resolveGates req with
  | error out => rfl
  | ok acc =>
    simp only [bind, Except.bind, halways]
    cases c.resolveAlways (c.safety.classify call req.toolID req.input).1 req acc <;> rfl

end NexusAgent.Permissions
