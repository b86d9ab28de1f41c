import NexusAgent.Go.Strings
import NexusAgent.Permissions.Types

/-!
# The layers of the permission chain

The evaluation of each layer that the chain computes itself: deny rules and their glob
(`denyrules.go`, `glob.go`), the pinned autonomy level (`autonomy.go`), tool profiles
(`profile.go`), the safety classifier with its circuit breaker (`safety/safety.go`), the
Rule of Two (`ruleoftwo.go`) and the approval policy with its standing scopes
(`chain.go`). Layers 2 and 5 are answers of code outside the chain and enter with the
request.

A compiled regular expression is its match test. Each layer function answers only the
decisions its row of the published table lists; the lemmas `*_decision` say so.
-/

namespace NexusAgent.Permissions

/-- A compiled regular expression: the test `MatchString`. -/
abbrev Regexp := String → Bool

/-- The matcher of deny rules and standing scopes: `*` or the empty pattern matches every
tool, `ns/*` every tool of a namespace, anything else the tool or its namespace exactly. -/
def matchGlob (pattern toolID ns : String) : Bool :=
  if pattern = "" ∨ pattern = "*" then true
  else if pattern = toolID then true
  else if Go.hasSuffix pattern "/*" then decide (Go.trimSuffix pattern "/*" = ns)
  else decide (pattern = ns)

/-! ### Layer 1: deny rules -/

/-- A deny rule by tool identity and, optionally, by the raw input. -/
structure DenyRule where
  name : String
  tool : String
  pattern : Option Regexp
  reason : String

/-- Whether a deny rule applies to an invocation. -/
def DenyRule.matches (r : DenyRule) (toolID ns rawInput : String) : Bool :=
  if matchGlob r.tool toolID ns then
    match r.pattern with
    | some re => re rawInput
    | none => true
  else false

def resolveDenyRules (rules : List DenyRule) (toolID ns rawInput : String) : LayerOutcome :=
  match rules with
  | [] => { decision := .defer, reason := "no deny rule matched" }
  | r :: rest =>
    if r.matches toolID ns rawInput then
      { decision := .deny, reason := "deny rule " ++ r.name ++ ": " ++ r.reason }
    else resolveDenyRules rest toolID ns rawInput

/-! ### Layer 3: autonomy -/

/-- How much a session may do without a human, loosest last. A stored level outside the
three is kept by its number. -/
inductive AutonomyLevel
  | readOnly
  | supervised
  | autonomous
  | other (n : ℤ)
  deriving DecidableEq

def AutonomyLevel.string : AutonomyLevel → String
  | .readOnly => "read_only"
  | .supervised => "supervised"
  | .autonomous => "autonomous"
  | .other n => "autonomy_level(" ++ toString n ++ ")"

/-- The number of a level, by which levels are compared. -/
def AutonomyLevel.num : AutonomyLevel → ℤ
  | .readOnly => 0
  | .supervised => 1
  | .autonomous => 2
  | .other n => n

/-- `ParseAutonomyLevel`: the stored text form of a level. -/
def parseAutonomyLevel (s : String) : Except String AutonomyLevel :=
  if s = "read_only" then .ok .readOnly
  else if s = "supervised" then .ok .supervised
  else if s = "autonomous" then .ok .autonomous
  else .error ("permissions: unknown autonomy level " ++ Go.quote s)

/-- The pinned level of a session. -/
structure Autonomy where
  level : AutonomyLevel
  deriving DecidableEq

/-- `Tighten`: the level may stay or become stricter. -/
def Autonomy.tighten (a : Autonomy) (target : AutonomyLevel) : Except String Autonomy :=
  if a.level.num < target.num then
    .error ("permissions: cannot widen autonomy from " ++ a.level.string ++ " to " ++ target.string)
  else .ok ⟨target⟩

/-- Layer 3: `read_only` denies every effect that is not read-only, `supervised` asks for
it, `autonomous` has no opinion. -/
def Autonomy.resolve (a : Autonomy) (effectClass : EffectClass) : LayerOutcome :=
  if effectClass = .readOnly then
    { decision := .defer, reason := "read-only effect class" }
  else
    match a.level with
    | .readOnly =>
      { decision := .deny
        reason := "autonomy level " ++ a.level.string ++ " permits read-only effects only" }
    | .supervised =>
      { decision := .ask
        askKind := .once
        reason := "autonomy level " ++ a.level.string ++ " requires approval for a " ++
          effectClass.text ++ " effect" }
    | .autonomous =>
      { decision := .defer
        reason := "autonomy level autonomous defers non-read-only effects to the " ++
          "remaining layers" }
    | .other _ =>
      { decision := .deny
        reason := "unrecognized autonomy level " ++ a.level.string ++ "; failing closed" }

/-! ### Layer 4: tool profiles -/

structure ToolProfile where
  name : String
  version : ℤ
  tools : List String

/-- Whether a tool is a declared member of the profile. -/
def ToolProfile.has (p : ToolProfile) (toolID : String) : Bool := p.tools.contains toolID

/-- Layer 4: a tool outside every bound profile is denied. -/
def resolveProfiles (profiles : List ToolProfile) (toolID : String) : LayerOutcome :=
  match profiles with
  | [] =>
    { decision := .deny
      reason := "not a member of any tool profile bound to this session" }
  | p :: rest =>
    if p.has toolID then
      { decision := .defer
        reason := "member of tool profile " ++ p.name ++ "@v" ++ toString p.version }
    else resolveProfiles rest toolID

/-! ### Layer 6: per-invocation safety -/

/-- The safety classifier's vocabulary; there is no allow. A rule or a model leg may still
answer a text outside the three. -/
inductive Verdict
  | deny
  | ask
  | defer
  | other (text : String)

/-- The conversion `Decision(verdict)`, which keeps the text. -/
def Verdict.toDecision : Verdict → Decision
  | .deny => .deny
  | .ask => .ask
  | .defer => .defer
  | .other t => if t = "allow" then .allow else .other t

/-- A classification with its reason. -/
structure SafetyResult where
  verdict : Verdict
  reason : String

/-- One deterministic pattern of the rule pass. -/
structure SafetyRule where
  name : String
  pattern : Regexp
  verdict : Verdict
  reason : String

/-- A consecutive-failure circuit breaker; times are nanoseconds. -/
structure Breaker where
  failures : ℕ := 0
  openUntil : ℕ := 0
  threshold : ℕ := 3
  cooldown : ℕ := 30000000000

namespace Breaker

def isOpen (b : Breaker) (now : ℕ) : Bool := decide (now < b.openUntil)

/-- A failed model leg: the `threshold`-th failure in a row opens the breaker. -/
def recordFailure (b : Breaker) (now : ℕ) : Breaker :=
  if b.threshold ≤ b.failures + 1 then
    { b with openUntil := now + b.cooldown, failures := 0 }
  else { b with failures := b.failures + 1 }

def recordSuccess (b : Breaker) : Breaker := { b with failures := 0 }

end Breaker

/-- What the model leg does within its timeout. -/
inductive LegOutcome
  | answered (verdict : Verdict) (reason : String)
  | failed (err : String)
  | timedOut

/-- The surroundings of one classification: the clock when the breaker is read, what the
model leg does, and the clock when its failure is recorded. -/
structure SafetyCall where
  now : ℕ
  leg : LegOutcome
  after : ℕ

structure Classifier where
  rules : List SafetyRule
  breaker : Breaker := {}

/-- Layer 6: the rule pass, then the model leg behind the breaker. A leg that fails, times
out or is skipped asks. -/
def Classifier.classify (c : Classifier) (call : SafetyCall) (toolID rawInput : String) :
    SafetyResult × Classifier :=
  match c.rules.find? fun r => r.pattern (toolID ++ " " ++ rawInput) with
  | some r => ({ verdict := r.verdict, reason := "rule:" ++ r.name ++ ": " ++ r.reason }, c)
  | none =>
    if c.breaker.isOpen call.now then
      ({ verdict := .ask
         reason := "safety model leg circuit breaker open; failing closed to ask" }, c)
    else
      match call.leg with
      | .timedOut =>
        ({ verdict := .ask, reason := "safety model leg timed out; failing closed to ask" },
          { c with breaker := c.breaker.recordFailure call.after })
      | .failed err =>
        ({ verdict := .ask
           reason := "safety model leg unavailable (" ++ err ++ "); failing closed to ask" },
          { c with breaker := c.breaker.recordFailure call.after })
      | .answered verdict reason =>
        ({ verdict, reason }, { c with breaker := c.breaker.recordSuccess })

/-! ### Layer 7: the Rule of Two -/

/-- The legs a tool's declared taint engages. -/
def legsFor (t : Taint) : TaintState where
  untrustedInput := t.returnsUntrusted
  privateData := t.readsPrivateData
  externalEffect := t.mutatesExternal

/-- Layer 7: the call's legs join the session's; a third leg asks. The second component is
the session's state after the call, whatever the answer. -/
def resolveRuleOfTwo (state : TaintState) (t : Taint) : LayerOutcome × TaintState :=
  let next := state.union (legsFor t)
  if next.engagedCount > 2 then
    ({ decision := .ask
       askKind := .session
       reason := "this call would engage a third Rule-of-Two leg within the same session" },
      next)
  else
    ({ decision := .defer, reason := "within the two-leg Rule-of-Two budget" }, next)

@[simp]
lemma resolveRuleOfTwo_snd (state : TaintState) (t : Taint) :
    (resolveRuleOfTwo state t).2 = state ⊔ legsFor t := by
  unfold resolveRuleOfTwo
  dsimp only
  split <;> rfl

/-! ### Layers 8 and 9: approval policy and standing scopes -/

structure ApprovalPolicy where
  requireAskFor : EffectClass → Option AskKind

def ApprovalPolicy.resolve (p : ApprovalPolicy) (effectClass : EffectClass) : LayerOutcome :=
  match p.requireAskFor effectClass with
  | some kind =>
    { decision := .ask
      askKind := kind
      reason := "approval policy requires a " ++ Go.quote kind.text ++ " approval for " ++
        effectClass.text ++ " effects" }
  | none => { decision := .defer, reason := "approval policy: auto" }

/-- A preauthorisation that can satisfy an outstanding ask. -/
structure StandingScope where
  name : String
  toolPattern : String

def StandingScope.covers (s : StandingScope) (toolID ns : String) : Bool :=
  matchGlob s.toolPattern toolID ns

end NexusAgent.Permissions
