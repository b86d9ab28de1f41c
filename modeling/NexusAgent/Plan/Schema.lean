import NexusAgent.Cost.Decimal

/-!
# Plans

A plan is data: steps with kind-specific configurations and transitions between them, and a
closed language of predicates that transitions are guarded by (`internal/plan/schema.go`,
`internal/plan/predicate.go`). The numbers of predicates are rationals here; the source's are
the 64-bit floats that a JSON document can state, which are compared exactly as well.
-/

namespace NexusAgent.Plans

/-! ### Predicates -/

inductive ValueKind
  | string
  | number
  | bool
  /-- A tag that is none of the above. -/
  | other (text : String)
  deriving DecidableEq

def ValueKind.text : ValueKind → String
  | .string => "string"
  | .number => "number"
  | .bool => "bool"
  | .other text => text

/-- A typed operand: the tag says which of the fields counts. -/
structure Value where
  kind : ValueKind := .other ""
  str : String := ""
  num : ℚ := 0
  bool : Bool := false
  deriving DecidableEq

namespace Value

def stringValue (s : String) : Value := { kind := .string, str := s }

def numberValue (n : ℚ) : Value := { kind := .number, num := n }

def boolValue (b : Bool) : Value := { kind := .bool, bool := b }

/-- Equality of two values; values of different kinds differ, and so do those of a kind that
is not known. -/
def equal (v o : Value) : Bool :=
  if v.kind ≠ o.kind then false
  else match v.kind with
    | .string => v.str = o.str
    | .number => v.num = o.num
    | .bool => v.bool = o.bool
    | .other _ => false

def less (v o : Value) : Except String Bool :=
  if v.kind ≠ .number ∨ o.kind ≠ .number then
    .error ("plan: lt/gt only compares numbers, got " ++ v.kind.text ++ " and " ++ o.kind.text)
  else .ok (v.num < o.num)

end Value

inductive Op
  | eq
  | ne
  | lt
  | gt
  | and
  | or
  | mem
  | other (text : String)
  deriving DecidableEq

def Op.text : Op → String
  | .eq => "eq"
  | .ne => "ne"
  | .lt => "lt"
  | .gt => "gt"
  | .and => "and"
  | .or => "or"
  | .mem => "in"
  | .other text => text

/-- The closed language of predicates. Which fields count depends on the operator. -/
inductive Predicate
  /-- An operator with the variable and the operands of a comparison, and the parts of a
  conjunction and of a disjunction. -/
  | mk (op : Op) (field : String) (value : Value) (values : List Value)
      (and or : List Predicate)

abbrev Context := String → Option Value

/-- The comparison of a variable with the operands of a predicate. -/
def compare (op : Op) (v value : Value) (values : List Value) : Except String Bool :=
  match op with
  | .eq => .ok (v.equal value)
  | .ne => .ok (!v.equal value)
  | .lt => v.less value
  | .gt => value.less v
  | .mem => .ok (values.any v.equal)
  | op => .error ("plan: unrecognized predicate op " ++ Go.quote op.text)

mutual

/-- A predicate against the variables of a plan run. -/
def Predicate.eval (ctx : Context) : Predicate → Except String Bool
  | .mk op field value values and or =>
    match op with
    | .and => evalAll ctx and
    | .or => evalAny ctx or
    | .other text => .error ("plan: unrecognized predicate op " ++ Go.quote text)
    | op => match ctx field with
      | none => .error ("plan: predicate references unbound field " ++ Go.quote field)
      | some v => compare op v value values

/-- A conjunction, which stops at the first part that fails or does not hold. -/
def evalAll (ctx : Context) : List Predicate → Except String Bool
  | [] => .ok true
  | p :: ps => match p.eval ctx with
    | .error e => .error e
    | .ok false => .ok false
    | .ok true => evalAll ctx ps

/-- A disjunction, which stops at the first part that fails or holds. -/
def evalAny (ctx : Context) : List Predicate → Except String Bool
  | [] => .ok false
  | p :: ps => match p.eval ctx with
    | .error e => .error e
    | .ok true => .ok true
    | .ok false => evalAny ctx ps

end

/-! ### Steps -/

inductive StepKind
  | agent
  | delegateFanout
  | approvalGate
  | preauth
  | inputRequest
  | condition
  | loop
  | other (text : String)
  deriving DecidableEq

def StepKind.text : StepKind → String
  | .agent => "agent"
  | .delegateFanout => "delegate_fanout"
  | .approvalGate => "approval_gate"
  | .preauth => "preauth"
  | .inputRequest => "input_request"
  | .condition => "condition"
  | .loop => "loop"
  | .other text => text

/-- An edge out of a step. Without a predicate it is the default. -/
structure Transition where
  target : String
  when? : Option Predicate := none

/-- An ordinary sequence of kernel turns. -/
structure AgentStepConfig where
  /-- The message that opens it. -/
  input : String := ""
  /-- The variable its last content is bound to. -/
  outputVar : String := ""

/-- A cohort of children with one envelope. -/
structure DelegateFanoutConfig where
  agentID : String := ""
  task : String := ""
  /-- The tools they may use. -/
  scopeGrant : List String := []
  childCount : ℤ := 0
  perChildCeiling : String := ""
  /-- The variable the number of children that returned is bound to. -/
  completionVar : String := ""

/-- A decision of a human. -/
structure ApprovalGateConfig where
  question : String := ""
  /-- The variable the decision is bound to. -/
  resultVar : String := ""

/-- A call that is approved in advance. -/
structure PreauthEntry where
  toolID : String
  digest : List UInt8

/-- The calls that one decision approves in advance. -/
structure PreauthConfig where
  entries : List PreauthEntry := []

/-- A question with a structured answer. -/
structure InputRequestConfig where
  question : String := ""
  /-- The schema of the answer, as JSON. -/
  schema : String := ""
  /-- The variable the answer is bound to. -/
  resultVar : String := ""

structure ConditionConfig where

structure LoopConfig where
  maxIterations : ℤ := 0
  /-- The variable the number of entries is bound to. -/
  counterVar : String := ""

structure Step where
  id : String := ""
  kind : StepKind := .other ""
  agent : Option AgentStepConfig := none
  delegateFanout : Option DelegateFanoutConfig := none
  approvalGate : Option ApprovalGateConfig := none
  preauth : Option PreauthConfig := none
  inputRequest : Option InputRequestConfig := none
  condition : Option ConditionConfig := none
  loop : Option LoopConfig := none
  /-- The edges out of it, in the order they are tried. -/
  transitions : List Transition := []

structure Plan where
  planID : UUID := 0
  version : ℤ := 0
  startStep : String
  steps : List Step
  /-- The tools that the plan says it needs. -/
  allowedTools : List String := []
  /-- What the whole run may spend, in decimal; empty for no bound. -/
  costCeiling : String := ""

def Step.targets (s : Step) : List String := s.transitions.map (·.target)

def Plan.stepByID (p : Plan) (id : String) : Option Step := p.steps.find? (·.id = id)

/-- The transition graph of a plan: the targets of the transitions of the step with an id. -/
def Plan.next (p : Plan) (id : String) : List String :=
  ((p.stepByID id).map Step.targets).getD []

/-- A ceiling in decimal, where no text stands for no ceiling. -/
def parseCeiling (s : String) : Except String (Option Cost.Money) :=
  if s = "" then .ok none else (Cost.parseDecimal s Cost.defaultCurrency).map some

end NexusAgent.Plans
