import Mathlib.Data.List.Sort
import NexusAgent.Lib.BreadthFirst
import NexusAgent.Lib.DepthFirst
import NexusAgent.Plan.Schema

/-!
# Validation of plans

Every check that a plan passes before it can be enabled, in the order of the source, with the
text of each refusal (`internal/plan/validate.go`).

The reachability check is a breadth-first search over the transition graph and the check for
bounded loops a depth-first one; both run with as many rounds as the graph can need.
-/

namespace NexusAgent.Plans

def maxPredicateDepth : ℕ := 8

mutual

def predicateDepth : Predicate → ℕ
  | .mk op _ _ _ and or =>
    match op with
    | .and => max (predicatesDepth and) (predicatesDepth or) + 1
    | .or => max (predicatesDepth and) (predicatesDepth or) + 1
    | _ => 1

/-- How deeply the deepest of some predicates nests. -/
def predicatesDepth : List Predicate → ℕ
  | [] => 0
  | p :: ps => max (predicateDepth p) (predicatesDepth ps)

end

/-! ### The shape of a step -/

/-- How many of the kind-specific configurations a step has. -/
def Step.present (s : Step) : ℕ :=
  [s.agent.isSome, s.delegateFanout.isSome, s.approvalGate.isSome, s.preauth.isSome,
    s.inputRequest.isSome, s.condition.isSome, s.loop.isSome].count true

/-- A check of a condition with the text of the refusal. -/
def require (ok : Bool) (text : String) : Except String Unit :=
  if ok then .ok () else .error text

def validateFanout (c : DelegateFanoutConfig) : Except String Unit := do
  require (0 < c.childCount) "delegate_fanout.child_count must be positive"
  require (!c.scopeGrant.isEmpty) "delegate_fanout.scope_grant must name at least one tool"
  let _ ← (parseCeiling c.perChildCeiling).mapError ("delegate_fanout.per_child_ceiling: " ++ ·)

/-- The checks of the configuration that the kind of a step asks for. -/
def validateKind (s : Step) : Except String Unit :=
  let kind := "kind " ++ Go.quote s.kind.text
  match s.kind with
  | .agent => require s.agent.isSome (kind ++ " requires an agent config")
  | .delegateFanout => match s.delegateFanout with
    | none => .error (kind ++ " requires a delegate_fanout config")
    | some c => validateFanout c
  | .approvalGate =>
    require (s.approvalGate.any (·.question ≠ "")) (kind ++ " requires a non-empty question")
  | .preauth =>
    require (s.preauth.any (!·.entries.isEmpty)) ("preauth must enumerate at least one " ++
      "\x7btool_id, digest\x7d entry — an unbounded or empty preauth fails validation")
  | .inputRequest =>
    require (s.inputRequest.any (·.question ≠ "")) (kind ++ " requires a non-empty question")
  | .condition => .ok ()
  | .loop =>
    require (s.loop.any (0 < ·.maxIterations))
      "loop steps must declare a positive max_iterations (README task 8.3: bounded loops)"
  | .other text => .error ("unrecognized step kind " ++ Go.quote text)

def validateStepShape (s : Step) : Except String Unit := do
  require (s.present = 1) ("exactly one of the kind-specific configs must be set for kind " ++
    Go.quote s.kind.text ++ " (found " ++ toString s.present ++ ")")
  validateKind s

/-! ### Declared steps -/

/-- The map from ids to declared steps, the newest first. -/
abbrev Seen := List Step

def Seen.get (seen : Seen) (id : String) : Option Step := seen.find? (·.id = id)

/-- The targets of the transitions of the step declared with an id. -/
def Seen.next (seen : Seen) (id : String) : List String :=
  ((seen.get id).map Step.targets).getD []

/-- The text of a refusal that names a step. -/
def inStep (s : Step) (text : String) : String := "plan: step " ++ Go.quote s.id ++ ": " ++ text

def declare (seen : Seen) (s : Step) : Except String Seen := do
  require (s.id ≠ "") "plan: a step has an empty id"
  require (seen.get s.id).isNone ("plan: duplicate step id " ++ Go.quote s.id)
  (validateStepShape s).mapError (inStep s)
  return s :: seen

/-! ### Transitions -/

/-- The check that the transition without a predicate is the last one. -/
def validateTransitions : List Transition → Except String Unit
  | [] => .ok ()
  | t :: ts => do
    require (t.when?.isSome || ts.isEmpty)
      "the unconditional transition (nil when) must be listed last"
    validateTransitions ts

def validateTransition (seen : Seen) (s : Step) (t : Transition) : Except String Unit := do
  require (seen.get t.target).isSome ("plan: step " ++ Go.quote s.id ++
    " transitions to undeclared step " ++ Go.quote t.target)
  match t.when? with
  | none => return ()
  | some p => require (predicateDepth p ≤ maxPredicateDepth) ("plan: step " ++ Go.quote s.id ++
      "'s transition to " ++ Go.quote t.target ++ " nests predicates " ++
      toString (predicateDepth p) ++ " deep (max " ++ toString maxPredicateDepth ++ ")")

def validateStepTransitions (seen : Seen) (s : Step) : Except String Unit := do
  (validateTransitions s.transitions).mapError (inStep s)
  s.transitions.forM (validateTransition seen s)

/-! ### The transition graph -/

/-- A bound on the number of steps that the searches meet: the start and the targets of all
transitions. -/
def Seen.size (seen : Seen) : ℕ := (seen.flatMap Step.targets).length + 1

/-- The check that every declared step can be reached from the start. -/
def validateReachability (p : Plan) (seen : Seen) : Except String Unit :=
  let visited := BreadthFirst.explore seen.next seen.size [p.startStep] [p.startStep]
  let unreachable := (seen.map (·.id)).filter (· ∉ visited)
  require unreachable.isEmpty ("plan: unreachable step(s) from start_step " ++
    Go.quote p.startStep ++ ": " ++ Go.listed (unreachable.insertionSort (· ≤ ·)))

def cycleHasLoopStep (cycle : List String) (seen : Seen) : Bool :=
  cycle.any fun id => (seen.get id).any (·.kind = .loop)

/-- The cycle that a transition back to a step of the path closes: the path from that step
on, and the step again. -/
def cycleOf (path : List String) (target : String) : List String :=
  path.drop (path.idxOf target) ++ [target]

/-- The check of a transition back to the path. -/
def checkCycle (seen : Seen) (path : List String) (target : String) : Except String Unit :=
  let cycle := cycleOf path target
  require (cycleHasLoopStep cycle seen) ("plan: cycle " ++ Go.listed cycle ++
    " has no bounded loop step (README task 8.3 — a cycle must pass through a Loop-kind step" ++
    " with a positive max_iterations)")

def validateBoundedLoops (p : Plan) (seen : Seen) : Except String Unit :=
  (DepthFirst.search seen.next (checkCycle seen) seen.size p.startStep [] fun _ => .white).map
    fun _ => ()

/-! ### Scopes, oversight and cost -/

/-- The check that the tools granted to the children of a step are among those that the plan
says it needs. -/
def validateGrants (p : Plan) (s : Step) : Except String Unit :=
  match s.delegateFanout with
  | none => .ok ()
  | some c => c.scopeGrant.forM fun g =>
      require (p.allowedTools.contains g) ("plan: step " ++ Go.quote s.id ++
        "'s scope_grant names " ++ Go.quote g ++ ", which is not in the plan's own allowed_tools")

/-- The check of all grants. -/
def validateScopeSubset (p : Plan) : Except String Unit := p.steps.forM (validateGrants p)

/-- The check that every call approved in advance is bound to a tool and an input. -/
def validateEntries (s : Step) : ℕ → List PreauthEntry → Except String Unit
  | _, [] => .ok ()
  | i, e :: es => do
    require (e.toolID ≠ "" && !e.digest.isEmpty) ("plan: step " ++ Go.quote s.id ++
      " preauth entry " ++ toString i ++ " is missing tool_id or digest — every entry must be" ++
      " a fully bound \x7btool_id, digest\x7d pair, never a wildcard")
    validateEntries s (i + 1) es

/-- The check of all approvals in advance. A preauth step has its configuration here, since
its shape has been checked before. -/
def validateOversightCompleteness (p : Plan) : Except String Unit :=
  p.steps.forM fun s =>
    if s.kind ≠ .preauth then .ok ()
    else validateEntries s 0 ((s.preauth.map (·.entries)).getD [])

def Plan.hasDelegateFanout (p : Plan) : Bool := p.steps.any (·.kind = .delegateFanout)

def validateCeiling (p : Plan) : Except String Unit := do
  let ceiling ← (parseCeiling p.costCeiling).mapError ("plan: cost_envelope.ceiling: " ++ ·)
  require (ceiling.isSome || !p.hasDelegateFanout)
    ("plan: a plan with a delegate_fanout step must declare a cost_envelope.ceiling (README" ++
      " task 8.13 — reserved before the first child starts)")

/-! ### All checks -/

def validate (p : Plan) : Except String Unit := do
  require (p.startStep ≠ "") "plan: start_step is required"
  require (!p.steps.isEmpty) "plan: at least one step is required"
  let seen ← p.steps.foldlM declare []
  require (seen.get p.startStep).isSome ("plan: start_step " ++ Go.quote p.startStep ++
    " is not a declared step")
  p.steps.forM (validateStepTransitions seen)
  validateReachability p seen
  validateBoundedLoops p seen
  validateScopeSubset p
  validateOversightCompleteness p
  validateCeiling p

/-! ### Checks in sequence -/

@[simp] theorem require_ok {ok : Bool} {text : String} :
    require ok text = .ok () ↔ ok = true := by
  cases ok <;> simp [require]

lemma pure_ok {α : Type} {a b : α} : (pure a : Except String α) = .ok b ↔ b = a :=
  ⟨fun h => (Except.ok.inj h).symm, fun h => by rw [h]; rfl⟩

lemma check_bind_ok {α : Type} {x : Except String Unit} {y : Except String α} {a : α} :
    (x >>= fun _ => y) = .ok a ↔ x = .ok () ∧ y = .ok a := by
  cases x with
  | error | ok => simp [bind, Except.bind]

lemma mapError_ok {α : Type} {x : Except String α} {f : String → String} {a : α} :
    x.mapError f = .ok a ↔ x = .ok a := by
  cases x <;> simp [Except.mapError]

lemma forM_ok {α : Type} {f : α → Except String Unit} {l : List α} :
    l.forM f = .ok () ↔ ∀ a ∈ l, f a = .ok () := by
  induction l with
  | nil => simp [pure_ok]
  | cons a l ih =>
    have hcons : (a :: l).forM f = (f a >>= fun _ => l.forM f) := rfl
    rw [hcons, check_bind_ok, ih, List.forall_mem_cons]

/-! ### Declared steps are found again -/

lemma declare_ok {seen seen' : Seen} {s : Step} :
    declare seen s = .ok seen' ↔
      s.id ≠ "" ∧ (∀ a ∈ seen, a.id ≠ s.id) ∧ validateStepShape s = .ok () ∧
        seen' = s :: seen := by
  have hnone : (seen.get s.id).isNone = true ↔ ∀ a ∈ seen, a.id ≠ s.id := by
    simp [Seen.get]
  unfold declare
  rw [check_bind_ok, check_bind_ok, check_bind_ok, require_ok, require_ok, mapError_ok, hnone,
    decide_eq_true_iff, pure_ok]

lemma foldlM_declare {steps : List Step} {seen seen' : Seen} :
    steps.foldlM declare seen = .ok seen' ↔
      (∀ s ∈ steps, s.id ≠ "" ∧ validateStepShape s = .ok ()) ∧ (steps.map (·.id)).Nodup ∧
        (∀ s ∈ steps, ∀ a ∈ seen, a.id ≠ s.id) ∧ seen' = steps.reverse ++ seen := by
  induction steps generalizing seen with
  | nil =>
    rw [List.foldlM_nil, pure_ok]
    simp
  | cons s steps ih =>
    rw [List.foldlM_cons]
    have hsplit : (declare seen s >>= fun seen₁ => steps.foldlM declare seen₁) = .ok seen' ↔
        declare seen s = .ok (s :: seen) ∧ steps.foldlM declare (s :: seen) = .ok seen' := by
      cases hd : declare seen s with
      | error e => simp [bind, Except.bind]
      | ok seen₁ =>
        obtain rfl := (declare_ok.1 hd).2.2.2
        simp [bind, Except.bind]
    rw [hsplit, ih, declare_ok]
    simp only [List.forall_mem_cons, List.map_cons, List.nodup_cons, List.mem_map, not_exists,
      not_and, List.reverse_cons, List.append_assoc, List.singleton_append, and_true]
    constructor
    · rintro ⟨⟨hid, hnew, hshape⟩, hall, hnodup, hfresh, heq⟩
      exact ⟨⟨⟨hid, hshape⟩, hall⟩, ⟨fun b hb heqid => (hfresh b hb).1 heqid.symm, hnodup⟩,
        ⟨hnew, fun b hb => (hfresh b hb).2⟩, heq⟩
    · rintro ⟨⟨⟨hid, hshape⟩, hall⟩, ⟨hnot, hnodup⟩, ⟨hnew, hfresh⟩, heq⟩
      exact ⟨⟨hid, hnew, hshape⟩, hall, hnodup,
        fun b hb => ⟨fun heqid => hnot b hb heqid.symm, hfresh b hb⟩, heq⟩

/-- The declared steps of a plan whose ids are distinct. -/
lemma get_reverse {steps : List Step} (hnodup : (steps.map (·.id)).Nodup) (id : String) :
    Seen.get steps.reverse id = steps.find? (·.id = id) := by
  unfold Seen.get
  induction steps with
  | nil => rfl
  | cons s steps ih =>
    obtain ⟨hnot, hnodup'⟩ := List.nodup_cons.1 hnodup
    rw [List.reverse_cons, List.find?_append, ih hnodup', List.find?_cons]
    by_cases hs : s.id = id
    · have hnone : steps.find? (·.id = id) = none := by
        rw [List.find?_eq_none]
        intro a ha heq
        exact hnot (List.mem_map.2 ⟨a, ha, (of_decide_eq_true heq).trans hs.symm⟩)
      simp [hs, hnone]
    · simp [hs]

lemma next_reverse {p : Plan} (hnodup : (p.steps.map (·.id)).Nodup) :
    Seen.next p.steps.reverse = p.next := by
  funext id
  rw [Seen.next, Plan.next, Plan.stepByID, get_reverse hnodup]

/-! ### The transition graph -/

def Plan.Reachable (p : Plan) (id : String) : Prop :=
  Relation.ReflTransGen (fun a b => b ∈ p.next a) p.startStep id

/-- The vertices of the transition graph: the start and the targets of the transitions. -/
def Plan.vertices (p : Plan) : Finset String :=
  (p.startStep :: p.steps.flatMap Step.targets).toFinset

lemma startStep_mem_vertices (p : Plan) : p.startStep ∈ p.vertices := by
  simp [Plan.vertices]

lemma next_mem_vertices (p : Plan) : ∀ u ∈ p.vertices, ∀ w ∈ p.next u, w ∈ p.vertices := by
  intro u _ w hw
  unfold Plan.next Plan.stepByID at hw
  cases hfind : p.steps.find? (·.id = u) with
  | none => simp [hfind] at hw
  | some s =>
    have hs : s ∈ p.steps := List.mem_of_find?_eq_some hfind
    have hw' : w ∈ s.targets := by simpa [hfind] using hw
    exact List.mem_toFinset.2
      (List.mem_cons_of_mem _ (List.mem_flatMap.2 ⟨s, hs, hw'⟩))

lemma card_vertices_le (p : Plan) : p.vertices.card ≤ Seen.size p.steps.reverse := by
  have hlength : (p.steps.reverse.flatMap Step.targets).length =
      (p.steps.flatMap Step.targets).length := by
    rw [List.length_flatMap, List.length_flatMap]
    exact ((List.reverse_perm p.steps).map _).sum_eq
  calc
    p.vertices.card ≤ (p.startStep :: p.steps.flatMap Step.targets).length :=
      List.toFinset_card_le _
    _ = Seen.size p.steps.reverse := by rw [List.length_cons, Seen.size, hlength]

theorem validateReachability_ok {p : Plan} (hnodup : (p.steps.map (·.id)).Nodup) :
    validateReachability p p.steps.reverse = .ok () ↔ ∀ s ∈ p.steps, p.Reachable s.id := by
  have hvisited : ∀ id, id ∈ BreadthFirst.explore p.next (Seen.size p.steps.reverse)
      [p.startStep] [p.startStep] ↔ p.Reachable id := fun id =>
    BreadthFirst.mem_explore (next_mem_vertices p) (startStep_mem_vertices p)
      (card_vertices_le p)
  simp only [validateReachability, require_ok, next_reverse hnodup, List.isEmpty_iff,
    List.filter_eq_nil_iff, decide_eq_true_eq, not_not, List.forall_mem_map, List.mem_reverse,
    hvisited]

/-! ### Accepted plans -/

/-- The rules for plans besides the one on loops. -/
structure OtherwiseValid (p : Plan) : Prop where
  start : p.startStep ≠ ""
  shape : ∀ s ∈ p.steps, s.id ≠ "" ∧ validateStepShape s = .ok ()
  nodup : (p.steps.map (·.id)).Nodup
  declared : (p.stepByID p.startStep).isSome
  /-- Transitions lead to steps, the default comes last and predicates are not too deep. -/
  transitions : ∀ s ∈ p.steps, validateStepTransitions p.steps.reverse s = .ok ()
  reachable : ∀ s ∈ p.steps, p.Reachable s.id
  scopes : validateScopeSubset p = .ok ()
  oversight : validateOversightCompleteness p = .ok ()
  ceiling : validateCeiling p = .ok ()

/-- A plan is accepted if and only if it meets the other rules and the check for bounded
loops passes. -/
theorem validate_ok {p : Plan} :
    validate p = .ok () ↔
      OtherwiseValid p ∧ validateBoundedLoops p p.steps.reverse = .ok () := by
  have hdeclare : ∀ {k : Seen → Except String Unit},
      ((p.steps.foldlM declare []) >>= k) = .ok () ↔
        (∀ s ∈ p.steps, s.id ≠ "" ∧ validateStepShape s = .ok ()) ∧
          (p.steps.map (·.id)).Nodup ∧ k p.steps.reverse = .ok () := by
    intro k
    cases hfold : p.steps.foldlM declare [] with
    | error e =>
      simp only [bind, Except.bind, reduceCtorEq, false_iff]
      rintro ⟨hshape, hnodup, -⟩
      have hok : p.steps.foldlM declare [] = .ok (p.steps.reverse ++ []) :=
        foldlM_declare.2 ⟨hshape, hnodup, by simp, rfl⟩
      rw [hfold] at hok
      nomatch hok
    | ok seen =>
      obtain ⟨hshape, hnodup, -, rfl⟩ := foldlM_declare.1 hfold
      rw [List.append_nil]
      exact ⟨fun h => ⟨hshape, hnodup, h⟩, fun h => h.2.2⟩
  unfold validate
  rw [check_bind_ok, check_bind_ok, hdeclare]
  simp only [check_bind_ok, require_ok, forM_ok]
  constructor
  · rintro ⟨hstart, -, hshape, hnodup, hdeclared, htrans, hreach, hloops, hscope, hover, hceil⟩
    rw [get_reverse hnodup] at hdeclared
    exact ⟨⟨of_decide_eq_true hstart, hshape, hnodup, hdeclared, htrans,
      (validateReachability_ok hnodup).1 hreach, hscope, hover, hceil⟩, hloops⟩
  · rintro ⟨h, hloops⟩
    refine ⟨decide_eq_true h.start, ?_, h.shape, h.nodup, ?_, h.transitions,
      (validateReachability_ok h.nodup).2 h.reachable, hloops, h.scopes, h.oversight, h.ceiling⟩
    · -- a plan without steps has no start
      have hdeclared := h.declared
      unfold Plan.stepByID at hdeclared
      cases hsteps : p.steps with
      | nil => simp [hsteps] at hdeclared
      | cons s steps => rfl
    · rw [get_reverse h.nodup]
      exact h.declared

end NexusAgent.Plans
