import NexusAgent.Plan.Driver

/-!
# Gates

`ResumeGate` hands the decision of a human to the step in progress (`internal/plan/exec.go`). It
asks neither for the kind of that step nor for the status of the session, it drops the decision
where the step is a preauth, and between its load and the exit another call may load the same gate.
It is left to its callers that a decision comes in turn, to a gate that waits for it.
-/

namespace NexusAgent.Plans

open EventLog

/-- A step that waits for the decision of a human. -/
def StepKind.gate : StepKind → Bool
  | .approvalGate | .preauth | .inputRequest => true
  | _ => false

/-- The step that the log stands at. -/
def Executor.current (x : Executor) (s : Store) : Option Step :=
  if s.state.currentStep = "" then none else x.plan.stepByID s.state.currentStep

/-! ### Decisions under way -/

/-- A plan session, and the decision that each call of `ResumeGate` has loaded the state with. -/
structure Gated where
  system : System
  decision : ℕ → Option Value

/-- The decision that a call is about to load the state with. -/
def Stage.brings : Stage → Option Value
  | .loading (.resumeGate value) => some value
  | _ => none

/-- The decision of a call after a step from a stage: it is kept until the exit. -/
def Stage.decision (before : Option Value) : Stage → Option Value
  | .resuming .. => before
  | stage => stage.brings

def gated (x : Executor) : Machine Gated Action where
  step t a := ((executor x).step t.system a).map fun system =>
    { system
      decision := match a with
        | .step i _ => Function.update t.decision i
            (t.system.calls[i]?.bind (Stage.decision (t.decision i)))
        | _ => t.decision }

def Gated.init : Gated := { system := System.init, decision := fun _ => none }

/-- A decision is for a step: it is no denial of a preauth. -/
def Passes (step : Step) (value : Value) : Prop := step.kind = .preauth → value = .boolValue true

/-- A gate waits for a decision that lets the plan go on. -/
def Awaits (status : SessionStatus) (step : Step) (value : Value) : Prop :=
  step.kind.gate = true ∧ status = .suspended ∧ Passes step value

/-- The condition on a step: the state is loaded in turn, and `ResumeGate` only with a decision that
the step in progress, where there is one, waits for. -/
def Deserved (x : Executor) (sys : System) : Action → Prop
  | .step i m => InTurn sys (.step i m) ∧ ∀ stage ∈ sys.calls[i]?, ∀ value ∈ stage.brings,
      ∀ step ∈ x.current sys.store, Awaits sys.store.status step value
  | _ => True

/-! ### Every run -/

variable {x : Executor} {s s' : Store} {stage stage' : Stage} {status : SessionStatus}
  {value : Value} {m : Move}

/-- What a decision says about the stage of its call. -/
def Carries (status : SessionStatus) (value : Value) : Stage → Prop
  | .resuming _ step _ _ => Awaits status step value
  | .exiting _ step _ _ => step.kind.gate = true ∧ Passes step value
  | _ => True

lemma carries_of_idle (h : stage.drives = false) : Carries status value stage := by
  cases stage <;> trivial

/-- `ResumeGate` reads the state, and fails or goes on with the step in progress. -/
lemma resumeGate_step (h : (Stage.loading (.resumeGate value)).step x s m = some (s', stage')) :
    s' = s ∧ ((∃ text, stage' = .failed text) ∨ ∃ step ∈ x.current s, ∃ bindings,
      stage' = .resuming s.state step bindings none) := by
  cases m with
  | commit ids =>
    obtain ⟨rfl, rfl⟩ := commit_of_read rfl (fun _ _ => rfl) h
    refine ⟨rfl, ?_⟩
    unfold resumeWith resumeGate
    dsimp only
    split_ifs with hnone
    · exact .inl ⟨_, rfl⟩
    · split
      · exact .inl ⟨_, rfl⟩
      next step hstep => exact .inr ⟨step, (if_neg hnone).trans hstep, _, rfl⟩
  | fail =>
    obtain ⟨rfl, hfailed⟩ := step_fail h
    exact ⟨rfl, .inl hfailed⟩
  | drive | finalize => nomatch h

/-- Only the load and the step before the exit leave a call with a decision. -/
lemma step_carries {before : Option Value} (hbefore : ∀ v ∈ before, Carries s.status v stage)
    (hawaits : ∀ v ∈ stage.brings, ∀ step ∈ x.current s, Awaits s.status step v)
    (h : stage.step x s m = some (s', stage')) (hafter : stage.decision before = some value) :
    Carries s'.status value stage' := by
  cases stage with
  | loading loader =>
    cases loader with
    | resumeGate v =>
      obtain rfl := Option.some.inj hafter
      obtain ⟨rfl, ⟨text, rfl⟩ | ⟨step, hstep, bindings, rfl⟩⟩ := resumeGate_step h
      · trivial
      · exact hawaits v rfl step hstep
    | _ => nomatch hafter
  | resuming st step bindings via =>
    have hcarries := hbefore value hafter
    cases m with
    | commit ids =>
      cases ids with
      | nil =>
        cases h
        exact ⟨hcarries.1, hcarries.2.2⟩
      | cons => nomatch h
    | fail =>
      obtain ⟨rfl, text, rfl⟩ := step_fail h
      trivial
    | drive | finalize => nomatch h
  | _ => nomatch hafter

/-- Every call is where its decision says. -/
def Carried (t : Gated) : Prop :=
  ∀ i stage, t.system.calls[i]? = some stage → ∀ value ∈ t.decision i,
    Carries t.system.store.status value stage

lemma Carried.step {t t' : Gated} {a : Action} {memory : ℕ → RunState} (h : Carried t)
    (hdriven : Driven x t.system memory) (hdeserved : Deserved x t.system a)
    (hst : (gated x).step t a = some t') : Carried t' := by
  obtain ⟨sys, hsys, rfl⟩ := Option.map_eq_some_iff.1 hst
  cases a with
  | step i m =>
    obtain ⟨stage, ⟨s', stage'⟩, hi, hstep, rfl⟩ := executor_step hsys
    intro j stageⱼ hj value hvalue
    dsimp only at hvalue
    obtain ⟨rfl, rfl⟩ | ⟨hji, hj⟩ := getElem?_goto hj
    · rw [Function.update_self, hi] at hvalue
      exact step_carries (h j stage hi) (hdeserved.2 stage hi) hstep hvalue
    rw [Function.update_of_ne hji] at hvalue
    by_cases hdrives : stageⱼ.drives = true
    · -- the other calls leave the status of the session alone while a call drives the plan
      have hstatus : s'.status = t.system.store.status := by
        have hidle := (hdriven j stageⱼ hj hdrives).2 i stage (Ne.symm hji) hi
        obtain ⟨rfl, -⟩ | ⟨-, pending, b, ids, hfinal⟩ := idle_cases hidle hstep
        · rfl
        · exact (finalize_events hfinal).2
      show Carries s'.status value stageⱼ
      rw [hstatus]
      exact h j stageⱼ hj value hvalue
    · exact carries_of_idle (by simpa using hdrives)
  | _ =>
    obtain ⟨⟨-, hstatus⟩, hstages, -⟩ := executor_other (by simp) hsys
    intro i stage hi value hvalue
    show Carries sys.store.status value stage
    obtain hi | hidle := hstages i stage hi
    · rw [hstatus]
      exact h i stage hi value hvalue
    · exact carries_of_idle hidle

instance (x : Executor) (sys : System) (a : Action) : Decidable (Deserved x sys a) :=
  match a with
  | .step i m => decidable_of_iff (InTurn sys (.step i m) ∧
      ∀ stage ∈ sys.calls[i]?, ∀ value ∈ stage.brings, ∀ step ∈ x.current sys.store,
        step.kind.gate = true ∧ sys.store.status = .suspended ∧
          (step.kind = .preauth → value = .boolValue true)) Iff.rfl
  | .childEnds _ | .onChildTerminal _ | .resume | .resumeGate _ | .crash _ => .isTrue trivial

/-- The step that a call is about to exit. -/
def Stage.exits : Stage → Option Step
  | .exiting _ step _ _ => some step
  | _ => none

/-- A plan that asks for a sign-off first. -/
def signOff : Executor where
  sessionID := 7
  plan :=
    { startStep := "sign"
      steps := [
        { id := "sign", kind := .preauth, transitions := [{ target := "deploy" }] },
        { id := "deploy", kind := .agent }] }

end NexusAgent.Plans
