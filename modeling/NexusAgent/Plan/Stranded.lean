import Mathlib.Data.Set.Finite.Basic
import NexusAgent.Plan.Driver

/-!
# Plans that nothing drives on

After a crash a plan run goes on from its log. `replayState` gives the step that was entered and not
exited, and the entry points refuse a log without one. Between the start of the plan or the exit of
a step and the next entry there is none: the transition is in the log, but replaying does not read
it.
-/

namespace NexusAgent.Plans

open EventLog

variable {x : Executor} {sys sys' : System}

/-! ### Runs that can move on -/

/-- Some calls bring the run of the plan to another state than the one that its log stands for. -/
def MovesOn (x : Executor) (sys : System) : Prop :=
  ∃ sys', (executor x).Reaches sys sys' ∧ sys'.store.state ≠ sys.store.state

def Idle (sys : System) : Prop :=
  ∀ (i : ℕ) (stage : Stage), sys.calls[i]? = some stage → stage.drives = false

/-- The log stands at a step of the plan. -/
def StandsAt (x : Executor) (s : Store) : Prop := ∃ step, InProgress x s.state s.state step

lemma resumeWith_refuses {s : Store} (h : ¬ StandsAt x s) (loader : Loader) :
    (resumeWith x s.state loader).drives = false := by
  obtain ⟨text, hfailed⟩ | ⟨step, hstep, -⟩ := resumeWith_cases x s.state loader
  · rw [hfailed]
    rfl
  · exact absurd ⟨step, hstep⟩ h

/-- A run that no call drives and whose log stands at no step. -/
structure Stuck (x : Executor) (now : RunState) (sys : System) : Prop where
  idle : Idle sys
  nowhere : ¬ StandsAt x sys.store
  state : sys.store.state = now

namespace Stuck

variable {now : RunState} (h : Stuck x now sys)
include h

lemma call {stage : Stage} (hidle : stage.drives = false) :
    Stuck x now (sys.call stage) := by
  refine { h with idle := fun i stage' hi => ?_ }
  obtain hi | rfl := getElem?_call hi
  · exact h.idle i stage' hi
  · exact hidle

lemma goto {i : ℕ} {r : Store × Stage}
    (hstate : r.1.state = sys.store.state) (hidle : r.2.drives = false) :
    Stuck x now (sys.goto i r) where
  idle j stage hj := by
    obtain ⟨rfl, rfl⟩ | ⟨-, hj⟩ := getElem?_goto hj
    · exact hidle
    · exact h.idle j stage hj
  nowhere := by
    show ¬ StandsAt x r.1
    unfold StandsAt
    rw [hstate]
    exact h.nowhere
  state := hstate.trans h.state

/-- Such a run stays where it is, whatever is called. -/
lemma step {a : Action} (hst : (executor x).step sys a = some sys') :
    Stuck x now sys' := by
  cases a with
  | childEnds child =>
    cases hst
    exact { h with }
  | onChildTerminal child | resume | resumeGate value =>
    cases hst
    exact h.call rfl
  | crash i =>
    obtain ⟨stage, -, rfl⟩ := executor_crash hst
    exact h.goto rfl rfl
  | step i m =>
    obtain ⟨stage, ⟨s', stage'⟩, hi, hstep, rfl⟩ := executor_step hst
    obtain ⟨⟨hstate, -⟩, hload⟩ := idle_step (h.idle i stage hi) hstep
    refine h.goto hstate ?_
    by_contra hne
    -- the only way to drive the plan is to load its state, which is refused
    have hdrives : stage'.drives = true := by simpa using hne
    obtain ⟨loader, -, rfl⟩ := hload hdrives
    exact hne (resumeWith_refuses h.nowhere loader)

lemma of_reaches (hreach : (executor x).Reaches sys sys') :
    Stuck x now sys' :=
  hreach.invariant (I := Stuck x now) h fun _ _ _ hstuck hst => hstuck.step hst

end Stuck

lemma exists_append (s : Store) (payload : Payload) :
    ∃ id s', s.append x id payload = some s' := by
  obtain ⟨id, hid⟩ := Infinite.exists_notMem_finset (s.log.events.map Event.eventID).toFinset
  rw [List.mem_toFinset] at hid
  refine ⟨id, ?_⟩
  unfold Store.append Log.append
  rw [dif_neg hid]
  exact ⟨_, rfl⟩

lemma reaches_step {sys₀ : System} {i : ℕ} {m : Move} {stage : Stage} {r : Store × Stage}
    (h : (executor x).Reaches sys₀ sys) (hi : sys.calls[i]? = some stage)
    (hstep : stage.step x sys.store m = some r) :
    (executor x).Reaches sys₀ (sys.goto i r) ∧ (sys.goto i r).calls[i]? = some r.2 :=
  ⟨h.tail trivial (executor_step_eq hi hstep), getElem?_goto_self hi r⟩

/-- `ResumeGate` exits the step that the log stands at, of whatever kind it is. -/
lemma movesOn_of_standsAt (h : StandsAt x sys.store) : MovesOn x sys := by
  obtain ⟨step, hstep⟩ := h
  have hnamed : sys.store.state.currentStep ≠ "" := hstep.current ▸ hstep.declared.named
  have hfound : x.plan.stepByID sys.store.state.currentStep = some step :=
    hstep.current ▸ hstep.declared.found
  let value : Value := .boolValue true
  let bindings := bindTo (gateResultVar step) value
  obtain ⟨id, s', happend⟩ := exists_append (x := x) { sys.store with status := .running }
    (.stepExited step.id bindings)
  -- the call, the load, the status and the exit
  have hcall : (executor x).Reaches sys (sys.call (.loading (.resumeGate value))) :=
    Machine.ReachesBy.refl.tail (a := .resumeGate value) trivial rfl
  have hi : (sys.call (.loading (.resumeGate value))).calls[sys.calls.length]? =
      some (.loading (.resumeGate value)) := List.getElem?_concat_length
  obtain ⟨hloaded, hi⟩ := reaches_step (m := .commit []) hcall hi rfl
  change _ = some (resumeGate x sys.store.state value) at hi
  rw [resumeGate_eq hnamed hfound] at hi
  obtain ⟨hrunning, hi⟩ := reaches_step (m := .commit []) hloaded hi rfl
  obtain ⟨hexited, -⟩ := reaches_step (m := .commit [id]) hrunning hi
    (congrArg (Option.map _) happend)
  refine ⟨_, hexited, fun hsame => hnamed ?_⟩
  obtain ⟨e, -, hpayload, hstate, -⟩ := replay_append happend
  have hcurrent : s'.state.currentStep = "" := by
    rw [hstate]
    unfold RunState.replay
    rw [hpayload]
  exact (congrArg RunState.currentStep hsame).symm.trans hcurrent

/-- While no call drives it, a run can move on if and only if the log stands at a step. -/
theorem movesOn_iff (hidle : Idle sys) : MovesOn x sys ↔ StandsAt x sys.store := by
  refine ⟨?_, movesOn_of_standsAt⟩
  rintro ⟨sys', hreach, hmoved⟩
  by_contra hnowhere
  exact hmoved (Stuck.of_reaches ⟨hidle, hnowhere, rfl⟩ hreach).state

/-! ### Interruptions -/

/-- A step is in progress at a stage of the driving call: it has been entered, and its exit has not
been committed. -/
def Stage.inStep : Stage → Bool
  | .messaging _ _ | .driving _ _ | .asking _ _ | .reserving _ _ _ | .spawning _ _ _ _ _
  | .suspending _ | .exiting _ _ _ _ | .resuming _ _ _ _ => true
  | _ => false

/-- The process of the `i`-th call crashes, a transaction of it fails, or an append of the kernel
run that it drives does. -/
inductive Interrupts (i : ℕ) : Action → Prop
  | crash : Interrupts i (.crash i)
  | fail : Interrupts i (.step i .fail)
  | kernel (text : String) (status : SessionStatus) :
    Interrupts i (.step i (.drive (.error text) status))

def Completed (s : Store) : Prop := ∃ e ∈ s.log.events, e.type = .planCompleted

/-- An interrupted call has returned, and the log is as it was. -/
lemma idle_of_interrupt {i : ℕ} {a : Action} (halone : Undriven sys i) (ha : Interrupts i a)
    (hst : (executor x).step sys a = some sys') :
    Idle sys' ∧ sys'.store.state = sys.store.state := by
  have hgoto {r : Store × Stage} (hr : r.2.drives = false) : Idle (sys.goto i r) := by
    intro j stage' hj
    obtain ⟨rfl, rfl⟩ | ⟨hji, hj⟩ := getElem?_goto hj
    · exact hr
    · exact halone j stage' hji hj
  cases ha with
  | crash =>
    obtain ⟨-, -, rfl⟩ := executor_crash hst
    exact ⟨hgoto rfl, rfl⟩
  | fail =>
    obtain ⟨stage', ⟨s', stage⟩, -, hstep, rfl⟩ := executor_step hst
    obtain ⟨rfl, text, rfl⟩ := step_fail hstep
    exact ⟨hgoto rfl, rfl⟩
  | kernel text status =>
    obtain ⟨stage', r, -, hstep, rfl⟩ := executor_step hst
    unfold Stage.step at hstep
    dsimp only at hstep
    split at hstep
    · cases hstep
      exact ⟨hgoto rfl, rfl⟩
    · nomatch hstep

/-- In every run of one call after another, and for every point at which the call that drives the
plan is interrupted: a run that has not completed can move on if and only if a step is in progress
at that point. -/
theorem interrupted_movesOn_iff {i : ℕ} {stage : Stage} {a : Action}
    (h : (executor x).ReachesBy InTurn System.init sys) (hi : sys.calls[i]? = some stage)
    (hdrives : stage.drives = true) (ha : Interrupts i a)
    (hst : (executor x).step sys a = some sys') :
    ¬ Completed sys'.store → (MovesOn x sys' ↔ stage.inStep = true) := by
  intro _
  obtain ⟨memory, hdriven⟩ := Driven.of_reaches h
  obtain ⟨hat, halone⟩ := hdriven i stage hi hdrives
  obtain ⟨hidle, hstate⟩ := idle_of_interrupt halone ha hst
  rw [movesOn_iff hidle]
  unfold StandsAt
  rw [hstate]
  -- where the log is depends on the stage alone
  have hin {st : RunState} {step : Step} (h : InProgress x sys.store.state st step) :
      (∃ step, InProgress x sys.store.state sys.store.state step) ↔ true = true :=
    iff_of_true ⟨step, rfl, h.current, h.declared⟩ rfl
  have hout (h : sys.store.state.currentStep = "") :
      (∃ step, InProgress x sys.store.state sys.store.state step) ↔ false = true := by
    refine iff_of_false ?_ nofun
    rintro ⟨step, hstep⟩
    exact hstep.declared.named (hstep.current.symm.trans h)
  cases stage with
  | starting => exact hout (congrArg RunState.currentStep hat.1)
  | entering | moving => exact hout (congrArg RunState.currentStep hat.state)
  | completing => exact hout hat
  | suspending fanoutID =>
    obtain ⟨step, hstep⟩ := hat
    exact hin hstep
  | messaging _ _ | driving _ _ | asking _ _ | reserving _ _ _ | spawning _ _ _ _ _
  | exiting _ _ _ _ | resuming _ _ _ _ => exact hin hat
  | checking _ | finalizing _ | listing _ | loading _ | returned _ => nomatch hdrives

/-! ### A run that stops after its first transaction -/

instance (sys : System) : Decidable (Idle sys) :=
  decidable_of_iff (∀ stage ∈ sys.calls, stage.drives = false)
    ⟨fun h _ stage hi => h stage (List.mem_of_getElem? hi), fun h stage hmem => by
      obtain ⟨i, hi⟩ := List.mem_iff_getElem?.1 hmem
      exact h i stage hi⟩

instance (s : Store) : Decidable (Completed s) :=
  inferInstanceAs (Decidable (∃ e ∈ s.log.events, e.type = .planCompleted))

/-- `Start` dies right after it has recorded the start of the plan, and nothing ever drives the plan
on. -/
theorem started_stranded : ∃ sys sys' : System,
    (executor twoGates).ReachesBy InTurn System.init sys ∧
      (executor twoGates).step sys (.crash 0) = some sys' ∧ ¬ Completed sys'.store ∧
      ¬ MovesOn twoGates sys' := by
  obtain ⟨sys, hreach, sys', hst, hopen, hidle, hcurrent⟩ : ∃ sys : System,
      (executor twoGates).ReachesBy InTurn System.init sys ∧
        ∃ sys' ∈ (executor twoGates).step sys (.crash 0), ¬ Completed sys'.store ∧ Idle sys' ∧
          sys'.store.state.currentStep = "" := by
    apply Machine.ReachesBy.exists_of_runBy [.step 0 (.commit [1])]
    decide +kernel
  refine ⟨sys, sys', hreach, hst, hopen, fun hmoves => ?_⟩
  obtain ⟨step, hstep⟩ := (movesOn_iff hidle).1 hmoves
  exact hstep.declared.named (hstep.current.symm.trans hcurrent)

/-- A run that is interrupted just before a gate has marked it suspended can move on. -/
theorem asked_movesOn : ∃ sys sys' : System,
    (executor twoGates).ReachesBy InTurn System.init sys ∧
      (executor twoGates).step sys (.crash 0) = some sys' ∧ ¬ Completed sys'.store ∧
      MovesOn twoGates sys' := by
  obtain ⟨sys, hreach, ⟨stage, hi, hstage⟩, sys', hst, hopen⟩ : ∃ sys : System,
      (executor twoGates).ReachesBy InTurn System.init sys ∧
        (∃ stage ∈ sys.calls[0]?, stage.marks = true) ∧
        ∃ sys' ∈ (executor twoGates).step sys (.crash 0), ¬ Completed sys'.store := by
    apply Machine.ReachesBy.exists_of_runBy
      [.step 0 (.commit [1]), .step 0 (.commit [2]), .step 0 (.commit [])]
    decide +kernel
  obtain ⟨fanoutID, rfl⟩ := exists_of_marks hstage
  exact ⟨sys, sys', hreach, hst, hopen,
    (interrupted_movesOn_iff hreach hi rfl .crash hst hopen).2 rfl⟩

end NexusAgent.Plans
