import NexusAgent.Lib.Walks
import NexusAgent.Plan.BoundedLoops
import NexusAgent.Plan.Driver

/-!
# Bounded plans terminate

The steps that a plan run enters, over all its suspensions, are a walk in the transition graph: each
of them is a target of the one before. A loop step is refused once it has been entered as often as
its bound says. If every cycle passes through a loop step, both bound the number of entries.
-/

namespace NexusAgent.Plans

open EventLog

/-! ### The walk -/

variable {x : Executor}

def isLoop (p : Plan) (id : String) : Bool := (p.stepByID id).any (·.kind = .loop)

structure Walked (x : Executor) (walked : List String) : Prop where
  chain : walked.IsChain fun a b => b ∈ x.plan.next a
  declared : ∀ id ∈ walked, (x.plan.stepByID id).isSome
  bounded : ∀ id step, x.plan.stepByID id = some step → step.kind = .loop →
    walked.count id ≤ step.maxIterations.toNat

lemma Walked.nil : Walked x [] where
  chain := List.isChain_nil
  declared := List.forall_mem_nil _
  bounded _ _ _ _ := Nat.zero_le _

lemma Walked.enter {walked : List String} (h : Walked x walked) {now st : RunState} {step : Step}
    (hnext : IsNext x now walked st step)
    (hcount : now.iterations step.id = walked.count step.id) : Walked x (walked ++ [step.id]) where
  chain := by
    refine List.isChain_append.2 ⟨h.chain, List.isChain_singleton _, fun a ha b hb => ?_⟩
    obtain rfl : step.id = b := by simpa using hb
    exact hnext.follows a ha
  declared := by
    refine List.forall_mem_snoc h.declared ?_
    rw [hnext.declared.found]
    rfl
  bounded id step' hfound hloop := by
    rw [List.count_append]
    by_cases hid : id = step.id
    · -- the step itself, which was not refused
      subst hid
      obtain rfl : step = step' := Option.mem_unique hnext.declared.found hfound
      have hbound := hnext.bounded hloop
      rw [hnext.state] at hcount
      change st.iterations step.id = walked.count step.id at hcount
      rw [List.count_singleton_self, ← hcount]
      omega
    · rw [List.count_singleton, if_neg (by simpa using Ne.symm hid)]
      exact h.bounded id step' hfound hloop

lemma entered_step {s s' : Store} {stage stage' : Stage} {m : Move}
    (h : stage.step x s m = some (s', stage')) :
    s'.entered = s.entered ∨
      ∃ st step, stage = .entering st step ∧ s'.entered = s.entered ++ [step.id] := by
  by_cases hdrives : stage.drives = true
  · cases m with
    | commit ids =>
      obtain ⟨es, hevents, hpayloads⟩ := commit_events h
      have hentered : s'.entered = s.entered ++ stage.writes.toList.filterMap Payload.entered := by
        rw [← hpayloads, List.filterMap_map]
        show entered s'.log.events = _
        rw [hevents]
        exact List.filterMap_append
      cases stage with
      | entering st step => exact .inr ⟨st, step, rfl, hentered⟩
      | _ => exact .inl (hentered.trans (List.append_nil _))
    | fail =>
      obtain ⟨rfl, -⟩ := step_fail h
      exact .inl rfl
    | drive outcome status =>
      unfold Stage.step at h
      dsimp only at h
      split at h
      · exact .inl (congrArg (fun r => r.1.entered) (Option.some.inj h)).symm
      · nomatch h
    | finalize outcome ids =>
      cases stage with
      | finalizing pending => nomatch hdrives
      | _ => nomatch h
  · exact .inl (idle_step (by simpa using hdrives) h).1.2

lemma Walked.step {sys sys' : System} {memory : ℕ → RunState} {a : Action}
    (h : Walked x sys.store.entered) (hdriven : Driven x sys memory)
    (hst : (executor x).step sys a = some sys') : Walked x sys'.store.entered := by
  cases a with
  | childEnds child | onChildTerminal child | resume | resumeGate value =>
    cases hst
    exact h
  | crash i =>
    obtain ⟨stage, -, rfl⟩ := executor_crash hst
    exact h
  | step i m =>
    obtain ⟨stage, ⟨s', stage'⟩, hi, hstep, rfl⟩ := executor_step hst
    show Walked x s'.entered
    obtain hsame | ⟨st, step, rfl, hentered⟩ := entered_step hstep
    · rw [hsame]
      exact h
    · rw [hentered]
      obtain ⟨hat, -⟩ := hdriven i _ hi rfl
      exact h.enter hat (replayState_iterations _ _)

/-- The entries of every run of one call after another are a walk in the transition graph that keeps
to the bounds of the loop steps. -/
theorem Walked.of_reaches {sys : System} (h : (executor x).ReachesBy InTurn System.init sys) :
    Walked x sys.store.entered := by
  have hinv := h.invariant
    (I := fun sys => (∃ memory, Driven x sys memory) ∧ Walked x sys.store.entered)
    ⟨⟨fun _ => {}, Driven.init⟩, Walked.nil⟩ fun sys a sys' hinv hturn hst => by
      obtain ⟨hdriven, hwalked⟩ := hinv
      obtain ⟨memory, hmemory⟩ := hdriven
      exact ⟨Driven.exists_of_step ⟨memory, hmemory⟩ hturn hst, hwalked.step hmemory hst⟩
  exact hinv.2

/-! ### The bounds -/

/-- How often the loop steps of a plan may be entered, taken together. A bound that is negative
allows no entry, as zero does. -/
def Plan.iterations (p : Plan) : ℕ :=
  ((p.steps.filter (·.kind = .loop)).map (·.maxIterations.toNat)).sum

lemma countP_loop_le (steps : List Step) (walked : List String)
    (h : ∀ id step, steps.find? (·.id = id) = some step → step.kind = .loop →
      walked.count id ≤ step.maxIterations.toNat) :
    walked.countP (fun id => (steps.find? (·.id = id)).any (·.kind = .loop)) ≤
      ((steps.filter (·.kind = .loop)).map (·.maxIterations.toNat)).sum := by
  induction steps generalizing walked with
  | nil => simp
  | cons step steps ih =>
    have hfind {id : String} (hid : id ≠ step.id) :
        (step :: steps).find? (·.id = id) = steps.find? (·.id = id) :=
      List.find?_cons_of_neg (by simpa using Ne.symm hid)
    have hfirst : (step :: steps).find? (·.id = step.id) = some step :=
      List.find?_cons_of_pos (by simp)
    -- the entries of the first step, which are bounded by its own bound
    have hown : (walked.filter (· = step.id)).countP
        (fun id => ((step :: steps).find? (·.id = id)).any (·.kind = .loop)) ≤
          if step.kind = .loop then step.maxIterations.toNat else 0 := by
      split
      next hloop =>
        refine List.countP_le_length.trans ?_
        rw [← List.countP_eq_length_filter]
        exact h step.id step hfirst hloop
      next hloop =>
        refine (List.countP_eq_zero.2 fun id hid => ?_).le
        obtain rfl : id = step.id := by simpa using (List.mem_filter.1 hid).2
        simpa [hfirst] using hloop
    -- the entries of all others, to which the first step means nothing
    have hothers : (walked.filter (· ≠ step.id)).countP
        (fun id => ((step :: steps).find? (·.id = id)).any (·.kind = .loop)) ≤
          ((steps.filter (·.kind = .loop)).map (·.maxIterations.toNat)).sum := by
      refine le_trans (List.countP_mono_left fun id hid hloop => ?_)
        (ih (walked.filter (· ≠ step.id)) fun id step' hfound hloop => ?_)
      · have hne : id ≠ step.id := by simpa using (List.mem_filter.1 hid).2
        rwa [hfind hne] at hloop
      · by_cases hid : id = step.id
        · rw [List.count_eq_zero.2 (by simp [hid])]
          exact Nat.zero_le _
        · rw [List.count_filter (by simpa using hid)]
          exact h id step' ((hfind hid).trans hfound) hloop
    calc _ = _ := List.countP_eq_countP_filter_add walked _ (· = step.id)
      _ ≤ _ := Nat.add_le_add hown (by simpa using hothers)
      _ = _ := by by_cases hloop : step.kind = .loop <;> simp [hloop]

/-- In a plan in which every cycle of the transition graph passes through a loop step, a run of one
call after another enters each loop step at most as often as its bound says, and all steps at most
as often as there are steps, once and once more for each entry of a loop step that the bounds
allow. -/
theorem entries_bounded {sys : System}
    (hloops : ∀ cycle, IsCycle x.plan cycle → PassesLoop x.plan cycle)
    (h : (executor x).ReachesBy InTurn System.init sys) :
    (∀ id step, x.plan.stepByID id = some step → step.kind = .loop →
        sys.store.entered.count id ≤ step.maxIterations.toNat) ∧
      sys.store.entered.length ≤ (1 + x.plan.iterations) * x.plan.steps.length := by
  have hwalked := Walked.of_reaches h
  refine ⟨hwalked.bounded, ?_⟩
  have hcycles : Walk.CyclesMarked (fun a b => b ∈ x.plan.next a) (isLoop x.plan) :=
    fun c hchain hclosed hlength => hloops c ⟨hchain, hclosed, hlength⟩
  have hdeclared : ∀ id ∈ sys.store.entered, id ∈ (x.plan.steps.map (·.id)).toFinset := by
    intro id hid
    obtain ⟨step, hstep⟩ := Option.isSome_iff_exists.1 (hwalked.declared id hid)
    rw [List.mem_toFinset, ← stepByID_id hstep]
    exact List.mem_map_of_mem (List.mem_of_find?_eq_some hstep)
  calc sys.store.entered.length
      ≤ (1 + sys.store.entered.countP (isLoop x.plan)) *
          (x.plan.steps.map (·.id)).toFinset.card := Walk.length_le hcycles hwalked.chain hdeclared
    _ ≤ (1 + x.plan.iterations) * x.plan.steps.length := by
      refine Nat.mul_le_mul (Nat.add_le_add_left ?_ 1) ?_
      · exact countP_loop_le x.plan.steps _ hwalked.bounded
      · exact (List.toFinset_card_le _).trans (List.length_map _).le

/-- A plan that tries something twice. -/
def retryTwice : Executor where
  sessionID := 7
  plan :=
    { startStep := "retry"
      steps := [
        { id := "retry", kind := .loop, loop := some { maxIterations := 2, counterVar := "attempt" }
          transitions := [{ target := "work" }] },
        { id := "work", kind := .condition, condition := some {}
          transitions := [{ target := "retry" }] }] }

lemma retryTwice_passesLoop (cycle : List String) (h : IsCycle retryTwice.plan cycle) :
    PassesLoop retryTwice.plan cycle := by
  obtain ⟨a, ha⟩ : ∃ a, a ∈ cycle :=
    List.exists_mem_of_length_pos (Nat.lt_of_lt_of_le Nat.zero_lt_two h.length)
  obtain ⟨b, hb, hedge, -⟩ := h.exists_next ha
  by_cases hretry : a = "retry"
  · exact ⟨a, ha, by rw [hretry]; rfl⟩
  · -- the only other step with a transition leads to the loop step
    have hb' : b = "retry" := by
      by_cases hwork : a = "work"
      · rw [hwork] at hedge
        exact List.mem_singleton.1 hedge
      · simp [Plan.next, Plan.stepByID, retryTwice, Ne.symm hretry,
          Ne.symm hwork] at hedge
    exact ⟨b, hb, by rw [hb']; rfl⟩

/-- The third attempt is refused, after four entries of at most six. -/
theorem retryTwice_bounded : ∃ sys : System,
    (executor retryTwice).ReachesBy InTurn System.init sys ∧
      sys.store.entered = ["retry", "work", "retry", "work"] ∧
      sys.store.entered.count "retry" ≤ 2 ∧ sys.store.entered.length ≤ 6 := by
  refine Machine.ReachesBy.exists_of_runBy_imp ((List.range 13).map fun n => .step 0 (.commit [n]))
    (fun sys => sys.store.entered = ["retry", "work", "retry", "work"]) ?_
    fun sys hreach hentered => ?_
  · decide +kernel
  obtain ⟨hloop, htotal⟩ := entries_bounded retryTwice_passesLoop hreach
  exact ⟨hentered, hloop "retry" _ rfl rfl, htotal⟩

end NexusAgent.Plans
