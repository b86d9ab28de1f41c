import NexusAgent.Plan.Executor

/-!
# One call after another

A plan run is a sequence of calls: `Start`, and for each suspension the call that resumes it. Each
of them loads the state of the run from the log, keeps it in memory while it drives the plan, and
writes the log as it goes. As long as no call loads the state while another one drives the plan,
the two agree: what the driving call has in memory is what the log stands for, but for the exit of
a step, which the log knows first.
-/

namespace NexusAgent.Plans

open EventLog

/-! ### The steps that a log has entered -/

def Payload.entered : Payload → Option String
  | .stepEntered stepID => some stepID
  | _ => none

/-- The steps that a log has entered, in order. -/
def entered (history : List (Event Payload)) : List String :=
  history.filterMap fun e => e.payload.entered

def Store.entered (s : Store) : List String := Plans.entered s.log.events

section

variable (history : List (Event Payload))

lemma replayState_concat (e : Event Payload) :
    replayState (history ++ [e]) = (replayState history).replay e := by
  simp [replayState]

lemma entered_concat (e : Event Payload) :
    entered (history ++ [e]) = entered history ++ e.payload.entered.toList := by
  unfold entered
  cases h : e.payload.entered <;> simp [h]

lemma replayState_iterations (stepID : String) :
    (replayState history).iterations stepID = (entered history).count stepID := by
  induction history using List.reverseRecOn with
  | nil => rfl
  | append_singleton history e ih =>
    rw [replayState_concat, entered_concat, List.count_append, ← ih]
    unfold RunState.replay
    cases e.payload with
    | stepEntered id =>
      by_cases h : stepID = id
      · subst h
        simp [RunState.enter, Payload.entered]
      · simp [RunState.enter, Payload.entered, Function.update_of_ne h, Ne.symm h]
    | _ => simp [Payload.entered]

lemma replayState_currentStep (h : (replayState history).currentStep ≠ "") :
    (entered history).getLast? = some (replayState history).currentStep := by
  induction history using List.reverseRecOn with
  | nil => exact absurd rfl h
  | append_singleton history e ih =>
    rw [replayState_concat] at h ⊢
    rw [entered_concat]
    unfold RunState.replay at h ⊢
    cases hp : e.payload with
    | stepEntered id => simp [RunState.enter, Payload.entered]
    | stepExited | completed =>
      rw [hp] at h
      exact absurd rfl h
    | _ =>
      rw [hp] at h
      simpa [Payload.entered] using ih h

end

variable {x : Executor} {s s' : Store}

lemma replay_append {id : UUID} {payload : Payload} (h : s.append x id payload = some s') :
    ∃ e : Event Payload, e.eventID = id ∧ e.payload = payload ∧ s'.state = s.state.replay e ∧
      s'.entered = s.entered ++ payload.entered.toList := by
  obtain ⟨log, e, rfl, hevents, hid, hpayload, -⟩ := append_some h
  refine ⟨e, hid, hpayload, ?_, ?_⟩
  · show replayState log.events = _
    rw [hevents, replayState_concat]
    rfl
  · show entered log.events = _
    rw [hevents, entered_concat, hpayload]
    rfl

def Payload.Ignored : Payload → Prop
  | .stepEntered _ | .stepExited _ _ | .completed => False
  | _ => True

lemma replay_append_ignored {id : UUID} {payload : Payload} (h : s.append x id payload = some s')
    (hp : payload.Ignored) : s'.state = s.state ∧ s'.entered = s.entered := by
  obtain ⟨e, -, rfl, hstate, hentered⟩ := replay_append h
  rw [hstate, hentered]
  unfold RunState.replay Payload.entered
  cases hpayload : e.payload with
  | stepEntered _ | stepExited _ _ | completed =>
    rw [hpayload] at hp
    exact hp.elim
  | _ => exact ⟨rfl, List.append_nil _⟩

/-! ### The events that a call appends -/

/-- The event that a call is about to append. -/
def Stage.writes : Stage → Option Payload
  | .starting => some .started
  | .entering _ step => some (.stepEntered step.id)
  | .messaging _ step => some (.userMessage ((step.agent.map (·.input)).getD ""))
  | .exiting _ step bindings _ => some (.stepExited step.id bindings)
  | .moving _ step next fired => some (.transition step.id next fired)
  | .completing => some .completed
  | _ => none

variable {ids : List UUID} {m : Move} {stage stage' : Stage}

lemma commit_events (h : stage.commit x s ids = some (s', stage')) :
    ∃ es, s'.log.events = s.log.events ++ es ∧ es.map Event.payload = stage.writes.toList := by
  have happend {id : UUID} {payload : Payload} {f : Store → Store × Stage}
      (hf : ∀ s₁, (f s₁).1.log = s₁.log)
      (h : (s.append x id payload).map f = some (s', stage')) :
      ∃ es, s'.log.events = s.log.events ++ es ∧ es.map Event.payload = [payload] := by
    obtain ⟨s₁, h₁, heq⟩ := Option.map_eq_some_iff.1 h
    obtain ⟨log, e, rfl, hevents, -, hpayload, -⟩ := append_some h₁
    have hlog := hf { s with log := log }
    rw [heq] at hlog
    exact ⟨[e], (congrArg Log.events hlog).trans hevents, congrArg (fun p => [p]) hpayload⟩
  have hnothing {r : Store × Stage} (h : some r = some (s', stage')) (hlog : r.1.log = s.log) :
      ∃ es, s'.log.events = s.log.events ++ es ∧ es.map Event.payload = [] := by
    cases h
    exact ⟨[], by rw [hlog, List.append_nil], rfl⟩
  unfold Stage.commit at h
  split at h
  case h_1 | h_2 | h_3 | h_8 | h_9 | h_10 => exact happend (fun _ => rfl) h
  case h_5 | h_6 =>
    split_ifs at h
    exact hnothing h rfl
  case h_15 => nomatch h
  all_goals exact hnothing h rfl

/-! ### The call that drives the plan -/

/-- A call that drives the plan: it is starting it or has loaded its state, and has not
returned. -/
def Stage.drives : Stage → Bool
  | .checking _ | .finalizing _ | .listing _ | .loading _ | .returned _ => false
  | _ => true

/-- No call but the `i`-th drives the plan. -/
def Undriven (sys : System) (i : ℕ) : Prop :=
  ∀ j stage, j ≠ i → sys.calls[j]? = some stage → stage.drives = false

/-- The calls of a plan run come one after another: the state of the run is loaded while no other
call drives the plan. -/
def InTurn (sys : System) : Action → Prop
  | .step i _ => ∀ loader, sys.calls[i]? = some (.loading loader) → Undriven sys i
  | _ => True

structure Declared (x : Executor) (step : Step) : Prop where
  found : x.plan.stepByID step.id = some step
  named : step.id ≠ ""

def RunState.left (st : RunState) : RunState := { st with currentStep := "", entry := none }

/-- A step is in progress: the log stands at it, and the state in memory is that of the log. -/
structure InProgress (x : Executor) (now st : RunState) (step : Step) : Prop where
  state : now = st
  current : now.currentStep = step.id
  declared : Declared x step

def Step.maxIterations (step : Step) : ℤ := (step.loop.map (·.maxIterations)).getD 0

/-- A step is about to be entered: it is the first one or follows the one that was entered last,
and a loop step has not used up its entries. -/
structure IsNext (x : Executor) (now : RunState) (walked : List String) (st : RunState)
    (step : Step) : Prop where
  state : now = st.left
  declared : Declared x step
  follows : ∀ id ∈ walked.getLast?, step.id ∈ x.plan.next id
  bounded : step.kind = .loop → (st.iterations step.id : ℤ) < step.maxIterations

/-- A step has been exited, and the transition is about to be recorded. -/
structure IsLeft (x : Executor) (now : RunState) (walked : List String) (st : RunState)
    (step : Step) (next : String) : Prop where
  state : now = st.left
  declared : Declared x step
  last : walked.getLast? = some step.id
  target : next = "" ∨ next ∈ step.targets

def Stage.memory : Stage → Option RunState
  | .entering st _ | .messaging st _ | .driving st _ | .asking st _ | .reserving st _ _
  | .spawning st _ _ _ _ | .exiting st _ _ _ | .moving st _ _ _ | .resuming st _ _ _ => some st
  | _ => none

/-- What a call has in memory at a stage, with `mem` from before. -/
def Stage.recall (stage : Stage) (mem : RunState) : RunState := stage.memory.getD mem

/-- Where the log is when the driving call is at a stage with `mem` in memory: `now` is the state
that the log stands for, and `walked` are the steps that it has entered. -/
def At (x : Executor) (now : RunState) (walked : List String) (mem : RunState) : Stage → Prop
  | .starting => now = {} ∧ walked = []
  | .entering st step => IsNext x now walked st step
  | .messaging st step | .driving st step | .asking st step | .reserving st step _
  | .spawning st step _ _ _ | .exiting st step _ _ | .resuming st step _ _ =>
    InProgress x now st step
  | .suspending _ => ∃ step, InProgress x now mem step
  | .moving st step next _ => IsLeft x now walked st step next
  | .completing => now.currentStep = ""
  | .checking _ | .finalizing _ | .listing _ | .loading _ | .returned _ => True

/-! ### Between two transactions -/

section

variable {now st mem : RunState} {walked : List String} {step : Step}

lemma InProgress.getLast?_entered (h : InProgress x s.state st step) :
    s.entered.getLast? = some step.id := by
  have hnamed : s.state.currentStep ≠ "" := h.current ▸ h.declared.named
  rw [← h.current]
  exact replayState_currentStep s.log.events hnamed

/-- The top of the loop of `run`: `stepID` is the start step of a fresh run, or the target of the
transition that was recorded last. -/
lemma enter_at {stepID : String} (hstate : now = st.left)
    (hfollows : ∀ id ∈ walked.getLast?, stepID ∈ x.plan.next id) :
    At x now walked mem (enter x st stepID) := by
  unfold enter
  split_ifs with hempty
  · trivial
  cases hstep : x.plan.stepByID stepID with
  | none => trivial
  | some step =>
    dsimp only
    split_ifs with hbound
    · trivial
    have hid := stepByID_id hstep
    refine { state := hstate, declared := ⟨hid ▸ hstep, hid ▸ hempty⟩, follows := hid ▸ hfollows
             bounded := fun hloop => ?_ }
    rw [not_and, not_le] at hbound
    exact hbound hloop

lemma dispatch_at (h : InProgress x now st step) : At x now walked mem (dispatch x st step) := by
  unfold dispatch
  cases step.kind with
  | agent | condition | loop => exact h
  | delegateFanout =>
    dsimp only
    split_ifs
    · trivial
    · cases parseCeiling (step.delegateFanout.getD {}).perChildCeiling with
      | error e => trivial
      | ok ceiling => exact h
  | approvalGate | preauth | inputRequest =>
    dsimp only
    split_ifs
    · trivial
    · exact h
  | other text => trivial

lemma spawnNext_at (h : InProgress x now st step) (config : DelegateFanoutConfig)
    (fanoutID : UUID) (spawned : ℕ) : let stage := spawnNext st step config fanoutID spawned
    At x now walked (stage.recall st) stage := by
  unfold spawnNext
  split_ifs
  · exact h
  · exact ⟨step, h⟩

/-- The transition that fires leads to a target of the step, or ends the plan. -/
lemma evaluateTransitions_target {vars : Context} {ts : List Transition} {next : String}
    {fired : Option Predicate} (h : evaluateTransitions vars ts = .ok (next, fired)) :
    next = "" ∨ next ∈ ts.map (·.target) := by
  induction ts with
  | nil => exact .inl (congrArg Prod.fst (Except.ok.inj h)).symm
  | cons t ts ih =>
    have hhead (h : t.target = next) : next = "" ∨ next ∈ (t :: ts).map (·.target) :=
      .inr (by simp [h])
    unfold evaluateTransitions at h
    split at h
    · exact hhead (congrArg Prod.fst (Except.ok.inj h))
    · split at h
      · nomatch h
      · exact hhead (congrArg Prod.fst (Except.ok.inj h))
      · exact (ih h).imp id fun hmem => List.mem_cons_of_mem _ hmem

/-- After the exit has been committed, with the bindings in force. -/
lemma leave_at (bindings : List (String × Value))
    (hstate : now = { st with vars := bindAll st.vars bindings, currentStep := "", entry := none })
    (hdeclared : Declared x step) (hlast : walked.getLast? = some step.id) :
    At x now walked mem (leave st step bindings) := by
  unfold leave
  dsimp only
  split
  · trivial
  next next fired hfired =>
    exact { state := hstate, declared := hdeclared, last := hlast
            target := evaluateTransitions_target hfired }

/-- The entry points refuse the state that they have loaded, or go on with the step that the log
stands at. -/
lemma resumeWith_cases (x : Executor) (now : RunState) (loader : Loader) :
    (∃ text, resumeWith x now loader = .failed text) ∨
      ∃ step, InProgress x now now step ∧ (resumeWith x now loader = .driving now step ∨
        ∃ bindings via, resumeWith x now loader = .resuming now step bindings via) := by
  have hfound {step : Step} (hempty : now.currentStep ≠ "")
      (hstep : x.plan.stepByID now.currentStep = some step) : InProgress x now now step := by
    have hid := stepByID_id hstep
    exact ⟨rfl, hid.symm, hid ▸ hstep, hid ▸ hempty⟩
  cases loader with
  | resume =>
    unfold resumeWith resumeAgent
    dsimp only
    split_ifs with hempty
    · exact .inl ⟨_, rfl⟩
    · split
      · exact .inl ⟨_, rfl⟩
      next step hstep =>
        split_ifs
        · exact .inr ⟨step, hfound hempty hstep, .inl rfl⟩
        · exact .inl ⟨_, rfl⟩
  | resumeGate value =>
    unfold resumeWith resumeGate
    dsimp only
    split_ifs with hempty
    · exact .inl ⟨_, rfl⟩
    · split
      · exact .inl ⟨_, rfl⟩
      next step hstep => exact .inr ⟨step, hfound hempty hstep, .inr ⟨_, _, rfl⟩⟩
  | resolveFanout fanoutID members =>
    unfold resumeWith resumeFanout
    dsimp only
    split_ifs with hempty
    · exact .inl ⟨_, rfl⟩
    · split
      · exact .inl ⟨_, rfl⟩
      next step config hstep =>
        obtain ⟨step', config', hfind, -, heq⟩ := Option.bind_map_some hstep
        cases heq
        exact .inr ⟨_, hfound hempty hfind, .inr ⟨_, _, rfl⟩⟩

lemma resumeWith_at (loader : Loader) : At x now walked mem (resumeWith x now loader) := by
  obtain ⟨text, h⟩ | ⟨step, hstep, h | ⟨bindings, via, h⟩⟩ :=
    resumeWith_cases x now loader <;> rw [h]
  · trivial
  · exact hstep
  · exact hstep

lemma check_drives (child : UUID) : (check s child).drives = false := by
  unfold check
  split
  · rfl
  · split_ifs <;> rfl

lemma list_drives (fanoutID : UUID) : (list s fanoutID).drives = false := by
  unfold list
  dsimp only
  split_ifs <;> rfl

lemma at_of_idle {stage : Stage} (h : stage.drives = false) : At x now walked mem stage := by
  cases stage <;> trivial

end

/-! ### One transaction -/

/-- A transaction of the driving call takes it to a stage that the log is at, and so does the load
of the state. -/
theorem commit_at {mem : RunState} (hat : At x s.state s.entered mem stage)
    (h : stage.commit x s ids = some (s', stage')) :
    At x s'.state s'.entered (stage'.recall (stage.recall mem)) stage' := by
  unfold Stage.commit at h
  split at h
  all_goals try
    rw [Option.map_eq_some_iff] at h
    obtain ⟨s₁, h₁, ⟨⟩⟩ := h
  · -- the start of the plan
    obtain ⟨hstate, hentered⟩ := replay_append_ignored h₁ trivial
    refine enter_at (hstate.trans hat.1) fun id hid => ?_
    change id ∈ s₁.entered.getLast? at hid
    rw [hentered, hat.2] at hid
    nomatch hid
  next st step id =>
    -- the entry of a step: the log and the memory count it alike
    obtain ⟨e, rfl, hpayload, hstate, -⟩ := replay_append h₁
    refine dispatch_at { state := ?_, current := ?_, declared := hat.declared }
    · rw [hstate, hat.state]
      unfold RunState.replay
      rw [hpayload]
      rfl
    · rw [hstate]
      unfold RunState.replay
      rw [hpayload]
      rfl
  · -- the message that opens an agent step
    obtain ⟨hstate, -⟩ := replay_append_ignored h₁ trivial
    rw [hstate]
    exact hat
  · cases h
    exact ⟨_, hat⟩
  · split_ifs at h
    cases h
    exact spawnNext_at hat _ _ _
  · split_ifs at h
    cases h
    exact spawnNext_at hat _ _ _
  · cases h
    trivial
  next st step bindings via id =>
    -- the exit of a step: the bindings are in the log now, and in memory at once
    obtain ⟨e, -, hpayload, hstate, hentered⟩ := replay_append h₁
    refine leave_at bindings ?_ hat.declared ?_
    · show s₁.state = _
      rw [hstate, hat.state]
      unfold RunState.replay
      rw [hpayload]
    · show s₁.entered.getLast? = _
      rw [hentered]
      simpa [Payload.entered] using hat.getLast?_entered
  next st step next fired id =>
    -- the transition: the step that follows is one of the targets
    obtain ⟨hstate, hentered⟩ := replay_append_ignored h₁ trivial
    rw [hstate, hentered]
    split_ifs with hend
    · rw [hat.state]
      rfl
    · refine enter_at hat.state fun id hid => ?_
      obtain rfl : step.id = id := Option.mem_unique hat.last hid
      unfold Plan.next
      rw [hat.declared.found]
      exact hat.target.resolve_left hend
  · trivial
  · cases h
    exact at_of_idle (check_drives _)
  · cases h
    exact at_of_idle (list_drives _)
  · cases h
    exact resumeWith_at _
  · cases h
    exact hat
  · nomatch h

lemma step_at {mem : RunState} (hat : At x s.state s.entered mem stage)
    (h : stage.step x s m = some (s', stage')) :
    At x s'.state s'.entered (stage'.recall (stage.recall mem)) stage' := by
  cases m with
  | commit ids => exact commit_at hat h
  | fail =>
    obtain ⟨rfl, text, rfl⟩ := step_fail h
    trivial
  | drive outcome status =>
    unfold Stage.step at h
    dsimp only at h
    split at h
    next st step =>
      cases h
      -- only a run that ended goes on to the exit of the step
      match outcome with
      | .error e => trivial
      | .ok none => trivial
      | .ok (some text) => exact hat
    next => nomatch h
  | finalize outcome ids =>
    obtain ⟨pending, rfl, ⟨-, text, rfl⟩ | ⟨-, rfl⟩⟩ := step_finalize h <;> trivial

lemma finalize_replay {pending : Delegation} {boundExceeded : Bool}
    (h : finalize x s pending boundExceeded ids = some s') :
    s'.state = s.state ∧ s'.entered = s.entered := by
  unfold finalize at h
  split at h
  next taintID returnedID =>
    obtain ⟨s₁, h₁, h⟩ := Option.bind_eq_some_iff.1 h
    obtain ⟨s₂, h₂, h⟩ := Option.bind_eq_some_iff.1 h
    cases h
    obtain ⟨hstate₁, hentered₁⟩ := replay_append_ignored h₁ trivial
    obtain ⟨hstate₂, hentered₂⟩ := replay_append_ignored h₂ trivial
    exact ⟨hstate₂.trans hstate₁, hentered₂.trans hentered₁⟩
  next => nomatch h

lemma finalize_events {pending : Delegation} {boundExceeded : Bool}
    (h : finalize x s pending boundExceeded ids = some s') :
    (∃ es, s'.log.events = s.log.events ++ es ∧ ∀ e ∈ es, e.payload.Ignored) ∧
      s'.status = s.status := by
  unfold finalize at h
  split at h
  next taintID returnedID =>
    obtain ⟨s₁, h₁, h⟩ := Option.bind_eq_some_iff.1 h
    obtain ⟨s₂, h₂, h⟩ := Option.bind_eq_some_iff.1 h
    cases h
    obtain ⟨log₁, e₁, rfl, hevents₁, -, hpayload₁, -⟩ := append_some h₁
    obtain ⟨log₂, e₂, rfl, hevents₂, -, hpayload₂, -⟩ := append_some h₂
    refine ⟨⟨[e₁, e₂], ?_, ?_⟩, rfl⟩
    · show log₂.events = _
      rw [hevents₂, hevents₁, List.append_assoc, List.singleton_append]
    · simp [hpayload₁, hpayload₂, Payload.Ignored]
  next => nomatch h

/-- A transaction that only reads draws no identifiers. -/
lemma commit_of_read {stage₁ : Stage} (hread : stage.commit x s [] = some (s, stage₁))
    (hnone : ∀ id ids, stage.commit x s (id :: ids) = none)
    (h : stage.step x s (.commit ids) = some (s', stage')) : s' = s ∧ stage' = stage₁ := by
  change stage.commit x s ids = some (s', stage') at h
  cases ids with
  | nil =>
    rw [hread] at h
    cases h
    exact ⟨rfl, rfl⟩
  | cons id ids => nomatch (hnone id ids).symm.trans h

/-- What the other calls do: they read, and the only way to drive the plan is to load its state; or
they commit the result of a child. -/
lemma idle_cases (hidle : stage.drives = false) (h : stage.step x s m = some (s', stage')) :
    (s' = s ∧ (stage'.drives = true →
        ∃ loader, stage = .loading loader ∧ stage' = resumeWith x s.state loader)) ∨
      (stage'.drives = false ∧
        ∃ pending boundExceeded ids, finalize x s pending boundExceeded ids = some s') := by
  cases m with
  | commit ids =>
    -- of the stages that do not drive the plan, three make a transaction that only reads
    left
    cases stage with
    | checking child =>
      obtain ⟨rfl, rfl⟩ := commit_of_read rfl (fun _ _ => rfl) h
      exact ⟨rfl, fun hdrives => nomatch (check_drives child).symm.trans hdrives⟩
    | listing fanoutID =>
      obtain ⟨rfl, rfl⟩ := commit_of_read rfl (fun _ _ => rfl) h
      exact ⟨rfl, fun hdrives => nomatch (list_drives fanoutID).symm.trans hdrives⟩
    | loading loader =>
      obtain ⟨rfl, rfl⟩ := commit_of_read rfl (fun _ _ => rfl) h
      exact ⟨rfl, fun _ => ⟨loader, rfl, rfl⟩⟩
    | finalizing | returned => cases ids <;> nomatch h
    | _ => nomatch hidle
  | fail =>
    obtain ⟨rfl, text, rfl⟩ := step_fail h
    exact .inl ⟨rfl, fun hdrives => nomatch hdrives⟩
  | drive outcome status =>
    unfold Stage.step at h
    dsimp only at h
    split at h
    · nomatch hidle
    · nomatch h
  | finalize outcome ids =>
    obtain ⟨pending, rfl, ⟨rfl, text, rfl⟩ | ⟨⟨b, hfinal⟩, rfl⟩⟩ := step_finalize h
    · exact .inl ⟨rfl, fun hdrives => nomatch hdrives⟩
    · exact .inr ⟨rfl, _, _, _, hfinal⟩

/-- The other calls write nothing that replaying reads. -/
lemma idle_step (hidle : stage.drives = false) (h : stage.step x s m = some (s', stage')) :
    (s'.state = s.state ∧ s'.entered = s.entered) ∧
      (stage'.drives = true →
        ∃ loader, stage = .loading loader ∧ stage' = resumeWith x s.state loader) := by
  obtain ⟨rfl, hload⟩ | ⟨hidle', pending, boundExceeded, ids, hfinal⟩ := idle_cases hidle h
  · exact ⟨⟨rfl, rfl⟩, hload⟩
  · exact ⟨finalize_replay hfinal, fun hdrives => nomatch hidle'.symm.trans hdrives⟩

/-- The other steps write neither the log nor the status. A call that they make does not drive the
plan, and the calls that were there stay as they are, unless their process is gone. -/
lemma executor_other {sys sys' : System} {a : Action} (ha : ∀ i m, a ≠ .step i m)
    (h : (executor x).step sys a = some sys') :
    (sys'.store.log = sys.store.log ∧ sys'.store.status = sys.store.status) ∧
      (∀ (j : ℕ) stage, sys'.calls[j]? = some stage →
        sys.calls[j]? = some stage ∨ stage.drives = false) ∧
      ∀ j stage, a ≠ .crash j → sys.calls[j]? = some stage → sys'.calls[j]? = some stage := by
  cases a with
  | childEnds child =>
    cases h
    exact ⟨⟨rfl, rfl⟩, fun _ _ => .inl, fun _ _ _ => id⟩
  | onChildTerminal | resume | resumeGate =>
    cases h
    refine ⟨⟨rfl, rfl⟩, fun j stage hj => ?_, fun j stage _ hj => ?_⟩
    · obtain hold | rfl := getElem?_call hj
      · exact .inl hold
      · exact .inr rfl
    · exact (List.getElem?_append_left (List.getElem?_eq_some_iff.1 hj).1).trans hj
  | crash i =>
    obtain ⟨stage, -, rfl⟩ := executor_crash h
    refine ⟨⟨rfl, rfl⟩, fun j stage hj => ?_, fun j stage hji hj => ?_⟩
    · obtain ⟨-, rfl⟩ | ⟨-, hold⟩ := getElem?_goto hj
      · exact .inr rfl
      · exact .inl hold
    · have hne : i ≠ j := by simpa using hji
      exact (List.getElem?_set_ne hne).trans hj
  | step i m => exact absurd rfl (ha i m)

/-! ### Every run -/

/-- What the calls have in memory after a step of the `i`-th one from a stage to another. -/
def remember (memory : ℕ → RunState) (i : ℕ) (stage stage' : Stage) : ℕ → RunState :=
  Function.update memory i (stage'.recall (stage.recall (memory i)))

/-- The call that drives the plan is the only one, and the log is where its stage says. -/
def Driven (x : Executor) (sys : System) (memory : ℕ → RunState) : Prop :=
  ∀ i stage, sys.calls[i]? = some stage → stage.drives = true →
    At x sys.store.state sys.store.entered (memory i) stage ∧ Undriven sys i

namespace Driven

variable {sys sys' : System} {memory : ℕ → RunState}

lemma init : Driven x System.init memory := exclusive_init ⟨rfl, rfl⟩

variable (h : Driven x sys memory)
include h

lemma call {stage : Stage} (hidle : stage.drives = false) :
    Driven x (sys.call stage) memory :=
  Exclusive.call h hidle

/-- A call moves on. If it was driving the plan, or is now, no other call does; the others are
where they were as long as the state of the run is. -/
lemma goto {memory' : ℕ → RunState} {i : ℕ} {r : Store × Stage}
    (hat : At x r.1.state r.1.entered (memory' i) r.2) (halone : r.2.drives = true → Undriven sys i)
    (hothers : Undriven sys i ∨ r.1.state = sys.store.state ∧ r.1.entered = sys.store.entered)
    (hmemory : ∀ j ≠ i, memory' j = memory j) : Driven x (sys.goto i r) memory' := by
  refine Exclusive.goto h hat halone
    (hothers.imp_right fun ⟨hstate, hentered⟩ j stage hji hold => ?_)
  show At x r.1.state r.1.entered (memory' j) stage
  rw [hstate, hentered, hmemory j hji]
  exact hold

lemma next {i : ℕ} {m : Move} {stage : Stage} {r : Store × Stage}
    (hturn : InTurn sys (.step i m)) (hi : sys.calls[i]? = some stage)
    (hstep : stage.step x sys.store m = some r) :
    Driven x (sys.goto i r) (remember memory i stage r.2) := by
  obtain ⟨s', stage'⟩ := r
  have hmemory : ∀ j ≠ i, remember memory i stage stage' j = memory j := fun j hji =>
    Function.update_of_ne hji _ _
  have hnew : remember memory i stage stage' i = stage'.recall (stage.recall (memory i)) :=
    Function.update_self _ _ _
  by_cases hdrives : stage.drives = true
  · obtain ⟨hat, halone⟩ := h i stage hi hdrives
    exact h.goto (hnew ▸ step_at hat hstep) (fun _ => halone) (.inl halone) hmemory
  · have hidle : stage.drives = false := by simpa using hdrives
    obtain ⟨hsame, hload⟩ := idle_step hidle hstep
    refine h.goto (hnew ▸ step_at (at_of_idle hidle) hstep) (fun hdrives' => ?_) (.inr hsame)
      hmemory
    obtain ⟨loader, rfl, -⟩ := hload hdrives'
    exact hturn loader hi

/-- The other steps leave the memory of the calls alone. -/
lemma step {a : Action} (ha : ∀ i m, a ≠ .step i m)
    (hst : (executor x).step sys a = some sys') : Driven x sys' memory := by
  cases a with
  | childEnds child =>
    cases hst
    exact h
  | onChildTerminal | resume | resumeGate =>
    cases hst
    exact h.call rfl
  | crash i =>
    obtain ⟨stage, -, rfl⟩ := executor_crash hst
    exact h.goto trivial (fun hdrives => nomatch hdrives) (.inr ⟨rfl, rfl⟩) fun _ _ => rfl
  | step i m => exact absurd rfl (ha i m)

omit h in
lemma exists_of_step {a : Action} (h : ∃ memory, Driven x sys memory) (hturn : InTurn sys a)
    (hst : (executor x).step sys a = some sys') : ∃ memory, Driven x sys' memory := by
  obtain ⟨memory, h⟩ := h
  by_cases ha : ∃ i m, a = .step i m
  · obtain ⟨i, m, rfl⟩ := ha
    obtain ⟨stage, r, hi, hstep, rfl⟩ := executor_step hst
    exact ⟨_, h.next hturn hi hstep⟩
  · exact ⟨memory, h.step (fun i m heq => ha ⟨i, m, heq⟩) hst⟩

omit h in
/-- In every run of one call after another the driving call is where its stage says. -/
theorem of_reaches (h : (executor x).ReachesBy InTurn System.init sys) :
    ∃ memory, Driven x sys memory :=
  h.invariant (I := fun sys => ∃ memory, Driven x sys memory) ⟨fun _ => {}, init⟩
    fun _ _ _ hdriven hturn hst => exists_of_step hdriven hturn hst

end Driven

/-! ### What a call has in memory -/

/-- A plan session, and what each of its calls has in memory. -/
structure Tracked where
  system : System
  memory : ℕ → RunState

/-- What the calls have in memory after a step. -/
def Tracked.after (t : Tracked) (sys : System) : Action → ℕ → RunState
  | .step i _ => match t.system.calls[i]?, sys.calls[i]? with
    | some stage, some stage' => remember t.memory i stage stage'
    | _, _ => t.memory
  | _ => t.memory

def tracked (x : Executor) : Machine Tracked Action where
  step t a := ((executor x).step t.system a).map fun system =>
    { system, memory := t.after system a }

def Tracked.init : Tracked := { system := System.init, memory := fun _ => {} }

lemma tracked_step {t t' : Tracked} {i : ℕ} (h : (tracked x).step t (.step i m) = some t') :
    ∃ stage r, t.system.calls[i]? = some stage ∧ stage.step x t.system.store m = some r ∧
      t' = { system := t.system.goto i r, memory := remember t.memory i stage r.2 } := by
  obtain ⟨sys, hsys, rfl⟩ := Option.map_eq_some_iff.1 h
  obtain ⟨stage, r, hi, hstep, rfl⟩ := executor_step hsys
  refine ⟨stage, r, hi, hstep, ?_⟩
  unfold Tracked.after
  dsimp only
  rw [hi, getElem?_goto_self hi]

lemma Driven.tracked {t t' : Tracked} {a : Action} (h : Driven x t.system t.memory)
    (hturn : InTurn t.system a) (hst : (tracked x).step t a = some t') :
    Driven x t'.system t'.memory := by
  by_cases ha : ∃ i m, a = .step i m
  · obtain ⟨i, m, rfl⟩ := ha
    obtain ⟨stage, r, hi, hstep, rfl⟩ := tracked_step hst
    exact h.next hturn hi hstep
  · have hother : ∀ i m, a ≠ .step i m := fun i m heq => ha ⟨i, m, heq⟩
    obtain ⟨sys, hsys, rfl⟩ := Option.map_eq_some_iff.1 hst
    have hafter : t.after sys a = t.memory := by
      cases a with
      | step i m => exact absurd rfl (hother i m)
      | _ => rfl
    show Driven x sys (t.after sys a)
    rw [hafter]
    exact h.step hother hsys

/-- A call suspends the run: it has marked the session suspended, or it finds that the kernel run
of its agent step has. -/
inductive Suspends : Stage → Move → Prop
  | gate (fanoutID : Option UUID) : Suspends (.suspending fanoutID) (.commit [])
  | agent (st : RunState) (step : Step) (status : SessionStatus) :
    Suspends (.driving st step) (.drive (.ok none) status)

/-- In every run of one call after another, with any behaviour of the steps, of the store and of
the children, any crashes and any sequence of resumes: whenever the run suspends, replaying the log
gives the variables, the counts of entries and the current step that the call has in memory. -/
theorem suspended_eq_replayed {t t' : Tracked} {i : ℕ} {stage : Stage} {m : Move}
    (h : (tracked x).ReachesBy (fun t a => InTurn t.system a) Tracked.init t)
    (hi : t.system.calls[i]? = some stage) (hsuspends : Suspends stage m)
    (hst : (tracked x).step t (.step i m) = some t') :
    let now := replayState t'.system.store.log.events
    now.vars = (t'.memory i).vars ∧ now.iterations = (t'.memory i).iterations ∧
      now.currentStep = (t'.memory i).currentStep := by
  have hdriven : Driven x t.system t.memory :=
    h.invariant (I := fun t => Driven x t.system t.memory) Driven.init
      fun _ _ _ hdriven hturn hst => hdriven.tracked hturn hst
  obtain ⟨stage', r, hi', hstep, rfl⟩ := tracked_step hst
  obtain rfl : stage = stage' := Option.mem_unique hi hi'
  have hstate : r.1.state = r.2.recall (stage.recall (t.memory i)) := by
    cases hsuspends with
    | gate fanoutID =>
      -- the status is not part of the log, and neither stage has a state of its own
      obtain ⟨⟨step, hat⟩, -⟩ := hdriven i _ hi rfl
      cases hstep
      exact hat.state
    | agent st step status =>
      obtain ⟨hat, -⟩ := hdriven i _ hi rfl
      cases hstep
      exact hat.state
  dsimp only [remember]
  rw [Function.update_self, ← hstate]
  exact ⟨rfl, rfl, rfl⟩

instance (sys : System) (i : ℕ) : Decidable (Undriven sys i) :=
  inferInstanceAs (Decidable (OthersIdle Stage.drives sys i))

/-- A call that is about to load the state of the run. -/
def Stage.loads : Stage → Bool
  | .loading _ => true
  | _ => false

instance (sys : System) (a : Action) : Decidable (InTurn sys a) := by
  cases a with
  | step i m =>
    refine decidable_of_iff (∀ stage ∈ sys.calls[i]?, stage.loads = true → Undriven sys i)
      ⟨fun h loader hi => h _ hi rfl, fun h stage hi hloads => ?_⟩
    cases stage with
    | loading loader => exact h loader hi
    | _ => nomatch hloads
  | _ => exact inferInstanceAs (Decidable True)

/-- A call that is about to mark the session suspended. -/
def Stage.marks : Stage → Bool
  | .suspending _ => true
  | _ => false

lemma exists_of_marks (h : stage.marks = true) : ∃ fanoutID, stage = .suspending fanoutID := by
  cases stage with
  | suspending fanoutID => exact ⟨fanoutID, rfl⟩
  | _ => nomatch h

def twoGates : Executor where
  sessionID := 7
  plan :=
    { startStep := "ask"
      steps := [
        { id := "ask", kind := .approvalGate, transitions := [{ target := "confirm" }]
          approvalGate := some { question := "Deploy?", resultVar := "deploy" } },
        { id := "confirm", kind := .approvalGate
          approvalGate := some { question := "Sure?", resultVar := "sure" } }] }

/-- The first gate is entered and answered, and the second one is entered. -/
def toSecondGate : List Action :=
  [.step 0 (.commit [1]), .step 0 (.commit [2]), .step 0 (.commit []), .step 0 (.commit []),
    .resumeGate (.boolValue true), .step 1 (.commit []), .step 1 (.commit []),
    .step 1 (.commit [3]), .step 1 (.commit [4]), .step 1 (.commit [5]), .step 1 (.commit [])]

/-- At the second gate the log gives the answer to the first one, and the second one as the current
step. -/
theorem secondGate_replayed : ∃ t t' : Tracked,
    (tracked twoGates).ReachesBy (fun t a => InTurn t.system a) Tracked.init t ∧
      (tracked twoGates).step t (.step 1 (.commit [])) = some t' ∧
      (t'.memory 1).vars "deploy" = some (.boolValue true) ∧
      (replayState t'.system.store.log.events).vars "deploy" = some (.boolValue true) ∧
      (replayState t'.system.store.log.events).currentStep = "confirm" := by
  obtain ⟨t, hreach, hsuspending, t', hst, hvars, hcurrent⟩ :
      ∃ t, (tracked twoGates).ReachesBy (fun t a => InTurn t.system a) Tracked.init t ∧
        (∃ stage ∈ t.system.calls[1]?, stage.marks = true) ∧
        ∃ t' ∈ (tracked twoGates).step t (.step 1 (.commit [])),
          (t'.memory 1).vars "deploy" = some (.boolValue true) ∧
            (t'.memory 1).currentStep = "confirm" := by
    apply Machine.ReachesBy.exists_of_runBy toSecondGate
    decide +kernel
  obtain ⟨stage, hi, hstage⟩ := hsuspending
  obtain ⟨fanoutID, rfl⟩ := exists_of_marks hstage
  obtain ⟨hreplayed, -, hstep⟩ := suspended_eq_replayed hreach hi (.gate fanoutID) hst
  exact ⟨t, t', hreach, hst, hvars, (congrFun hreplayed "deploy").trans hvars,
    hstep.trans hcurrent⟩

end NexusAgent.Plans
