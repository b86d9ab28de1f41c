import NexusAgent.Plan.AgentRuns

/-!
# The result of an agent step

The result of an agent step is meant to be what its kernel run has said, once that run has
completed. `continueAgentStep` only asks whether the session is suspended: a run that failed, in
whatever way, exits the step too, and what is bound is the last content of the log, whoever wrote
it and whenever, or no text at all. `ResumeGate` does not ask for the kind of the step it exits.

- `Integrity`: each exit of an agent step is `Earned`, that is, since the entry of the step the
  kernel has completed, and what is bound is content that was appended since.
-/

namespace NexusAgent.Plans

open EventLog

/-! ### What has happened since the entry of a step -/

def SessionPayload.enters : SessionPayload → Bool
  | .plan (.stepEntered _) => true
  | _ => false

/-- What the kernel or another writer has written. -/
def SessionPayload.ran : SessionPayload → Option Kernel.Payload
  | .plan _ => none
  | .kernel payload => some payload

def sinceEntry (history : List (Event SessionPayload)) : List (Event SessionPayload) :=
  history.foldl (fun since e => if e.payload.enters then [] else since ++ [e]) []

/-- The events of the kernel and of other writers after the last entry of a step. -/
def ran (history : List (Event SessionPayload)) : List (Event Kernel.Payload) :=
  (sinceEntry history).filterMap fun e =>
    e.payload.ran.map fun payload => carry (fun _ => payload) e

/-- The bindings of an exit are the result of a kernel run: its last outcome is that it completed,
and each value is content of it. -/
structure Earned (events : List (Event Kernel.Payload)) (bindings : List (String × Value)) :
    Prop where
  completed : ∃ ev detail, (events.filter fun e => Kernel.isOutcome e.type).getLast? = some ev ∧
    ev.type = .terminal ∧ ev.payload = .terminal .completed detail
  content : ∀ b ∈ bindings, ∃ e ∈ events, e.type = .content ∧
    b.2 = .stringValue (body e.payload)

/-- Every exit of an agent step is the result of what has run since the entry of the step. -/
def Integrity (x : Executor) (history : List (Event SessionPayload)) : Prop :=
  ∀ before e after stepID bindings step, history = before ++ e :: after →
    e.payload = .plan (.stepExited stepID bindings) → x.plan.stepByID stepID = some step →
    step.kind = .agent → Earned (ran before) bindings

section

variable {x : Executor} {history es : List (Event SessionPayload)} {e : Event SessionPayload}

lemma sinceEntry_concat (history : List (Event SessionPayload)) (e : Event SessionPayload) :
    sinceEntry (history ++ [e]) = if e.payload.enters then [] else sinceEntry history ++ [e] := by
  simp [sinceEntry]

lemma sinceEntry_suffix (history : List (Event SessionPayload)) :
    sinceEntry history <:+ history := by
  induction history using List.reverseRecOn with
  | nil => exact List.nil_suffix
  | append_singleton history e ih =>
    rw [sinceEntry_concat]
    split_ifs
    · exact List.nil_suffix
    · obtain ⟨before, hbefore⟩ := ih
      exact ⟨before, by rw [← List.append_assoc, hbefore]⟩

lemma ran_concat_kernel {payload : Kernel.Payload} (h : e.payload = .kernel payload) :
    ran (history ++ [e]) = ran history ++ [carry (fun _ => payload) e] := by
  simp [ran, sinceEntry_concat, h, SessionPayload.enters, SessionPayload.ran]

lemma ran_concat_plan {p : Payload} (h : e.payload = .plan p) (hentered : p.entered = none) :
    ran (history ++ [e]) = ran history := by
  have henters : (SessionPayload.plan p).enters = false := by
    cases p with
    | stepEntered _ => nomatch hentered
    | _ => rfl
  simp [ran, sinceEntry_concat, h, henters, SessionPayload.ran]

/-- Events of the executor that enter no step are not noticed. -/
lemma ran_append_plan (h : ∀ e ∈ es, ∃ p : Payload, e.payload = .plan p ∧ p.entered = none) :
    ran (history ++ es) = ran history := by
  induction es using List.reverseRecOn with
  | nil => rw [List.append_nil]
  | append_singleton es e ih =>
    obtain ⟨p, hp, hentered⟩ := h e (by simp)
    rw [← List.append_assoc, ran_concat_plan hp hentered]
    exact ih fun e he => h e (by simp [he])

lemma Integrity.concat (h : Integrity x history)
    (he : ∀ stepID bindings step, e.payload = .plan (.stepExited stepID bindings) →
      x.plan.stepByID stepID = some step → step.kind = .agent → Earned (ran history) bindings) :
    Integrity x (history ++ [e]) := by
  intro before e' after stepID bindings step heq hpayload hstep hkind
  obtain rfl | ⟨after, last, rfl⟩ := after.eq_nil_or_concat
  · obtain ⟨rfl, hlast⟩ := List.append_inj' heq rfl
    obtain rfl : e = e' := List.head_eq_of_cons_eq hlast
    exact he stepID bindings step hpayload hstep hkind
  · have hsplit : history ++ [e] = (before ++ e' :: after) ++ [last] := by simp [heq]
    obtain ⟨rfl, -⟩ := List.append_inj' hsplit rfl
    exact h before e' after stepID bindings step rfl hpayload hstep hkind

lemma Integrity.append (h : Integrity x history)
    (hes : ∀ e ∈ es, ∀ stepID bindings, e.payload ≠ .plan (.stepExited stepID bindings)) :
    Integrity x (history ++ es) := by
  induction es using List.reverseRecOn with
  | nil => rwa [List.append_nil]
  | append_singleton es e ih =>
    rw [← List.append_assoc]
    refine (ih fun e he => hes e (by simp [he])).concat fun stepID bindings _ hpayload => ?_
    exact absurd hpayload (hes e (by simp) stepID bindings)

lemma lastContentText_mem (hkernel : ∀ e ∈ history, e.type = .content →
      ∃ payload, e.payload = .kernel payload) (hcontent : ∃ e ∈ ran history, e.type = .content) :
    ∃ e ∈ ran history, e.type = .content ∧ lastContentText history = body e.payload := by
  obtain ⟨before, hbefore⟩ := sinceEntry_suffix history
  -- the search from the end of the log finds an event before it leaves what follows the entry
  have hfound : ∃ e, (sinceEntry history).reverse.find? (fun e => e.type = .content) = some e := by
    obtain ⟨e, he, htype⟩ := hcontent
    obtain ⟨e₀, he₀, hran⟩ := List.mem_filterMap.1 he
    obtain ⟨payload, -, rfl⟩ := Option.map_eq_some_iff.1 hran
    rw [← Option.isSome_iff_exists, List.find?_isSome]
    exact ⟨e₀, List.mem_reverse.2 he₀, decide_eq_true htype⟩
  obtain ⟨e, hfind⟩ := hfound
  have hmem : e ∈ sinceEntry history := List.mem_reverse.1 (List.mem_of_find?_eq_some hfind)
  have htype : e.type = .content := by simpa using List.find?_some hfind
  obtain ⟨payload, hpayload⟩ := hkernel e ((sinceEntry_suffix history).subset hmem) htype
  refine ⟨carry (fun _ => payload) e, ?_, htype, ?_⟩
  · exact List.mem_filterMap.2 ⟨e, hmem, by rw [hpayload]; rfl⟩
  · have hlast : history.reverse.find? (fun e => e.type = .content) = some e := by
      rw [← hbefore, List.reverse_append, List.find?_append, hfind]
      rfl
    unfold lastContentText
    rw [hlast]
    show body e.payload.view = body payload
    rw [hpayload]
    rfl

end

/-! ### Runs in which the result of an agent step can be relied on -/

def PlanSession.Unattended (s : PlanSession) : Prop := ∀ stage ∈ s.plan.calls, stage.drives = false

/-- The answer to a request of a kernel run does not make the run fail. -/
def PlanSession.Favours (s : PlanSession) (i : ℕ) (t : Kernel.Reply) : Prop :=
  match s.run? i with
  | none => True
  | some run =>
    match run.live with
    | .done _ => True
    | .ask o _ =>
      match s.handle o t with
      | none => True
      | some (a, _) => run.progress.Favours o a

/-- Gates and fan-outs are resolved while no agent step is in progress. -/
def AtGate (x : Executor) (sys : System) : Action → Prop
  | .step i _ =>
    match sys.calls[i]? with
    | some (.loading (.resumeGate _)) | some (.loading (.resolveFanout _ _)) =>
      (x.plan.stepByID sys.store.state.currentStep).map (·.kind) ≠ some .agent
    | _ => True
  | _ => True

/-- The calls come one after another and gates are resolved at gates, kernel runs are answered
favourably, and nobody else writes to the session while a call drives the plan. -/
def Steady (x : AgentExecutor) (s : PlanSession) : SessionAction → Prop
  | .plan a => InTurn s.plan a ∧ AtGate x.toExecutor s.plan a
  | .answer i t => s.Favours i t
  | .otherAppend _ | .otherStatus _ => s.Unattended
  | _ => True

/-! ### The stage of a call -/

/-- A call is about to exit an agent step only with an earned result. -/
def ExitsOk (events : List (Event Kernel.Payload)) : Stage → Prop
  | .exiting _ step bindings _ => step.kind = .agent → Earned events bindings
  | .resuming _ step _ _ => step.kind ≠ .agent
  | _ => True

section

variable {x : Executor} {st : RunState} {step : Step} {events : List (Event Kernel.Payload)}

variable {stage : Stage}

lemma exitsOk_of_idle (h : stage.drives = false) : ExitsOk events stage := by
  cases stage with
  | exiting _ _ _ _ | resuming _ _ _ _ => nomatch h
  | _ => trivial

lemma exitsOk_enter (stepID : String) : ExitsOk events (enter x st stepID) := by
  unfold enter
  split_ifs
  · trivial
  split
  · trivial
  dsimp only
  split_ifs <;> trivial

lemma exitsOk_dispatch : ExitsOk events (dispatch x st step) := by
  unfold dispatch
  split
  next => trivial
  next hkind => exact fun hagent => nomatch hkind.symm.trans hagent
  next hkind => exact fun hagent => nomatch hkind.symm.trans hagent
  next =>
    split_ifs
    · trivial
    dsimp only
    split <;> trivial
  all_goals first
    | trivial
    | split_ifs <;> trivial

lemma exitsOk_spawnNext (config : DelegateFanoutConfig) (fanoutID : UUID) (spawned : ℕ) :
    ExitsOk events (spawnNext st step config fanoutID spawned) := by
  unfold spawnNext
  split_ifs <;> trivial

lemma exitsOk_leave (bindings : List (String × Value)) :
    ExitsOk events (leave st step bindings) := by
  unfold leave
  dsimp only
  split <;> trivial

/-- `Resume` drives an agent step, the others exit the step that the log stands at. -/
lemma exitsOk_resumeWith {loader : Loader}
    (h : loader ≠ .resume → (x.plan.stepByID st.currentStep).map (·.kind) ≠ some .agent) :
    ExitsOk events (resumeWith x st loader) := by
  by_cases hloader : loader = .resume
  · subst hloader
    unfold resumeWith resumeAgent
    dsimp only
    split_ifs
    · trivial
    split
    · trivial
    · split_ifs <;> trivial
  · obtain ⟨text, heq⟩ | ⟨step, hstep, heq | ⟨bindings, via, heq⟩⟩ := resumeWith_cases x st loader
    · rw [heq]
      trivial
    · rw [heq]
      trivial
    · rw [heq]
      intro hkind
      apply h hloader
      rw [hstep.current, hstep.declared.found, Option.map_some, hkind]

/-- A transaction leads to an exit only from a gate or from a step that is exited at once. -/
lemma commit_exitsOk {s s' : Store} {stage' : Stage} {ids : List UUID}
    {before : List (Event Kernel.Payload)} (hok : ExitsOk before stage)
    (hload : ∀ loader, stage = .loading loader → ExitsOk events (resumeWith x s.state loader))
    (h : stage.commit x s ids = some (s', stage')) : ExitsOk events stage' := by
  have hmap {id : UUID} {payload : Payload} {f : Store → Store × Stage}
      (h : (s.append x id payload).map f = some (s', stage'))
      (hf : ∀ s₁, ExitsOk events (f s₁).2) : ExitsOk events stage' := by
    obtain ⟨s₁, -, heq⟩ := Option.map_eq_some_iff.1 h
    have hs₁ := hf s₁
    rwa [heq] at hs₁
  have hsome {r : Store × Stage} (h : some r = some (s', stage')) (hr : ExitsOk events r.2) :
      ExitsOk events stage' := by
    cases h
    exact hr
  unfold Stage.commit at h
  split at h
  · exact hmap h fun _ => exitsOk_enter _
  · exact hmap h fun _ => exitsOk_dispatch
  · exact hmap h fun _ => trivial
  · exact hsome h trivial
  · split_ifs at h
    exact hsome h (exitsOk_spawnNext _ _ _)
  · split_ifs at h
    exact hsome h (exitsOk_spawnNext _ _ _)
  · exact hsome h trivial
  · exact hmap h fun _ => exitsOk_leave _
  · refine hmap h fun _ => ?_
    split_ifs
    · trivial
    · exact exitsOk_enter _
  · exact hmap h fun _ => trivial
  · exact hsome h (exitsOk_of_idle (check_drives _))
  · exact hsome h (exitsOk_of_idle (list_drives _))
  · exact hsome h (hload _ rfl)
  · exact hsome h fun hagent => absurd hagent hok
  · nomatch h

lemma step_exitsOk {s s' : Store} {stage' : Stage} {m : Move}
    {before : List (Event Kernel.Payload)} (hm : ∀ outcome status, m ≠ .drive outcome status)
    (hok : ExitsOk before stage)
    (hload : ∀ loader, stage = .loading loader → ExitsOk events (resumeWith x s.state loader))
    (h : stage.step x s m = some (s', stage')) : ExitsOk events stage' := by
  cases m with
  | commit ids => exact commit_exitsOk hok hload h
  | fail =>
    obtain ⟨rfl, text, rfl⟩ := step_fail h
    trivial
  | drive outcome status => exact absurd rfl (hm outcome status)
  | finalize outcome ids =>
    obtain ⟨pending, rfl, ⟨-, text, rfl⟩ | ⟨-, rfl⟩⟩ := step_finalize h <;> trivial

end

lemma CallMoved.ran_eq {x : AgentExecutor} {s s' : PlanSession} {i : ℕ} {m : Move}
    {stage stage' : Stage} {joined : List (Event SessionPayload)}
    (h : CallMoved x s i m s' stage stage' joined) (hnone : stage.writes = none) :
    ran s'.log.events = ran s.log.events := by
  rw [h.log]
  obtain hwrites | hignored := h.payloads
  · obtain rfl : joined = [] := by simpa [hnone] using hwrites
    rw [List.append_nil]
  · apply ran_append_plan
    intro e he
    obtain ⟨p, hp, hp'⟩ := hignored e he
    refine ⟨p, hp, ?_⟩
    cases p with
    | stepEntered _ => exact hp'.elim
    | _ => rfl

/-! ### What is known of a session -/

structure RunOk (s : PlanSession) (run : KernelRun) : Prop where
  favoured : Kernel.Favoured run.live run.record run.progress
  /-- What it has appended is the end of what has run since the entry of the step. -/
  logged : run.record.appended <:+ ran s.log.events
  status : ∀ status, run.record.status = some status → s.plan.store.status = status
  settled : run.settled = true → (∃ a, run.live = .done a) ∧ s.plan.store.status ≠ .suspended

/-- What is known of the plan and of the log. -/
structure Sound (x : AgentExecutor) (s : PlanSession) : Prop where
  driven : ∃ memory, Driven x.toExecutor s.plan memory
  integrity : Integrity x.toExecutor s.log.events
  content : ∀ e ∈ s.log.events, e.type = .content → ∃ payload, e.payload = .kernel payload

structure Sealed (x : AgentExecutor) (s : PlanSession) : Prop extends Sound x s where
  stages : ∀ (i : ℕ) stage, s.plan.calls[i]? = some stage → ExitsOk (ran s.log.events) stage
  runs : ∀ i run, s.runs i = some run →
    (∃ st step, s.plan.calls[i]? = some (.driving st step)) ∧ RunOk s run

/-- The kernel or another writer appends an event. -/
lemma Sound.append {x : AgentExecutor} {s : PlanSession} (h : Sound x s) {e : Event Kernel.Payload}
    {log : Log SessionPayload} (hlog : s.log.append (carry .kernel e) = some log) :
    Sound x { s with log } := by
  obtain ⟨-, hevents⟩ := Log.append_eq_some hlog
  refine ⟨h.driven, ?_, fun e' he htype => ?_⟩
  · show Integrity _ log.events
    rw [hevents]
    exact h.integrity.concat fun _ _ _ hexit => nomatch hexit
  · rw [hevents] at he
    obtain hold | hnew := List.mem_append.1 he
    · exact h.content e' hold htype
    · rw [List.mem_singleton.1 hnew]
      exact ⟨e.payload, rfl⟩

namespace Sealed

variable {x : AgentExecutor} {s s' : PlanSession} {i : ℕ} {stage : Stage}

lemma init : Sealed x PlanSession.init where
  driven := ⟨fun _ => {}, Driven.init⟩
  integrity before e after _ _ _ heq := by
    simp [PlanSession.init, Log.empty] at heq
  content _ he := by cases he
  stages i stage hi := by
    cases i with
    | zero =>
      obtain rfl : Stage.starting = stage := Option.some.inj hi
      trivial
    | succ i => cases hi
  runs _ _ hrun := by cases hrun

variable (h : Sealed x s)
include h

lemma alone (hi : s.plan.calls[i]? = some stage) (hdrives : stage.drives = true) :
    Undriven s.plan i := by
  obtain ⟨memory, hdriven⟩ := h.driven
  exact (hdriven i stage hi hdrives).2

variable {run : KernelRun} {joined : List (Event SessionPayload)} {m : Move} {stage' : Stage}

lemma run_alone (halone : Undriven s.plan i) {j : ℕ} (hj : s.runs j = some run) : j = i := by
  by_contra hne
  obtain ⟨⟨st, step, hcall⟩, -⟩ := h.runs j run hj
  nomatch halone j _ hne hcall

/-- A step that is not noticed by what has run, nor by the status: the stages are those from before
or in order, and so are the runs. -/
lemma frame (hsound : Sound x s') (hran : ran s'.log.events = ran s.log.events)
    (hstatus : s'.plan.store.status = s.plan.store.status)
    (hstages : ∀ (j : ℕ) stage, s'.plan.calls[j]? = some stage →
      s.plan.calls[j]? = some stage ∨ ExitsOk (ran s.log.events) stage)
    (hruns : ∀ j run, s'.runs j = some run → s.runs j = some run ∧
      ∀ stage, s.plan.calls[j]? = some stage → s'.plan.calls[j]? = some stage) : Sealed x s' where
  toSound := hsound
  stages j stage hj := by
    rw [hran]
    exact (hstages j stage hj).elim (h.stages j stage) id
  runs j run hj := by
    obtain ⟨hold, hcall⟩ := hruns j run hj
    obtain ⟨⟨st, step, hdriving⟩, hok⟩ := h.runs j run hold
    refine ⟨⟨st, step, hcall _ hdriving⟩, hok.favoured, hran ▸ hok.logged, ?_, ?_⟩ <;> rw [hstatus]
    · exact hok.status
    · exact hok.settled

/-- The log after a step of a call: where the call exits an agent step, its result is earned. -/
lemma integrity_moved (hmoved : CallMoved x s i m s' stage stage' joined) :
    Integrity x.toExecutor s'.log.events := by
  rw [hmoved.log]
  obtain hwrites | hignored := hmoved.payloads
  · cases hw : stage.writes with
    | none =>
      obtain rfl : joined = [] := by simpa [hw] using hwrites
      rw [List.append_nil]
      exact h.integrity
    | some p =>
      obtain ⟨e, rfl, hpayload⟩ : ∃ e, joined = [e] ∧ e.payload = .plan p := by
        simpa [hw, List.map_eq_singleton_iff] using hwrites
      refine h.integrity.concat fun stepID bindings step' hexit hstep hkind => ?_
      obtain rfl : p = .stepExited stepID bindings :=
        SessionPayload.plan.inj (hpayload.symm.trans hexit)
      cases stage with
      | exiting st step bindings' via =>
        obtain ⟨rfl, rfl⟩ := Payload.stepExited.inj (Option.some.inj hw)
        -- the step that the call exits is the one that the plan has under its identifier
        obtain ⟨memory, hdriven⟩ := h.driven
        have hat : InProgress x.toExecutor _ st step := (hdriven i _ hmoved.call rfl).1
        obtain rfl : step = step' := Option.mem_unique hat.declared.found hstep
        exact h.stages i _ hmoved.call hkind
      | _ => nomatch hw
  · refine h.integrity.append fun e he stepID bindings hexit => ?_
    obtain ⟨p, hp, hignored⟩ := hignored e he
    obtain rfl : p = .stepExited stepID bindings := SessionPayload.plan.inj (hp.symm.trans hexit)
    exact hignored

lemma sound_moved (hturn : InTurn s.plan (.step i m))
    (hmoved : CallMoved x s i m s' stage stage' joined) : Sound x s' := by
  refine ⟨?_, h.integrity_moved hmoved, fun e he htype => ?_⟩
  · rw [hmoved.plan]
    exact Driven.exists_of_step h.driven hturn (executor_step_eq hmoved.call hmoved.step)
  · rw [hmoved.log] at he
    obtain hold | hnew := List.mem_append.1 he
    · exact h.content e hold htype
    · exact absurd htype (hmoved.types e hnew)

omit h in
lemma run_of_update (hruns : s'.runs = Function.update s.runs i none) {j : ℕ}
    (hj : s'.runs j = some run) : j ≠ i ∧ s.runs j = some run := by
  rw [hruns] at hj
  by_cases hji : j = i
  · rw [hji, Function.update_self] at hj
    nomatch hj
  · rw [Function.update_of_ne hji] at hj
    exact ⟨hji, hj⟩

lemma moved (hturn : InTurn s.plan (.step i m))
    (hmoved : CallMoved x s i m s' stage stage' joined) (hnew : ExitsOk (ran s'.log.events) stage')
    : Sealed x s' := by
  have hsound := h.sound_moved hturn hmoved
  by_cases hdrives : stage.drives = true
  · have halone := h.alone hmoved.call hdrives
    refine ⟨hsound, fun j stage₁ hj => ?_, fun j run hj => ?_⟩
    · rw [hmoved.plan] at hj
      obtain ⟨-, rfl⟩ | ⟨hji, hold⟩ := getElem?_goto hj
      · exact hnew
      · exact exitsOk_of_idle (halone j stage₁ hji hold)
    · obtain ⟨hji, hold⟩ := run_of_update hmoved.runs hj
      exact absurd (h.run_alone halone hold) hji
  · have hidle : stage.drives = false := by simpa using hdrives
    have hran : ran s'.log.events = ran s.log.events := by
      apply hmoved.ran_eq
      cases stage <;> first | rfl | nomatch hidle
    apply h.frame hsound hran
    · obtain ⟨hsame, -⟩ | ⟨-, _, _, _, hfinal⟩ := idle_cases hidle hmoved.step
      · rw [hsame]
      · exact (finalize_events hfinal).2
    · intro j stage₁ hj
      rw [hmoved.plan] at hj
      obtain ⟨-, rfl⟩ | ⟨-, hold⟩ := getElem?_goto hj
      · exact .inr (hran ▸ hnew)
      · exact .inl hold
    · intro j run hj
      obtain ⟨hji, hold⟩ := run_of_update hmoved.runs hj
      refine ⟨hold, fun stage₁ hstage => ?_⟩
      rw [hmoved.plan]
      exact (List.getElem?_set_ne (Ne.symm hji)).trans hstage

/-- The other steps of the plan: calls are made, or their processes are gone. -/
lemma move_other {a : Action} (ha : ∀ i m, a ≠ .step i m)
    (hmove : x.move s a = some s') : Sealed x s' := by
  obtain ⟨hplan, hlog, hruns⟩ := move_some hmove
  obtain ⟨memory, hdriven⟩ := h.driven
  obtain ⟨⟨hstore, hstatus⟩, hstages, hcalls⟩ := executor_other ha hplan
  rw [hstore, List.drop_length] at hlog
  obtain hsame : s.log = s'.log := Option.some.inj hlog
  have hkept (j : ℕ) (run : KernelRun) (hj : s'.runs j = some run) :
      s.runs j = some run ∧ a ≠ .crash j := by
    cases a with
    | crash i =>
      obtain ⟨hji, hold⟩ := run_of_update hruns hj
      exact ⟨hold, by simpa using Ne.symm hji⟩
    | step i m => exact absurd rfl (ha i m)
    | _ => exact ⟨(congrFun hruns j).symm.trans hj, by simp⟩
  apply h.frame _ _ hstatus
  · exact fun j stage hj => (hstages j stage hj).imp_right exitsOk_of_idle
  · exact fun j run hj => ⟨(hkept j run hj).1, fun stage => hcalls j stage (hkept j run hj).2⟩
  · exact ⟨⟨memory, hdriven.step ha hplan⟩, hsame ▸ h.integrity, hsame ▸ h.content⟩
  · rw [hsame]

/-- The kernel run of the call that drives the plan goes on, or a new one begins. -/
lemma running {st : RunState} {step : Step} (hi : s.plan.calls[i]? = some (.driving st step))
    (hsound : Sound x s') (hcalls : s'.plan.calls = s.plan.calls)
    (hruns : s'.runs = Function.update s.runs i (some run)) (hrun : RunOk s' run) :
    Sealed x s' := by
  have halone := h.alone hi rfl
  refine ⟨hsound, fun j stage hj => ?_, fun j run' hj => ?_⟩
  · rw [hcalls] at hj
    by_cases hji : j = i
    · obtain rfl : stage = .driving st step := by simpa [hji, hi] using hj.symm
      trivial
    · exact exitsOk_of_idle (halone j stage hji hj)
  · rw [hruns] at hj
    by_cases hji : j = i
    · obtain rfl : run = run' := by simpa [hji] using hj
      exact ⟨⟨st, step, by rw [hcalls, hji, hi]⟩, hrun⟩
    · rw [Function.update_of_ne hji] at hj
      exact absurd (h.run_alone halone hj) hji

/-- What became of the kernel run is known, and the call goes on with it. -/
lemma drive {st : RunState} {step : Step}
    {outcome : Except String (Option String)} (hi : s.plan.calls[i]? = some (.driving st step))
    (hdrive : x.drive s i outcome = some s') (hearned : ∀ text, outcome = .ok (some text) → ∀ var,
      Earned (ran s.log.events) (bindTo var (.stringValue text))) : Sealed x s' := by
  obtain ⟨stage, stage', joined, hmoved⟩ := moved_of_move hdrive
  obtain rfl : stage = .driving st step := Option.mem_unique hmoved.call hi
  have hturn : InTurn s.plan (.step i (.drive outcome s.plan.store.status)) := by
    intro loader hloading
    nomatch hi.symm.trans hloading
  refine h.moved hturn hmoved ?_
  rw [hmoved.ran_eq rfl]
  have hstage' := congrArg Prod.snd (Option.some.inj hmoved.step)
  match outcome with
  | .error e =>
    obtain rfl : Stage.failed e = stage' := hstage'
    trivial
  | .ok none =>
    obtain rfl : Stage.returned (.ok ()) = stage' := hstage'
    trivial
  | .ok (some text) =>
    obtain rfl : Stage.exiting st step _ none = stage' := hstage'
    exact fun _ => hearned text rfl _

section

variable {st : RunState} {step : Step} {run : KernelRun} {o : Kernel.Op}
  {k : o.Answer → Kernel.Live}

section

variable (hi : s.plan.calls[i]? = some (.driving st step))
    (hrun : s.runs i = some run)
include hi hrun

/-- A request of the kernel run is answered with `a`. What is left to show is about the log, the
status and the record of the run. -/
lemma answer (hlive : run.live = .ask o k) {a : o.Answer} (s₁ : PlanSession)
    (hfavours : run.progress.Favours o a) (hgo : (run.record.after o a).stopped = false)
    (hsound : Sound x s₁) (hcalls : s₁.plan.calls = s.plan.calls) (hruns : s₁.runs = s.runs)
    (hlogged : (run.record.after o a).appended <:+ ran s₁.log.events)
    (hstatus : ∀ status, (run.record.after o a).status = some status →
      s₁.plan.store.status = status) : Sealed x (s₁.setRun i (some (run.answered o a (k a)))) := by
  have hok := (h.runs i run hrun).2
  have hfavoured := hok.favoured
  rw [hlive] at hfavoured
  have hrun' : RunOk (s₁.setRun i (some (run.answered o a (k a)))) (run.answered o a (k a)) := by
    refine ⟨hfavoured.answered hfavours hgo, hlogged, hstatus, fun hsettled => ?_⟩
    obtain ⟨⟨_, hdone⟩, -⟩ := hok.settled hsettled
    nomatch hlive.symm.trans hdone
  have hruns' := congrArg (Function.update · i (some (run.answered o a (k a)))) hruns
  exact h.running hi ⟨hsound.driven, hsound.integrity, hsound.content⟩ hcalls hruns' hrun'

lemma answer_append {d : Kernel.Draft} {k : (Kernel.Op.append d).Answer → Kernel.Live}
    (hlive : run.live = .ask (.append d) k) {eventID : UUID} {log : Log SessionPayload}
    (hlog : s.log.append (carry .kernel (d.event eventID 0)) = some log) :
    let a : Except Kernel.AppendError (UUID × ℕ) := .ok (eventID, s.log.nextSeq d.sessionID)
    Sealed x ({ s with log }.setRun i (some (run.answered (.append d) a (k a)))) := by
  have hok := (h.runs i run hrun).2
  obtain ⟨-, hevents⟩ := Log.append_eq_some hlog
  intro a
  have hgo : (run.record.after (.append d) a).stopped = false := hok.favoured.unstopped
  apply h.answer hi hrun hlive { s with log } trivial hgo (h.append hlog) rfl rfl
  · -- the event ends up last in the record and last in the log
    show run.record.appended ++ [_] <:+ ran log.events
    rw [hevents, ran_concat_kernel rfl]
    obtain ⟨before, hbefore⟩ := hok.logged
    exact ⟨before, by rw [← List.append_assoc, hbefore]; rfl⟩
  · exact hok.status

lemma answered (hlive : run.live = .ask o k) {t : Kernel.Reply} {a : o.Answer} {s₁ : PlanSession}
    (hfavours : run.progress.Favours o a) (hhandle : s.handle o t = some (a, s₁)) :
    Sealed x (s₁.setRun i (some (run.answered o a (k a)))) := by
  have hok := (h.runs i run hrun).2
  have hsame {o : Kernel.Op} {k : o.Answer → Kernel.Live} (hlive : run.live = .ask o k)
      {a : o.Answer} (hfavours : run.progress.Favours o a)
      (hrecord : run.record.after o a = run.record) :
      Sealed x (s.setRun i (some (run.answered o a (k a)))) := by
    apply h.answer hi hrun hlive s hfavours _ h.toSound rfl rfl <;> rw [hrecord]
    · exact hok.logged
    · exact hok.status
    · exact hok.favoured.unstopped
  cases o with
  | append d =>
    obtain ⟨e, rfl, rfl⟩ | ⟨eventID, log, rfl, hlog, rfl⟩ := PlanSession.handle_append hhandle
    · exact hsame hlive hfavours rfl
    · exact h.answer_append hi hrun hlive hlog
  | setStatus sessionID status reason =>
    obtain ⟨rfl, rfl⟩ | ⟨e, rfl, rfl⟩ := PlanSession.handle_setStatus hhandle
    · have hstatus : ∀ status', some status = some status' → status = status' :=
        fun _ hmarked => Option.some.inj hmarked
      exact h.answer hi hrun hlive (s.setStatus status) hfavours hok.favoured.unstopped
        ⟨h.driven, h.integrity, h.content⟩ rfl rfl hok.logged hstatus
    · exact hsame hlive hfavours rfl
  | yield ev err => exact absurd rfl ((PlanSession.handle_eq (by exact id) hhandle).2 ev err)
  | _ =>
    obtain ⟨rfl, -⟩ := PlanSession.handle_eq (by exact id) hhandle
    exact hsame hlive hfavours rfl

lemma take {ev : Option (Event Kernel.Payload)} {k : (Kernel.Op.yield ev none).Answer → Kernel.Live}
    (hlive : run.live = .ask (.yield ev none) k) :
    Sealed x (s.setRun i (some (run.answered (.yield ev none) true (k true)))) := by
  have hok := (h.runs i run hrun).2
  exact h.answer hi hrun hlive s trivial rfl h.toSound rfl rfl hok.logged hok.status

end

lemma earned (hrun : s.runs i = some run) (hsettled : run.settled = true) (var : String) :
    Earned (ran s.log.events) (bindTo var (.stringValue (lastContentText s.log.events))) := by
  have hok := (h.runs i run hrun).2
  obtain ⟨⟨a, hdone⟩, hstatus⟩ := hok.settled hsettled
  have hfavoured := hok.favoured
  rw [hdone] at hfavoured
  obtain ⟨before, ev, happended, houtcome, hsuspended | ⟨⟨detail, htype, hpayload⟩, hcontent⟩⟩ :=
    hfavoured.outcome
  · exact absurd (hok.status _ hsuspended) hstatus
  obtain ⟨earlier, hlogged⟩ := hok.logged
  refine ⟨⟨ev, detail, ?_, htype, hpayload⟩, fun b hb => ?_⟩
  · rw [← hlogged, happended, ← List.append_assoc, List.filter_append]
    simp [houtcome]
  · have hvalue : b.2 = .stringValue (lastContentText s.log.events) := by
      unfold bindTo at hb
      split_ifs at hb
      · nomatch hb
      · rw [List.mem_singleton.1 hb]
    obtain ⟨e, he, htype⟩ := hcontent
    obtain ⟨e, he, htype, htext⟩ :=
      lastContentText_mem h.content ⟨e, hok.logged.subset he, htype⟩
    exact ⟨e, he, htype, hvalue.trans (congrArg Value.stringValue htext)⟩

omit h in
lemma run?_some (h : s.run? i = some run) :
    ∃ st step, s.plan.calls[i]? = some (.driving st step) ∧ s.runs i = some run := by
  unfold PlanSession.run? at h
  split at h
  next st step hi => exact ⟨st, step, hi, h⟩
  next => nomatch h

lemma continueRun (hi : s.plan.calls[i]? = some (.driving st step))
    (autonomyLevel modelID : String) :
    Sealed x (s.setRun i (some (x.continueRun s autonomyLevel modelID))) := by
  refine h.running hi ⟨h.driven, h.integrity, h.content⟩ rfl rfl ?_
  refine ⟨?_, List.nil_suffix, nofun, nofun⟩
  exact Kernel.Favoured.start x.kernel rfl x.tenantID x.sessionID _

lemma settle (hi : s.plan.calls[i]? = some (.driving st step))
    (hrun : s.runs i = some run) {a : Option (Unit × Kernel.RunState)} (hdone : run.live = .done a)
    (hstatus : s.plan.store.status ≠ .suspended) :
    Sealed x (s.setRun i (some { run with settled := true })) := by
  have hok := (h.runs i run hrun).2
  refine h.running hi ⟨h.driven, h.integrity, h.content⟩ rfl rfl ?_
  exact ⟨hok.favoured, hok.logged, hok.status, fun _ => ⟨⟨a, hdone⟩, hstatus⟩⟩

/-- While no call drives the plan, none is in a kernel run. -/
lemma no_run (hidle : s.Unattended) (j : ℕ) : s.runs j = none := by
  cases hj : s.runs j with
  | none => rfl
  | some run =>
    obtain ⟨⟨st, step, hcall⟩, -⟩ := h.runs j run hj
    nomatch hidle _ (List.mem_of_getElem? hcall)

lemma otherAppend (hidle : s.Unattended) {e : Event Kernel.Payload}
    {log : Log SessionPayload} (hlog : s.log.append (carry .kernel e) = some log) :
    Sealed x { s with log } := by
  refine ⟨h.append hlog, fun j stage hj => ?_, fun j run hj => ?_⟩
  · exact exitsOk_of_idle (hidle stage (List.mem_of_getElem? hj))
  · nomatch (h.no_run hidle j).symm.trans hj

lemma otherStatus (hidle : s.Unattended) (status : SessionStatus) :
    Sealed x (s.setStatus status) :=
  ⟨⟨h.driven, h.integrity, h.content⟩, h.stages,
    fun j _ hj => nomatch (h.no_run hidle j).symm.trans hj⟩

/-- A step of a call other than the end of a kernel run. -/
lemma move_step (hturn : InTurn s.plan (.step i m)) (hgate : AtGate x.toExecutor s.plan (.step i m))
    (hm : ∀ outcome status, m ≠ .drive outcome status)
    (hmove : x.move s (.step i m) = some s') : Sealed x s' := by
  obtain ⟨stage, stage', joined, hmoved⟩ := moved_of_move hmove
  refine h.moved hturn hmoved ?_
  refine step_exitsOk hm (h.stages i stage hmoved.call) (fun loader hloading => ?_) hmoved.step
  -- gates and fan-outs are not resolved at an agent step
  refine exitsOk_resumeWith fun hloader => ?_
  have hcall := hmoved.call
  rw [hloading] at hcall
  unfold AtGate at hgate
  dsimp only at hgate
  rw [hcall] at hgate
  cases loader with
  | resume => exact absurd rfl hloader
  | resumeGate | resolveFanout => exact hgate

end

lemma step {a : SessionAction} (hsteady : Steady x s a)
    (hst : (agentRuns x).step s a = some s') : Sealed x s' := by
  cases a with try dsimp only [agentRuns] at hst
  | plan a =>
    obtain ⟨hturn, hgate⟩ := hsteady
    cases a with
    | step i m =>
      cases m with
      | drive outcome status => nomatch hst
      | _ => exact h.move_step hturn hgate nofun hst
    | _ => exact h.move_other (by simp) hst
  | continueRun i autonomyLevel modelID =>
    split at hst
    next st step hi hnone =>
      cases hst
      exact h.continueRun hi autonomyLevel modelID
    next => nomatch hst
  | answer i t =>
    unfold Steady PlanSession.Favours at hsteady
    dsimp only at hsteady
    split at hst
    · nomatch hst
    next run hrun? =>
      obtain ⟨st, step, hi, hrun⟩ := run?_some hrun?
      rw [hrun?] at hsteady
      dsimp only at hsteady
      split at hst
      · nomatch hst
      next o k hlive =>
        obtain ⟨⟨a, s₁⟩, hhandle, rfl⟩ := Option.map_eq_some_iff.1 hst
        rw [hlive] at hsteady
        dsimp only at hsteady
        rw [hhandle] at hsteady
        exact h.answered hi hrun hlive hsteady hhandle
  | take i =>
    split at hst
    · nomatch hst
    next run hrun? =>
      obtain ⟨st, step, hi, hrun⟩ := run?_some hrun?
      split at hst
      next ev k hlive =>
        cases hst
        exact h.take hi hrun hlive
      · exact h.drive hi hst fun _ herror => nomatch herror
      · nomatch hst
  | readStatus i =>
    split at hst
    · nomatch hst
    next run hrun? =>
      obtain ⟨st, step, hi, hrun⟩ := run?_some hrun?
      split at hst
      next a hdone =>
        split_ifs at hst with hstatus
        · exact h.drive hi hst fun _ hnone => nomatch hnone
        · cases hst
          exact h.settle hi hrun hdone hstatus
      · nomatch hst
  | readContent i =>
    split at hst
    · nomatch hst
    next run hrun? =>
      obtain ⟨st, step, hi, hrun⟩ := run?_some hrun?
      split_ifs at hst with hsettled
      refine h.drive hi hst fun text htext var => ?_
      obtain rfl : lastContentText s.log.events = text := by simpa using htext
      exact h.earned hrun hsettled var
  | otherAppend e =>
    obtain ⟨log, hlog, rfl⟩ := Option.map_eq_some_iff.1 hst
    exact h.otherAppend hsteady hlog
  | otherStatus status =>
    cases hst
    exact h.otherStatus hsteady status

end Sealed

/-- In every run in which the calls come one after another, gates are resolved at gates, kernel runs
are answered favourably and nobody else writes to the session meanwhile, an agent step is exited
only after its kernel run has completed, with content that was appended since the entry of the
step. -/
theorem exits_earned {x : AgentExecutor} {s : PlanSession}
    (h : (agentRuns x).ReachesBy (Steady x) PlanSession.init s) :
    Integrity x.toExecutor s.log.events :=
  (h.invariant (I := Sealed x) Sealed.init fun _ _ _ hsealed hsteady hst =>
    hsealed.step hsteady hst).integrity

instance (s : PlanSession) (i : ℕ) (t : Kernel.Reply) : Decidable (s.Favours i t) := by
  unfold PlanSession.Favours
  split
  · exact .isTrue trivial
  · split
    · exact .isTrue trivial
    · split
      · exact .isTrue trivial
      · infer_instance

instance (x : Executor) (sys : System) (a : Action) : Decidable (AtGate x sys a) := by
  match a with
  | .step i _ =>
    dsimp only [AtGate]
    split <;> infer_instance
  | .childEnds _ | .onChildTerminal _ | .resume | .resumeGate _ | .crash _ => exact .isTrue trivial

instance (x : AgentExecutor) (s : PlanSession) (a : SessionAction) : Decidable (Steady x s a) := by
  unfold Steady PlanSession.Unattended
  split <;> infer_instance

def SessionPayload.exit : SessionPayload → Option (String × List (String × Value))
  | .plan (.stepExited stepID bindings) => some (stepID, bindings)
  | _ => none

lemma SessionPayload.exit_some {payload : SessionPayload} {stepID : String}
    {bindings : List (String × Value)} (h : payload.exit = some (stepID, bindings)) :
    payload = .plan (.stepExited stepID bindings) := by
  unfold SessionPayload.exit at h
  split at h
  · cases h
    rfl
  · nomatch h

def ExitsAfter (history : List (Event SessionPayload)) (stepID : String)
    (bindings : List (String × Value)) (outcome : Kernel.Payload) : Prop :=
  history.getLast?.bind (·.payload.exit) = some (stepID, bindings) ∧
    ((ran history.dropLast).filter fun e => Kernel.isOutcome e.type).getLast?.map
      Event.payload = some outcome

instance (history : List (Event SessionPayload)) (stepID : String)
    (bindings : List (String × Value)) (outcome : Kernel.Payload) :
    Decidable (ExitsAfter history stepID bindings outcome) :=
  inferInstanceAs (Decidable (_ ∧ _))

def oneQuestion : AgentExecutor where
  plan :=
    { startStep := "ask"
      steps := [{ id := "ask", kind := .agent
                  agent := some { input := "How many?", outputVar := "answer" } }] }
  sessionID := 1
  tenantID := 2

/-- The step is entered and its kernel run is begun. -/
def asks : List SessionAction :=
  [.plan (.step 0 (.commit [10])), .plan (.step 0 (.commit [11])), .plan (.step 0 (.commit [12])),
    .continueRun 0 "" "", .answer 0 (.wrote none)]

/-- The run ends, and the step is exited. -/
def ends (eventID : UUID) : List SessionAction :=
  [.answer 0 (.appended eventID), .answer 0 (.wrote none), .answer 0 (.wrote none), .take 0,
    .readStatus 0, .readContent 0, .plan (.step 0 (.commit [20]))]

/-- The run replies, and its reply is what the step gives. -/
theorem replied_earned : ∃ s,
    (agentRuns oneQuestion).ReachesBy (Steady oneQuestion) PlanSession.init s ∧
      ExitsAfter s.log.events "ask" [("answer", .stringValue "Three.")] (.terminal .completed "") ∧
      Integrity oneQuestion.toExecutor s.log.events := by
  refine Machine.ReachesBy.exists_of_runBy_imp
    (asks ++ [.answer 0 .unmetered, .answer 0 (.appended 13), .take 0,
      .answer 0 (.streamed (.ok ([.content "Three.", .done .stop ""], none))),
      .answer 0 (.wrote none), .answer 0 (.appended 14), .take 0] ++ ends 15)
    (fun s => ExitsAfter s.log.events "ask" [("answer", .stringValue "Three.")]
      (.terminal .completed "")) ?_ fun s hreaches hexits => ⟨hexits, exits_earned hreaches⟩
  decide +kernel

/-- The budget gate refuses the turn, the run fails, and the step is exited with no text. -/
theorem refusedTurn_exits : ∃ s, (agentRuns oneQuestion).Reaches PlanSession.init s ∧
    ExitsAfter s.log.events "ask" [("answer", .stringValue "")] (.terminal .costExhausted "") ∧
    ¬ Integrity oneQuestion.toExecutor s.log.events := by
  refine Machine.Reaches.exists_of_run_imp
    (asks ++ [.answer 0 (.reserved
        { id := 0, tenantID := 0, sessionID := 0, modelID := ""
          decision := { kind := .refuseCeiling, reason := "", reserved := { currency := "USD" } } }
        (some "budget exhausted")), .answer 0 (.appended 13), .take 0] ++ ends 15)
    (fun s => ExitsAfter s.log.events "ask" [("answer", .stringValue "")]
      (.terminal .costExhausted "")) ?_ fun s _ hexits => ⟨hexits, fun hintegrity => ?_⟩
  · decide +kernel
  obtain ⟨hlast, houtcome⟩ := hexits
  obtain ⟨e, he, hexit⟩ := Option.bind_eq_some_iff.1 hlast
  have hpayload := SessionPayload.exit_some hexit
  have hsplit := (List.dropLast_append_getLast? e he).symm
  obtain ⟨⟨ev, detail, hev, -, hcompleted⟩, -⟩ :=
    hintegrity _ e [] "ask" _ _ hsplit hpayload rfl rfl
  -- the last outcome of the run is not that it completed
  rw [hev] at houtcome
  nomatch hcompleted.symm.trans (Option.some.inj houtcome)

end NexusAgent.Plans
