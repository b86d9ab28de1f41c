import NexusAgent.Plan.Executor

/-!
# The join of a fan-out

A delegate_fanout step spawns its children one by one and then suspends; each child that
returns asks whether its cohort is complete, and the last one exits the step. The spawns, the
suspend, the returns and the exit are separate transactions. `ResolveFanout` asks only whether
the members that exist are resolved and exits whatever step with children is in progress, so
that a child that returns before its siblings are spawned exits the step early
(`earlyReturn_exits`), two children that return together exit it twice, and a late one exits a
later step.

- `StoreOk`, `StageOk`: what the rows of a session and the call in progress satisfy when the
  result of a child is committed only after the suspend of its fan-out and while no other call
  is in progress.
-/

namespace NexusAgent.Plans

open EventLog

/-! ### The property -/

def Step.children (step : Step) : ℕ := (step.delegateFanout.getD {}).childCount.toNat

def Closed (s : Store) (fanoutID : UUID) : Prop :=
  ∀ d ∈ s.delegations, d.fanoutID = fanoutID → d.status ≠ .pending

/-- An exit of a step by the fan-out that the entry created, with all children spawned and
resolved. -/
def Joined (s : Store) (e : Exit) : Prop :=
  ∃ f ∈ s.fanouts, f.entry = e.entry ∧ e.via = some f.fanoutID ∧
    (s.members f.fanoutID).length = e.step.children ∧ Closed s f.fanoutID

def Store.joins (s : Store) : List (Option UUID) :=
  (s.exits.filter (·.step.kind = .delegateFanout)).map (·.entry)

/-- Every entry of a delegate_fanout step is exited at most once, after all its children have
been spawned and resolved, and by the fan-out that it created. -/
structure JoinsOnce (s : Store) : Prop where
  once : s.joins.Nodup
  joined : ∀ e ∈ s.exits, e.step.kind = .delegateFanout → Joined s e

/-! ### The condition -/

/-- A call that can change the run of the plan: it has committed the result of a child or
loaded the state, and has not returned. -/
def Stage.active : Stage → Bool
  | .checking _ => false
  | .finalizing _ => false
  | .loading .resume => false
  | .loading (.resumeGate _) => false
  | .returned _ => false
  | _ => true

/-- No call but the `i`-th is in progress. -/
def Alone (s : System) (i : ℕ) : Prop :=
  ∀ j stage, j ≠ i → s.calls[j]? = some stage → stage.active = false

def NotFanout (x : Executor) (s : Store) : Prop :=
  ∀ step, x.plan.stepByID s.state.currentStep = some step → step.kind ≠ .delegateFanout

/-- The condition on the next step of the `i`-th call: the result of a child is committed while
its delegation is pending, after the suspend of its fan-out, and while no other call is in
progress; `Resume` and `ResumeGate` load the state while no other call is in progress and the
step in progress is not a delegate_fanout step. -/
def Stage.Admitted (x : Executor) (s : System) (i : ℕ) : Stage → Prop
  | .finalizing pending =>
    (∃ d ∈ s.store.delegations, d.childSessionID = pending.childSessionID ∧
      d.fanoutID = pending.fanoutID ∧ d.status = .pending) ∧
    (∃ f ∈ s.store.fanouts, f.fanoutID = pending.fanoutID ∧ f.suspended) ∧ Alone s i
  | .loading .resume => Alone s i ∧ NotFanout x s.store
  | .loading (.resumeGate _) => Alone s i ∧ NotFanout x s.store
  | _ => True

def Admitted (x : Executor) (s : System) : Action → Prop
  | .step i _ => ∀ stage, s.calls[i]? = some stage → stage.Admitted x s i
  | _ => True

instance (s : System) (i : ℕ) : Decidable (Alone s i) :=
  inferInstanceAs (Decidable (OthersIdle Stage.active s i))

instance (x : Executor) (s : Store) : Decidable (NotFanout x s) :=
  decidable_of_iff (∀ step ∈ x.plan.stepByID s.state.currentStep, step.kind ≠ .delegateFanout)
    Iff.rfl

instance (x : Executor) (s : System) (i : ℕ) (stage : Stage) :
    Decidable (stage.Admitted x s i) := by
  unfold Stage.Admitted
  split <;> infer_instance

instance (x : Executor) (s : System) (a : Action) : Decidable (Admitted x s a) :=
  match a with
  | .step i _ => decidable_of_iff (∀ stage ∈ s.calls[i]?, stage.Admitted x s i) Iff.rfl
  | .childEnds _ | .onChildTerminal _ | .resume | .resumeGate _ | .crash _ => .isTrue trivial

/-! ### The invariant -/

/-- No suspended fan-out waits for a child. -/
def AllClosed (s : Store) : Prop := ∀ f ∈ s.fanouts, f.suspended → Closed s f.fanoutID

/-- The entry of a fan-out is in progress. -/
structure Waiting (x : Executor) (s : Store) (f : Fanout) : Prop where
  entry : s.state.entry = f.entry
  step : s.state.currentStep = f.step.id
  unexited : f.entry ∉ s.joins

def Logged (s : Store) (entry : Option UUID) : Prop :=
  ∃ id ∈ s.log.events.map Event.eventID, entry = some id

structure StoreOk (x : Executor) (s : Store) : Prop where
  ids : (s.fanouts.map (·.fanoutID)).Nodup
  entries : (s.fanouts.map (·.entry)).Nodup
  logged : ∀ f ∈ s.fanouts, Logged s f.entry
  children : (s.delegations.map (·.childSessionID)).Nodup
  belongs : ∀ d ∈ s.delegations, ∃ f ∈ s.fanouts, f.fanoutID = d.fanoutID
  declared : ∀ f ∈ s.fanouts, x.plan.stepByID f.step.id = some f.step ∧
    f.step.kind = .delegateFanout
  spawned : ∀ f ∈ s.fanouts, f.suspended → (s.members f.fanoutID).length = f.step.children
  unresolved : ∀ f ∈ s.fanouts, f.suspended = false →
    ∀ d ∈ s.delegations, d.fanoutID = f.fanoutID → d.status = .pending
  /-- A suspended fan-out with a pending child is the one in progress. -/
  waiting : ∀ f ∈ s.fanouts, f.suspended → ¬ Closed s f.fanoutID → Waiting x s f
  joins : JoinsOnce s

/-- The fan-out that a call is about. -/
def FanoutOk (s : Store) (fanoutID : UUID) (P : Fanout → Prop) : Prop :=
  ∃ f ∈ s.fanouts, f.fanoutID = fanoutID ∧ P f

/-- What a call that resolves a fan-out knows when it is about to exit the step. -/
def Exits (x : Executor) (s : Store) (st : RunState) (step : Step) : Option UUID → Prop
  | none => step.kind ≠ .delegateFanout
  | some fanoutID => FanoutOk s fanoutID fun f =>
      f.suspended ∧ Waiting x s f ∧ f.entry = st.entry ∧ f.step = step

def StageOk (x : Executor) (s : Store) : Stage → Prop
  | .starting => AllClosed s
  | .entering _ step => AllClosed s ∧ x.plan.stepByID step.id = some step
  | .messaging _ step => AllClosed s ∧ step.kind ≠ .delegateFanout
  | .driving _ step => AllClosed s ∧ step.kind ≠ .delegateFanout
  | .asking _ _ => AllClosed s
  | .reserving st step config => AllClosed s ∧ x.plan.stepByID step.id = some step ∧
      step.kind = .delegateFanout ∧ config = step.delegateFanout.getD {} ∧
      s.state.entry = st.entry ∧ s.state.currentStep = step.id ∧ Logged s st.entry ∧
      ∀ f ∈ s.fanouts, f.entry ≠ st.entry
  | .spawning _ _ config fanoutID spawned => AllClosed s ∧ FanoutOk s fanoutID fun f =>
      f.suspended = false ∧ Waiting x s f ∧ config = f.step.delegateFanout.getD {} ∧
      (s.members fanoutID).length = spawned ∧ (spawned : ℤ) < config.childCount
  | .suspending none => AllClosed s
  | .suspending (some fanoutID) => AllClosed s ∧ FanoutOk s fanoutID fun f =>
      Waiting x s f ∧ (s.members fanoutID).length = f.step.children
  | .exiting st step _ via => AllClosed s ∧ Exits x s st step via
  | .resuming st step _ via => AllClosed s ∧ Exits x s st step via
  | .moving _ _ _ _ => AllClosed s
  | .completing => AllClosed s
  | .listing fanoutID => FanoutOk s fanoutID fun f => f.suspended ∧ Waiting x s f ∧
      ∀ g ∈ s.fanouts, g.suspended → g.fanoutID ≠ fanoutID → Closed s g.fanoutID
  | .loading (.resolveFanout fanoutID _) => AllClosed s ∧ FanoutOk s fanoutID fun f =>
      f.suspended ∧ Waiting x s f
  | _ => True

structure Inv (x : Executor) (s : System) : Prop where
  store : StoreOk x s.store
  /-- At most one call is in progress, and it is as it should be. -/
  calls : ∀ i stage, s.calls[i]? = some stage → stage.active = true →
    StageOk x s.store stage ∧ Alone s i

/-! ### What events and statuses do not touch -/

variable {x : Executor} {s s' : Store}

/-- A store with the rows and the record of another, and possibly more events. -/
inductive Frame (s : Store) : Store → Prop
  | intro (log : Log Payload) (status : SessionStatus) (ended : List UUID)
      (logged : s.log.events.map Event.eventID ⊆ log.events.map Event.eventID) :
      Frame s { s with log, status, ended }

section

variable (h : Frame s s')
include h

lemma Frame.fanouts : s'.fanouts = s.fanouts := by
  obtain ⟨log, status, ended, hlogged⟩ := h
  rfl

lemma Frame.joins : s'.joins = s.joins := by
  obtain ⟨log, status, ended, hlogged⟩ := h
  rfl

lemma Frame.allClosed (hs : AllClosed s) : AllClosed s' := by
  obtain ⟨log, status, ended, hlogged⟩ := h
  exact hs

lemma Frame.logged {entry : Option UUID} (hs : Logged s entry) :
    Logged s' entry := by
  obtain ⟨log, status, ended, hlogged⟩ := h
  obtain ⟨id, hmem, rfl⟩ := hs
  exact ⟨id, hlogged hmem, rfl⟩

end

variable {f : Fanout} {fanoutID id : UUID} {stage stage' : Stage} {st : RunState} {d : Delegation}
  {sys : System} {i : ℕ}

lemma Frame.waiting (h : Frame s s') (hstate : s'.state = s.state) (hf : Waiting x s f) :
    Waiting x s' f := by
  obtain ⟨log, status, ended, hlogged⟩ := h
  exact ⟨hstate ▸ hf.entry, hstate ▸ hf.step, hf.unexited⟩

lemma FanoutOk.imp {P P' : Fanout → Prop} (hs : FanoutOk s fanoutID P)
    (hP : ∀ f, P f → P' f) : FanoutOk s fanoutID P' := by
  obtain ⟨f, hf, hid, hf'⟩ := hs
  exact ⟨f, hf, hid, hP f hf'⟩

/-- A call is not concerned by what happens outside of the rows it speaks about. -/
lemma Frame.stageOk (h : Frame s s') (hstate : s'.state = s.state) (hs : StageOk x s stage) :
    StageOk x s' stage := by
  have hwaiting : ∀ {f : Fanout}, Waiting x s f → Waiting x s' f := h.waiting hstate
  have hentry : ∀ {entry : Option UUID}, Logged s entry → Logged s' entry := h.logged
  obtain ⟨log, status, ended, -⟩ := h
  have hexits : ∀ {st : RunState} {step : Step} {via : Option UUID}, Exits x s st step via →
      Exits x { s with log, status, ended } st step via := by
    intro st step via hexits
    cases via with
    | none => exact hexits
    | some fanoutID => exact hexits.imp fun f hf => ⟨hf.1, hwaiting hf.2.1, hf.2.2⟩
  cases stage with
  | reserving st step config =>
    obtain ⟨hclosed, hdeclared, hkind, hconfig, hat, hstep, hlogged, hnew⟩ := hs
    exact ⟨hclosed, hdeclared, hkind, hconfig, hstate ▸ hat, hstate ▸ hstep, hentry hlogged, hnew⟩
  | spawning st step config fanoutID spawned =>
    exact ⟨hs.1, hs.2.imp fun f hf => ⟨hf.1, hwaiting hf.2.1, hf.2.2⟩⟩
  | suspending fanoutID =>
    cases fanoutID with
    | none => exact hs
    | some fanoutID => exact ⟨hs.1, hs.2.imp fun f hf => ⟨hwaiting hf.1, hf.2⟩⟩
  | exiting | resuming => exact ⟨hs.1, hexits hs.2⟩
  | listing fanoutID => exact hs.imp fun f hf => ⟨hf.1, hwaiting hf.2.1, hf.2.2⟩
  | loading loader =>
    cases loader with
    | resolveFanout fanoutID members =>
      exact ⟨hs.1, hs.2.imp fun f hf => ⟨hf.1, hwaiting hf.2⟩⟩
    | _ => trivial
  | _ => exact hs

/-- A store whose run stands where it stood, or with no fan-out to wait for, stays as it
should be. -/
lemma StoreOk.frame (hs : StoreOk x s) (h : Frame s s')
    (hstate : AllClosed s ∨ s'.state = s.state) : StoreOk x s' := by
  have hentry : ∀ {entry : Option UUID}, Logged s entry → Logged s' entry := h.logged
  have hwaiting : ∀ f ∈ s.fanouts, f.suspended → ¬ Closed s f.fanoutID → Waiting x s' f := by
    intro f hf hsuspended hopen
    rcases hstate with hclosed | hstate
    · exact absurd (hclosed f hf hsuspended) hopen
    · exact h.waiting hstate (hs.waiting f hf hsuspended hopen)
  obtain ⟨log, status, ended, -⟩ := h
  exact ⟨hs.ids, hs.entries, fun f hf => hentry (hs.logged f hf), hs.children, hs.belongs,
    hs.declared, hs.spawned, hs.unresolved, hwaiting, ⟨hs.joins.once, hs.joins.joined⟩⟩

lemma Frame.of_append {payload : Payload} (h : s.append x id payload = some s') :
    Frame s s' := by
  obtain ⟨log, e, rfl, hevents, -⟩ := append_some h
  refine .intro log s.status s.ended ?_
  rw [hevents, List.map_append]
  exact List.subset_append_left _ _

/-- A status is not part of what the invariant speaks about. -/
lemma Frame.status (s : Store) (status : SessionStatus) : Frame s { s with status } :=
  .intro s.log status s.ended (List.Subset.refl _)

/-! ### Facts about the rows -/

lemma StoreOk.eq_of_id (hs : StoreOk x s) {g : Fanout} (hf : f ∈ s.fanouts)
    (hg : g ∈ s.fanouts) (h : f.fanoutID = g.fanoutID) : f = g :=
  List.inj_on_of_nodup_map hs.ids hf hg h

lemma StoreOk.exists_of_mem_joins (hs : StoreOk x s) {entry : Option UUID}
    (h : entry ∈ s.joins) : ∃ f ∈ s.fanouts, f.entry = entry := by
  obtain ⟨e, he, rfl⟩ := List.mem_map.1 h
  obtain ⟨hmem, hkind⟩ := List.mem_filter.1 he
  obtain ⟨f, hf, hentry, -⟩ := hs.joins.joined e hmem (of_decide_eq_true hkind)
  exact ⟨f, hf, hentry⟩

/-- Outside of delegate_fanout steps no fan-out is waited for. -/
lemma StoreOk.allClosed (hs : StoreOk x s) (h : NotFanout x s) : AllClosed s := by
  intro f hf hsuspended
  by_contra hopen
  obtain ⟨-, hstep, -⟩ := hs.waiting f hf hsuspended hopen
  obtain ⟨hdeclared, hkind⟩ := hs.declared f hf
  exact h f.step (by rw [hstep]; exact hdeclared) hkind

/-! ### What a call computes between transactions -/

lemma enter_ok (hclosed : AllClosed s) (st : RunState) (stepID : String) :
    StageOk x s (enter x st stepID) := by
  unfold enter
  split_ifs
  · trivial
  · cases hstep : x.plan.stepByID stepID with
    | none => trivial
    | some step =>
      dsimp only
      split_ifs
      · trivial
      · refine ⟨hclosed, ?_⟩
        rw [stepByID_id hstep]
        exact hstep

lemma leave_ok (hclosed : AllClosed s) (st : RunState) (step : Step)
    (bindings : List (String × Value)) : StageOk x s (leave st step bindings) := by
  simp only [leave]
  split
  · trivial
  · exact hclosed

lemma dispatch_ok (hclosed : AllClosed s) {step : Step}
    (hdeclared : x.plan.stepByID step.id = some step) (hentry : s.state.entry = st.entry)
    (hstep : s.state.currentStep = step.id) (hlogged : Logged s st.entry)
    (hnew : ∀ f ∈ s.fanouts, f.entry ≠ st.entry) : StageOk x s (dispatch x st step) := by
  have hgate : ∀ (wired : Bool) (text : String),
      StageOk x s (if !wired then .failed text else .asking st step) := by
    intro wired text
    split_ifs
    · trivial
    · exact hclosed
  unfold dispatch
  cases hkind : step.kind with
  | agent => exact ⟨hclosed, by rw [hkind]; decide⟩
  | condition | loop => exact ⟨hclosed, by rw [Exits, hkind]; decide⟩
  | delegateFanout =>
    dsimp only
    split_ifs
    · trivial
    · cases parseCeiling (step.delegateFanout.getD {}).perChildCeiling with
      | error e => trivial
      | ok ceiling => exact ⟨hclosed, hdeclared, hkind, rfl, hentry, hstep, hlogged, hnew⟩
  | approvalGate | preauth | inputRequest => exact hgate _ _
  | other text => trivial

lemma spawnNext_ok (hclosed : AllClosed s) (st : RunState) (step : Step) (hf : f ∈ s.fanouts)
    (hsuspended : f.suspended = false) (hwaiting : Waiting x s f)
    {spawned : ℕ} (hcount : (s.members f.fanoutID).length = spawned)
    (hle : spawned ≤ f.step.children) :
    StageOk x s (spawnNext st step (f.step.delegateFanout.getD {}) f.fanoutID spawned) := by
  unfold spawnNext
  split_ifs with hlt
  · exact ⟨hclosed, f, hf, rfl, hsuspended, hwaiting, rfl, hcount, hlt⟩
  · refine ⟨hclosed, f, hf, rfl, hwaiting, ?_⟩
    unfold Step.children at hle ⊢
    omega

/-- `ResolveFanout` goes on when no member is pending. -/
lemma list_ok (h : StageOk x s (.listing fanoutID)) :
    StageOk x s (list s fanoutID) := by
  obtain ⟨f, hf, hid, hsuspended, hwaiting, hothers⟩ := h
  unfold list
  dsimp only
  split_ifs with hempty hany
  · trivial
  · trivial
  · refine ⟨fun g hg hsuspended' => ?_, f, hf, hid, hsuspended, hwaiting⟩
    by_cases hgid : g.fanoutID = fanoutID
    · intro d hd hdid hpending
      refine hany (List.any_eq_true.2 ⟨d, ?_, decide_eq_true hpending⟩)
      exact List.mem_filter.2 ⟨hd, decide_eq_true (hdid.trans hgid)⟩
    · exact hothers g hg hsuspended' hgid

/-- `ResolveFanout` finds the entry of its fan-out in progress. -/
lemma resumeFanout_ok (hs : StoreOk x s) {members : List Delegation}
    (h : StageOk x s (.loading (.resolveFanout fanoutID members))) :
    StageOk x s (resumeFanout x s.state fanoutID members) := by
  obtain ⟨hclosed, f, hf, hid, hsuspended, hwaiting⟩ := h
  unfold resumeFanout
  split_ifs
  · trivial
  · rw [hwaiting.step, (hs.declared f hf).1]
    cases hconfig : f.step.delegateFanout with
    | none =>
      simp only [Option.bind_some, hconfig, Option.map_none]
      trivial
    | some config =>
      simp only [Option.bind_some, hconfig, Option.map_some]
      exact ⟨hclosed, f, hf, hid, hsuspended, hwaiting, hwaiting.entry.symm, rfl⟩

/-- `Resume` and `ResumeGate` find a step in progress that is not a delegate_fanout step. -/
lemma resumeWith_ok (hs : StoreOk x s) (hnot : NotFanout x s) (loader : Loader)
    (h : ∀ fanoutID members, loader ≠ .resolveFanout fanoutID members) :
    StageOk x s (resumeWith x s.state loader) := by
  have hclosed := hs.allClosed hnot
  cases loader with
  | resolveFanout fanoutID members => exact absurd rfl (h fanoutID members)
  | resume =>
    simp only [resumeWith, resumeAgent]
    split_ifs
    · trivial
    · cases hstep : x.plan.stepByID s.state.currentStep with
      | none => trivial
      | some step =>
        dsimp only
        split_ifs
        · exact ⟨hclosed, hnot step hstep⟩
        · trivial
  | resumeGate value =>
    simp only [resumeWith, resumeGate]
    split_ifs
    · trivial
    · cases hstep : x.plan.stepByID s.state.currentStep with
      | none => trivial
      | some step => exact ⟨hclosed, hnot step hstep⟩

/-! ### Transactions -/

/-- Entering a step: the log stands at the new entry. -/
lemma commit_entering (hs : StoreOk x s) {step : Step} (hstage : StageOk x s (.entering st step))
    (h : s.append x id (.stepEntered step.id) = some s') :
    StoreOk x s' ∧ StageOk x s' (dispatch x (st.enter step.id id) step) := by
  obtain ⟨hclosed, hdeclared⟩ := hstage
  have hframe := Frame.of_append h
  obtain ⟨e, hid, hpayload, hstate⟩ := state_append h
  obtain ⟨log, e', hs', hevents, hid', -, hnew⟩ := append_some h
  have hs'' := hs.frame hframe (.inl hclosed)
  have hreplay : s'.state = s.state.enter step.id id := by
    rw [hstate, RunState.replay, hpayload, hid]
  refine ⟨hs'', dispatch_ok (hframe.allClosed hclosed) hdeclared ?_ ?_ ?_ fun f hf => ?_⟩
  · rw [hreplay]
    rfl
  · rw [hreplay]
    rfl
  · refine ⟨id, ?_, rfl⟩
    rw [hs', show ({ s with log := log } : Store).log.events = log.events from rfl, hevents,
      List.map_append]
    exact List.mem_append_right _ (by rw [List.map_singleton, hid']; simp)
  · -- an entry of an earlier fan-out was in the log before
    rw [hframe.fanouts] at hf
    obtain ⟨id', hmem, hentry⟩ := hs.logged f hf
    rw [hentry]
    rintro heq
    obtain rfl : id' = id := Option.some.inj heq
    exact hnew hmem

lemma Joined.mono {e : Exit} (h : Joined s e) (hf : ∀ f ∈ s.fanouts, ∃ f' ∈ s'.fanouts,
      f'.fanoutID = f.fanoutID ∧ f'.entry = f.entry)
    (hm : ∀ f ∈ s.fanouts, f.entry = e.entry →
      (s'.members f.fanoutID).length = (s.members f.fanoutID).length ∧
        (Closed s f.fanoutID → Closed s' f.fanoutID)) : Joined s' e := by
  obtain ⟨f, hmem, hentry, hvia, hcount, hclosed⟩ := h
  obtain ⟨f', hmem', hid, hentry'⟩ := hf f hmem
  obtain ⟨hlength, hkept⟩ := hm f hmem hentry
  refine ⟨f', hmem', hentry'.trans hentry, by rw [hvia, hid], ?_, ?_⟩
  · rw [hid, hlength, hcount]
  · rw [hid]
    exact hkept hclosed

/-- A store with one more fan-out, not suspended yet. -/
def Store.reserved (s : Store) (f : Fanout) : Store := { s with fanouts := s.fanouts ++ [f] }

/-- A fan-out that is not suspended is waited for by nobody. -/
lemma allClosed_reserved (hclosed : AllClosed s) (hf : f.suspended = false) :
    AllClosed (s.reserved f) := by
  refine List.forall_mem_snoc hclosed fun hsuspended => ?_
  nomatch hf.symm.trans hsuspended

/-- A new fan-out of an entry that has none, without children. -/
lemma StoreOk.reserved (hs : StoreOk x s) (hclosed : AllClosed s)
    (hnew : f.fanoutID ∉ s.fanouts.map (·.fanoutID)) (hfresh : ∀ g ∈ s.fanouts, g.entry ≠ f.entry)
    (hlogged : Logged s f.entry) (hsuspended : f.suspended = false)
    (hdeclared : x.plan.stepByID f.step.id = some f.step ∧ f.step.kind = .delegateFanout) :
    StoreOk x (s.reserved f) where
  ids := by simpa [Store.reserved, List.nodup_append, hs.ids] using hnew
  entries := by simpa [Store.reserved, List.nodup_append, hs.entries] using hfresh
  logged := List.forall_mem_snoc hs.logged hlogged
  children := hs.children
  belongs d hd := by
    obtain ⟨g, hg, hgid⟩ := hs.belongs d hd
    exact ⟨g, List.mem_append_left _ hg, hgid⟩
  declared := List.forall_mem_snoc hs.declared hdeclared
  spawned := List.forall_mem_snoc hs.spawned fun hf => nomatch hsuspended.symm.trans hf
  unresolved := by
    refine List.forall_mem_snoc hs.unresolved ?_
    -- no delegation belongs to a fan-out that was not there
    intro _ d hd hdid
    obtain ⟨g, hg, hid⟩ := hs.belongs d hd
    exact absurd (List.mem_map.2 ⟨g, hg, hid.trans hdid⟩) hnew
  waiting g hg hgsuspended hopen :=
    absurd (allClosed_reserved hclosed hsuspended g hg hgsuspended) hopen
  joins.once := hs.joins.once
  joins.joined e he hkind := (hs.joins.joined e he hkind).mono
    (fun g hg => ⟨g, List.mem_append_left _ hg, rfl, rfl⟩) fun _ _ _ => ⟨rfl, fun h => h⟩

/-- A new fan-out, without children. -/
lemma commit_reserving (hs : StoreOk x s) {step : Step}
    {config : DelegateFanoutConfig} (hstage : StageOk x s (.reserving st step config))
    (hnew : fanoutID ∉ s.fanouts.map (·.fanoutID)) :
    StoreOk x (s.reserved { fanoutID, entry := st.entry, step }) ∧
      StageOk x (s.reserved { fanoutID, entry := st.entry, step })
        (spawnNext st step config fanoutID 0) := by
  obtain ⟨hclosed, hdeclared, hkind, rfl, hentry, hstep, hlogged, hfresh⟩ := hstage
  refine ⟨hs.reserved hclosed hnew hfresh hlogged rfl ⟨hdeclared, hkind⟩, ?_⟩
  have hmem : ({ fanoutID, entry := st.entry, step } : Fanout) ∈
      (s.reserved { fanoutID, entry := st.entry, step }).fanouts :=
    List.mem_append_right _ (List.mem_singleton.2 rfl)
  refine spawnNext_ok (allClosed_reserved hclosed rfl) st step hmem rfl
    ⟨hentry, hstep, fun hjoined => ?_⟩ ?_ (Nat.zero_le _)
  · obtain ⟨g, hg, heq⟩ := hs.exists_of_mem_joins hjoined
    exact hfresh g hg heq
  · -- it has no members yet, since a delegation belongs to a fan-out that was there before
    refine List.length_eq_zero_iff.2 (List.filter_eq_nil_iff.2 fun d hd hid => ?_)
    obtain ⟨g, hg, hgid⟩ := hs.belongs d hd
    exact hnew (List.mem_map.2 ⟨g, hg, hgid.trans (of_decide_eq_true hid)⟩)

/-- A delegation more in a fan-out does not change the other fan-outs. -/
lemma members_append (h : d.fanoutID ≠ fanoutID) :
    ({ s with delegations := s.delegations ++ [d] } : Store).members fanoutID =
      s.members fanoutID := by
  simp [Store.members, List.filter_append, h]

lemma closed_append (h : d.fanoutID ≠ fanoutID) (hclosed : Closed s fanoutID) :
    Closed { s with delegations := s.delegations ++ [d] } fanoutID := by
  exact List.forall_mem_snoc hclosed fun hid => absurd hid h

def Store.delegated (s : Store) (d : Delegation) : Store :=
  { s with delegations := s.delegations ++ [d] }

lemma StoreOk.delegated (hs : StoreOk x s) (hclosed : AllClosed s) (hf : f ∈ s.fanouts)
    (hwaiting : Waiting x s f)
    (hother : ∀ g ∈ s.fanouts, g.suspended → f.fanoutID ≠ g.fanoutID) {childSessionID : UUID}
    (hnew : childSessionID ∉ s.delegations.map (·.childSessionID)) :
    StoreOk x (s.delegated { childSessionID, fanoutID := f.fanoutID }) where
  __ := hs
  children := by simpa [Store.delegated, List.nodup_append, hs.children] using hnew
  belongs := List.forall_mem_snoc hs.belongs ⟨f, hf, rfl⟩
  spawned g hg hsuspended := by
    rw [Store.delegated, members_append (hother g hg hsuspended)]
    exact hs.spawned g hg hsuspended
  unresolved g hg hsuspended := List.forall_mem_snoc (hs.unresolved g hg hsuspended) fun _ => rfl
  waiting g hg hsuspended hopen :=
    absurd (closed_append (hother g hg hsuspended) (hclosed g hg hsuspended)) hopen
  joins.once := hs.joins.once
  joins.joined e he hkind := by
    refine (hs.joins.joined e he hkind).mono (fun g hg => ⟨g, hg, rfl, rfl⟩) fun g hg hentry => ?_
    -- a fan-out that was joined is another one, since the entry of this one was not exited
    have hne : f.fanoutID ≠ g.fanoutID := by
      intro heq
      obtain rfl := hs.eq_of_id hf hg heq
      refine hwaiting.unexited (List.mem_map.2 ⟨e, ?_, hentry.symm⟩)
      exact List.mem_filter.2 ⟨he, decide_eq_true hkind⟩
    exact ⟨by rw [Store.delegated, members_append hne], closed_append hne⟩

lemma commit_spawning (hs : StoreOk x s) {step : Step}
    {config : DelegateFanoutConfig} {childSessionID : UUID} {spawned : ℕ}
    (hstage : StageOk x s (.spawning st step config fanoutID spawned))
    (hnew : childSessionID ∉ s.delegations.map (·.childSessionID)) :
    StoreOk x (s.delegated { childSessionID, fanoutID }) ∧
      StageOk x (s.delegated { childSessionID, fanoutID })
        (spawnNext st step config fanoutID (spawned + 1)) := by
  obtain ⟨hclosed, f, hf, rfl, hsuspended, hwaiting, rfl, hcount, hlt⟩ := hstage
  -- the fan-out is not suspended, so the suspended ones are other fan-outs
  have hother : ∀ g ∈ s.fanouts, g.suspended → f.fanoutID ≠ g.fanoutID := by
    intro g hg hsuspended' heq
    obtain rfl := hs.eq_of_id hf hg heq
    rw [hsuspended] at hsuspended'
    nomatch hsuspended'
  refine ⟨hs.delegated hclosed hf hwaiting hother hnew, ?_⟩
  have hclosed' : AllClosed (s.delegated { childSessionID, fanoutID := f.fanoutID }) :=
    fun g hg hsuspended' => closed_append (hother g hg hsuspended') (hclosed g hg hsuspended')
  refine spawnNext_ok hclosed' st step hf hsuspended
    ⟨hwaiting.entry, hwaiting.step, hwaiting.unexited⟩ ?_ ?_
  · simp only [Store.members, Store.delegated] at hcount ⊢
    rw [List.filter_append, List.length_append, hcount]
    simp
  · unfold Step.children
    omega

@[simp]
lemma markSuspended_fanoutID (fanoutID : Option UUID) (f : Fanout) :
    (markSuspended fanoutID f).fanoutID = f.fanoutID := by
  unfold markSuspended
  split_ifs <;> rfl

@[simp]
lemma markSuspended_entry (fanoutID : Option UUID) (f : Fanout) :
    (markSuspended fanoutID f).entry = f.entry := by
  unfold markSuspended
  split_ifs <;> rfl

@[simp]
lemma markSuspended_step (fanoutID : Option UUID) (f : Fanout) :
    (markSuspended fanoutID f).step = f.step := by
  unfold markSuspended
  split_ifs <;> rfl

lemma suspended_of_mark {fanoutID : Option UUID} (h : (markSuspended fanoutID f).suspended = true) :
    f.suspended = true ∨ some f.fanoutID = fanoutID := by
  unfold markSuspended at h
  split_ifs at h with heq
  · exact .inr heq
  · exact .inl h

lemma commit_suspending (hs : StoreOk x s) {fanoutID : Option UUID}
    (hstage : StageOk x s (.suspending fanoutID)) :
    StoreOk x { s with status := .suspended
                       fanouts := s.fanouts.map (markSuspended fanoutID) } := by
  have hmark : ∀ f ∈ s.fanouts, (markSuspended fanoutID f).suspended = true →
      (s.members f.fanoutID).length = f.step.children ∧
        (¬ Closed s f.fanoutID → Waiting x s f) := by
    intro f hf hsuspended
    rcases suspended_of_mark hsuspended with hsuspended | rfl
    · exact ⟨hs.spawned f hf hsuspended, hs.waiting f hf hsuspended⟩
    · obtain ⟨-, g, hg, hid, hwaiting, hcount⟩ := hstage
      obtain rfl := hs.eq_of_id hg hf hid
      exact ⟨hcount, fun _ => hwaiting⟩
  exact
    { ids := by simpa [Function.comp_def] using hs.ids
      entries := by simpa [Function.comp_def] using hs.entries
      logged := List.forall_mem_map.2 fun f hf => by
        rw [markSuspended_entry]
        exact hs.logged f hf
      children := hs.children
      belongs := by
        intro d hd
        obtain ⟨f, hf, hid⟩ := hs.belongs d hd
        exact ⟨_, List.mem_map_of_mem hf, by simpa using hid⟩
      declared := List.forall_mem_map.2 fun f hf => by simpa using hs.declared f hf
      spawned := List.forall_mem_map.2 fun f hf hsuspended => by
        rw [markSuspended_fanoutID, markSuspended_step]
        exact (hmark f hf hsuspended).1
      unresolved := List.forall_mem_map.2 fun f hf hsuspended d hd hdid => by
        rw [markSuspended_fanoutID] at hdid
        refine hs.unresolved f hf ?_ d hd hdid
        unfold markSuspended at hsuspended
        split_ifs at hsuspended with heq
        exact hsuspended
      waiting := List.forall_mem_map.2 fun f hf hsuspended hopen => by
        rw [markSuspended_fanoutID] at hopen
        obtain ⟨hentry, hstep, hunexited⟩ := (hmark f hf hsuspended).2 hopen
        exact ⟨by rw [markSuspended_entry]; exact hentry, by rw [markSuspended_step]; exact hstep,
          by rw [markSuspended_entry]; exact hunexited⟩
      joins := by
        refine ⟨hs.joins.once, fun e he hkind => ?_⟩
        exact (hs.joins.joined e he hkind).mono
          (fun f hf => ⟨_, List.mem_map_of_mem hf, markSuspended_fanoutID _ f,
            markSuspended_entry _ f⟩) fun f _ _ => ⟨rfl, fun h => h⟩ }

def Store.exited (s : Store) (e : Exit) : Store := { s with exits := s.exits ++ [e] }

lemma joins_exited (e : Exit) : (s.exited e).joins =
      if e.step.kind = .delegateFanout then s.joins ++ [e.entry] else s.joins := by
  unfold Store.joins Store.exited
  split_ifs with hkind <;> simp [List.filter_append, hkind]

lemma commit_exiting (hs : StoreOk x s) {step : Step}
    {bindings : List (String × Value)} {via : Option UUID}
    (hstage : StageOk x s (.exiting st step bindings via))
    (h : s.append x id (.stepExited step.id bindings) = some s') :
    StoreOk x (s'.exited { entry := st.entry, step, via }) ∧
      StageOk x (s'.exited { entry := st.entry, step, via }) (leave st step bindings) := by
  obtain ⟨hclosed, hexits⟩ := hstage
  have hframe := Frame.of_append h
  have hs' := hs.frame hframe (.inl hclosed)
  have hclosed' := hframe.allClosed hclosed
  -- what the exit is when it is one of a delegate_fanout step
  have hjoin : step.kind = .delegateFanout →
      Joined s' { entry := st.entry, step, via } ∧ st.entry ∉ s'.joins := by
    intro hkind
    cases via with
    | none => exact absurd hkind hexits
    | some fanoutID =>
      obtain ⟨f, hf, rfl, hsuspended, hwaiting, hentry, rfl⟩ := hexits
      have hf' : f ∈ s'.fanouts := by
        rw [hframe.fanouts]
        exact hf
      rw [hframe.joins, ← hentry]
      exact ⟨⟨f, hf', rfl, rfl, hs'.spawned f hf' hsuspended, hclosed' f hf' hsuspended⟩,
        hwaiting.unexited⟩
  have hclosed'' : AllClosed (s'.exited { entry := st.entry, step, via }) := hclosed'
  have hjoins : JoinsOnce (s'.exited { entry := st.entry, step, via }) := by
    constructor
    · rw [joins_exited]
      split_ifs with hkind
      · rw [← List.concat_eq_append]
        exact hs'.joins.once.concat (hjoin hkind).2
      · exact hs'.joins.once
    · exact List.forall_mem_snoc hs'.joins.joined fun hkind => (hjoin hkind).1
  refine ⟨⟨hs'.ids, hs'.entries, hs'.logged, hs'.children, hs'.belongs, hs'.declared,
    hs'.spawned, hs'.unresolved, ?_, hjoins⟩, leave_ok hclosed'' _ _ _⟩
  exact fun f hf hsuspended hopen => absurd (hclosed'' f hf hsuspended) hopen

/-! ### The result of a child -/

lemma settle_fanoutID (child : UUID) (status : DelegationStatus) (d : Delegation) :
    (settle child status d).fanoutID = d.fanoutID := by
  unfold settle
  split_ifs <;> rfl

lemma settle_childSessionID (child : UUID) (status : DelegationStatus) (d : Delegation) :
    (settle child status d).childSessionID = d.childSessionID := by
  unfold settle
  split_ifs <;> rfl

def Store.settled (s : Store) (child : UUID) (status : DelegationStatus) : Store :=
  { s with delegations := s.delegations.map (settle child status) }

lemma members_settled (child : UUID) (status : DelegationStatus) (fanoutID : UUID) :
    ((s.settled child status).members fanoutID).length = (s.members fanoutID).length := by
  unfold Store.members Store.settled
  rw [List.filter_map, List.length_map]
  simp only [Function.comp_def, settle_fanoutID]

section

variable {child : UUID} {status : DelegationStatus} (hs : StoreOk x s)

lemma closed_settled (hstatus : status ≠ .pending) (h : Closed s fanoutID) :
    Closed (s.settled child status) fanoutID := by
  intro d' hd' hid
  obtain ⟨d, hd, rfl⟩ := List.mem_map.1 hd'
  rw [settle_fanoutID] at hid
  have hold := h d hd hid
  unfold settle
  split_ifs
  · exact hstatus
  · exact hold

include hs

/-- The commit of the result of a child whose fan-out is suspended. -/
lemma StoreOk.settled (hstatus : status ≠ .pending)
    (hd : d ∈ s.delegations) (hf : f ∈ s.fanouts) (hid : f.fanoutID = d.fanoutID)
    (hsuspended : f.suspended) :
    StoreOk x (s.settled d.childSessionID status) where
  __ := hs
  children := by
    have hmap : (s.settled d.childSessionID status).delegations.map (·.childSessionID) =
        s.delegations.map (·.childSessionID) := by
      unfold Store.settled
      rw [List.map_map]
      exact List.map_congr_left fun d' _ => settle_childSessionID _ _ d'
    rw [hmap]
    exact hs.children
  belongs d' hd' := by
    obtain ⟨d₀, hd₀, rfl⟩ := List.mem_map.1 hd'
    rw [settle_fanoutID]
    exact hs.belongs d₀ hd₀
  spawned g hg hgsuspended := by
    rw [members_settled]
    exact hs.spawned g hg hgsuspended
  unresolved g hg hgsuspended d' hd' hdid := by
    obtain ⟨d₀, hd₀, rfl⟩ := List.mem_map.1 hd'
    rw [settle_fanoutID] at hdid
    unfold settle
    split_ifs with hchild
    · -- the settled delegation is of the suspended fan-out
      obtain rfl := List.inj_on_of_nodup_map hs.children hd₀ hd hchild
      obtain rfl := hs.eq_of_id hf hg (hid.trans hdid)
      rw [hsuspended] at hgsuspended
      nomatch hgsuspended
    · exact hs.unresolved g hg hgsuspended d₀ hd₀ hdid
  waiting g hg hgsuspended hopen := by
    obtain ⟨hentry, hstep, hunexited⟩ := hs.waiting g hg hgsuspended fun hclosed =>
      hopen (closed_settled hstatus hclosed)
    exact ⟨hentry, hstep, hunexited⟩
  joins.once := hs.joins.once
  joins.joined e he hkind := (hs.joins.joined e he hkind).mono (fun g hg => ⟨g, hg, rfl, rfl⟩)
    fun g _ _ => ⟨members_settled _ _ _, closed_settled hstatus⟩

/-- The commit of a result that is pending, for a suspended fan-out: only that fan-out was
waited for. -/
lemma settled_ok (hstatus : status ≠ .pending)
    (hpending : ∃ d ∈ s.delegations, d.childSessionID = child ∧ d.fanoutID = fanoutID ∧
      d.status = .pending) (hsuspended : ∃ f ∈ s.fanouts, f.fanoutID = fanoutID ∧ f.suspended) :
    StoreOk x (s.settled child status) ∧
      StageOk x (s.settled child status) (.listing fanoutID) := by
  obtain ⟨d, hd, rfl, rfl, hdpending⟩ := hpending
  obtain ⟨f, hf, hid, hfsuspended⟩ := hsuspended
  have hs' := hs.settled hstatus hd hf hid hfsuspended
  have hwaiting : Waiting x s f :=
    hs.waiting f hf hfsuspended fun hclosed => hclosed d hd hid.symm hdpending
  refine ⟨hs', f, hf, hid, hfsuspended, ⟨hwaiting.entry, hwaiting.step, hwaiting.unexited⟩, ?_⟩
  -- another fan-out that is waited for would be of the entry in progress too
  intro g hg hgsuspended hne
  by_contra hgopen
  have hgwaiting := hs'.waiting g hg hgsuspended hgopen
  obtain rfl := List.inj_on_of_nodup_map hs.entries hf hg
    (hwaiting.entry.symm.trans hgwaiting.entry)
  exact hne hid

/-- The transaction of `finalize`. -/
lemma finalize_ok {pending : Delegation} {boundExceeded : Bool} {ids : List UUID}
    (h : finalize x s pending boundExceeded ids = some s')
    (hpending : ∃ d ∈ s.delegations, d.childSessionID = pending.childSessionID ∧
      d.fanoutID = pending.fanoutID ∧ d.status = .pending)
    (hsuspended : ∃ f ∈ s.fanouts, f.fanoutID = pending.fanoutID ∧ f.suspended) :
    StoreOk x s' ∧ StageOk x s' (.listing pending.fanoutID) := by
  unfold finalize at h
  split at h
  next taintID returnedID =>
    obtain ⟨s₁, h₁, h⟩ := Option.bind_eq_some_iff.1 h
    obtain ⟨s₂, h₂, h⟩ := Option.bind_eq_some_iff.1 h
    cases h
    -- the two events are not events of the plan run
    obtain ⟨e₁, -, hp₁, hst₁⟩ := state_append h₁
    obtain ⟨e₂, -, hp₂, hst₂⟩ := state_append h₂
    rw [RunState.replay, hp₁] at hst₁
    rw [RunState.replay, hp₂] at hst₂
    have hs₂ := (hs.frame (.of_append h₁) (.inr hst₁)).frame (.of_append h₂) (.inr hst₂)
    obtain ⟨log₁, -, rfl, -⟩ := append_some h₁
    obtain ⟨log₂, -, rfl, -⟩ := append_some h₂
    refine settled_ok hs₂ ?_ hpending hsuspended
    split_ifs <;> decide
  next => nomatch h

/-! ### One step of a call -/

/-- An event while no fan-out is waited for, and a status. -/
lemma append_ok (hclosed : AllClosed s) {payload : Payload} (h : s.append x id payload = some s') :
    StoreOk x s' ∧ AllClosed s' :=
  ⟨hs.frame (Frame.of_append h) (.inl hclosed), (Frame.of_append h).allClosed hclosed⟩

lemma status_ok (status : SessionStatus) : StoreOk x { s with status := status } :=
  hs.frame (Frame.status s status) (.inr rfl)

end

lemma check_ok (child : UUID) : StageOk x s (check s child) := by
  unfold check
  split
  · trivial
  · split_ifs <;> trivial

/-- What the condition says about the store when a call loads the state. -/
def LoadOk (x : Executor) (s : Store) : Stage → Prop
  | .loading .resume => NotFanout x s
  | .loading (.resumeGate _) => NotFanout x s
  | _ => True

/-- A transaction that goes through keeps the rows and the call as they should be. -/
lemma commit_ok {ids : List UUID} (hs : StoreOk x s)
    (hstage : StageOk x s stage) (hload : LoadOk x s stage)
    (h : stage.commit x s ids = some (s', stage')) : StoreOk x s' ∧ StageOk x s' stage' := by
  unfold Stage.commit at h
  split at h
  all_goals try
    rw [Option.map_eq_some_iff] at h
    obtain ⟨s₁, h₁, ⟨⟩⟩ := h
  next id =>  -- `starting`
    obtain ⟨hs₁, hclosed⟩ := append_ok hs hstage h₁
    exact ⟨status_ok hs₁ _, enter_ok ((Frame.status s₁ .running).allClosed hclosed) _ _⟩
  next st step id =>  -- `entering`
    exact commit_entering hs hstage h₁
  next st step id =>  -- `messaging`
    obtain ⟨hs₁, hclosed⟩ := append_ok hs hstage.1 h₁
    exact ⟨hs₁, hclosed, hstage.2⟩
  next st step =>  -- `asking`
    cases h
    exact ⟨hs, hstage⟩
  next st step config fanoutID =>  -- `reserving`
    split_ifs at h with hmem
    cases h
    exact commit_reserving hs hstage hmem
  next st step config fanoutID spawned child =>  -- `spawning`
    split_ifs at h with hmem
    cases h
    exact commit_spawning hs hstage hmem
  next fanoutID =>  -- `suspending`
    cases h
    exact ⟨commit_suspending hs hstage, trivial⟩
  next st step bindings via id =>  -- `exiting`
    exact commit_exiting hs hstage h₁
  next st step next fired id =>  -- `moving`
    obtain ⟨hs₁, hclosed⟩ := append_ok hs hstage h₁
    refine ⟨hs₁, ?_⟩
    split_ifs
    · exact hclosed
    · exact enter_ok hclosed _ _
  next id =>  -- `completing`
    exact ⟨status_ok (append_ok hs hstage h₁).1 _, trivial⟩
  next child =>  -- `checking`
    cases h
    exact ⟨hs, check_ok child⟩
  next fanoutID =>  -- `listing`
    cases h
    exact ⟨hs, list_ok hstage⟩
  next loader =>  -- `loading`
    cases h
    refine ⟨hs, ?_⟩
    cases loader with
    | resume | resumeGate => exact resumeWith_ok hs hload _ (by simp)
    | resolveFanout fanoutID members => exact resumeFanout_ok hs hstage
  next st step bindings via =>  -- `resuming`
    cases h
    exact ⟨status_ok hs _, (Frame.status s .running).stageOk rfl hstage⟩
  next => nomatch h

/-- A step of a call keeps the rows and the call as they should be. -/
lemma step_ok {m : Move}
    (hs : StoreOk x sys.store) (hstage : stage.active = true → StageOk x sys.store stage)
    (hadmitted : stage.Admitted x sys i)
    (h : stage.step x sys.store m = some (s', stage')) : StoreOk x s' ∧ StageOk x s' stage' := by
  cases m with
  | commit ids =>
    refine commit_ok hs ?_ ?_ h
    · by_cases hactive : stage.active = true
      · exact hstage hactive
      · unfold StageOk
        split <;> trivial
    · unfold LoadOk
      split
      · exact hadmitted.2
      · exact hadmitted.2
      · trivial
  | fail =>
    obtain ⟨rfl, text, rfl⟩ := step_fail h
    exact ⟨hs, trivial⟩
  | drive outcome status =>
    dsimp only [Stage.step] at h
    split at h
    next st step =>
      cases h
      obtain ⟨hclosed, hkind⟩ := hstage rfl
      refine ⟨status_ok hs status, ?_⟩
      split
      · trivial
      · trivial
      · exact ⟨hclosed, hkind⟩
    next => nomatch h
  | finalize outcome ids =>
    obtain ⟨pending, rfl, ⟨rfl, text, rfl⟩ | ⟨⟨b, hfinal⟩, rfl⟩⟩ := step_finalize h
    · exact ⟨hs, trivial⟩
    · exact finalize_ok hs hfinal hadmitted.1 hadmitted.2.1

lemma check_idle (child : UUID) : (check s child).active = false := by
  unfold check
  split
  · rfl
  · split_ifs <;> rfl

/-- A call that takes a step is the only one in progress, before or by the condition, or it
only reads and is not in progress afterwards either. -/
lemma alone_of_step {m : Move}
    (hcalls : stage.active = true → Alone sys i) (hadmitted : stage.Admitted x sys i)
    (h : stage.step x sys.store m = some (s', stage')) :
    Alone sys i ∨ (s' = sys.store ∧ stage'.active = false) := by
  by_cases hbefore : stage.active = true
  · exact .inl (hcalls hbefore)
  · cases stage with
    | checking child =>
      cases m with
      | commit ids =>
        cases ids with
        | nil =>
          cases h
          exact .inr ⟨rfl, check_idle child⟩
        | cons id ids => nomatch h
      | fail =>
        cases h
        exact .inr ⟨rfl, rfl⟩
      | drive | finalize => nomatch h
    | finalizing pending => exact .inl hadmitted.2.2
    | returned result => cases m <;> nomatch h
    | loading loader =>
      cases loader with
      | resume | resumeGate => exact .inl hadmitted.1
      | resolveFanout fanoutID members => exact absurd rfl hbefore
    | _ => exact absurd rfl hbefore

/-! ### Runs -/

/-- One more call that is not in progress yet. -/
lemma Inv.call (h : Inv x sys) (hidle : stage.active = false) : Inv x (sys.call stage) :=
  ⟨h.store, Exclusive.call h.calls hidle⟩

/-- A step of a call that keeps the rows and the call as they should be. -/
lemma Inv.goto (h : Inv x sys) {r : Store × Stage}
    (hstore : StoreOk x r.1) (hstage : StageOk x r.1 r.2)
    (halone : r.2.active = true → Alone sys i) (hothers : Alone sys i ∨ r.1 = sys.store) :
    Inv x (sys.goto i r) := by
  refine ⟨hstore, Exclusive.goto h.calls hstage halone
    (hothers.imp_right fun hsame j stage _ hok => ?_)⟩
  show StageOk x r.1 stage
  rw [hsame]
  exact hok

/-- A step that meets the condition keeps the invariant. -/
lemma Inv.step {sys' : System} {a : Action} (hinv : Inv x sys) (hadmitted : Admitted x sys a)
    (h : (executor x).step sys a = some sys') : Inv x sys' := by
  cases a with
  | childEnds child =>
    cases h
    have hframe : Frame sys.store { sys.store with ended := child :: sys.store.ended } :=
      .intro _ _ _ (List.Subset.refl _)
    refine ⟨hinv.store.frame hframe (.inr rfl), fun i stage hi hactive => ?_⟩
    obtain ⟨hok, halone⟩ := hinv.calls i stage hi hactive
    exact ⟨hframe.stageOk rfl hok, halone⟩
  | onChildTerminal | resume | resumeGate =>
    cases h
    exact hinv.call rfl
  | step i m =>
    obtain ⟨stage, ⟨s', stage'⟩, hi, hstep, rfl⟩ := executor_step h
    have hstage := hadmitted stage hi
    obtain ⟨hstore, hok⟩ := step_ok hinv.store (fun hactive => (hinv.calls i stage hi hactive).1)
      hstage hstep
    have halone := alone_of_step (fun hactive => (hinv.calls i stage hi hactive).2) hstage hstep
    refine hinv.goto hstore hok (fun hactive => ?_) ?_
    · rcases halone with halone | ⟨-, hidle⟩
      · exact halone
      · rw [hidle] at hactive
        nomatch hactive
    · rcases halone with halone | ⟨hsame, -⟩
      · exact .inl halone
      · exact .inr hsame
  | crash i =>
    obtain ⟨stage, -, rfl⟩ := executor_crash h
    exact hinv.goto hinv.store trivial (fun hactive => nomatch hactive) (.inr rfl)

/-- The invariant holds before `Start` has done anything. -/
lemma inv_init : Inv x System.init := by
  refine ⟨?_, exclusive_init (P := fun _ => StageOk x _) fun f hf => ?_⟩
  · constructor <;> simp [System.init]
    constructor <;> simp [Store.joins]
  · simp [System.init] at hf

/-- In every run in which the results of children are committed while their delegations are
pending, after the suspend of their fan-out and while no other call is in progress, and
`Resume` and `ResumeGate` are called for other steps than delegate_fanout steps, every entry of
a delegate_fanout step is exited at most once, after all its children have been spawned and
resolved, and by the fan-out that it created. -/
theorem fanout_joins_once (x : Executor) (sys : System)
    (h : (executor x).ReachesBy (Admitted x) System.init sys) : JoinsOnce sys.store :=
  (h.invariant inv_init fun _ _ _ hinv hadmitted hstep => hinv.step hadmitted hstep).store.joins

/-! ### Two children -/

def twoChildren : Executor where
  sessionID := 7
  plan :=
    { startStep := "fan"
      steps := [{ id := "fan", kind := .delegateFanout
                  delegateFanout := some { scopeGrant := ["read"], childCount := 2 } }]
      allowedTools := ["read"]
      costCeiling := "1" }

/-- `Start`, up to the spawn of the first child. -/
def firstSpawn : List Action :=
  [.step 0 (.commit [1]), .step 0 (.commit [2]), .step 0 (.commit [100]), .step 0 (.commit [201])]

/-- The return of a child, as the `i`-th call, up to the list of the members. -/
def returnOf (i : ℕ) (child : UUID) (ids : List UUID) : List Action :=
  [.childEnds child, .onChildTerminal child, .step i (.commit []),
    .step i (.finalize (.ok false) ids), .step i (.commit [])]

/-- The resolution of the fan-out by the `i`-th call, up to the exit of the step. -/
def exitBy (i : ℕ) (exitID : UUID) : List Action :=
  [.step i (.commit []), .step i (.commit []), .step i (.commit [exitID])]

/-- Both children return after the suspend, one after the other. -/
def orderlyReturns : List Action :=
  firstSpawn ++ [.step 0 (.commit [202]), .step 0 (.commit [])] ++ returnOf 1 201 [3, 4] ++
    returnOf 2 202 [5, 6] ++ exitBy 2 7

/-- The step is exited once, with two children. -/
theorem orderlyReturns_joins : ∃ sys : System,
    (executor twoChildren).ReachesBy (Admitted twoChildren) System.init sys ∧
      JoinsOnce sys.store ∧ sys.store.joins = [some 2] ∧ sys.store.delegations.length = 2 := by
  refine Machine.ReachesBy.exists_of_runBy_imp orderlyReturns
    (fun sys => sys.store.joins = [some 2] ∧ sys.store.delegations.length = 2) ?_
    fun sys hrun h => ⟨fanout_joins_once _ _ hrun, h⟩
  decide +kernel

/-- The first child returns before the second is spawned. -/
def earlyReturn : List Action := firstSpawn ++ returnOf 1 201 [3, 4] ++ exitBy 1 5

/-- The step is exited with one child of two. -/
theorem earlyReturn_exits : ∃ sys : System, (executor twoChildren).Reaches System.init sys ∧
    sys.store.joins = [some 2] ∧ sys.store.delegations.length = 1 ∧ ¬ JoinsOnce sys.store := by
  refine Machine.Reaches.exists_of_run_imp earlyReturn
    (fun sys => sys.store.joins = [some 2] ∧ sys.store.delegations.length = 1 ∧
      ∃ e ∈ sys.store.exits, e.step.kind = .delegateFanout ∧ e.step.children = 2) ?_
    fun sys _ ⟨hjoins, hlength, e, he, hkind, hchildren⟩ => ⟨hjoins, hlength, fun h => ?_⟩
  · decide +kernel
  obtain ⟨f, -, -, -, hcount, -⟩ := h.joined e he hkind
  -- the members of a fan-out are no more than there are delegations
  have hle : (sys.store.members f.fanoutID).length ≤ sys.store.delegations.length :=
    List.length_filter_le _ _
  omega

end NexusAgent.Plans
