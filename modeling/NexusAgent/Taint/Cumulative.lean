import NexusAgent.Kernel.Discipline
import NexusAgent.Taint.Writers
import NexusAgent.Tools.Gates

/-!
# What the last taint transition of a session says

`RehydrateTaint` reads the last taint transition of a log and nothing else, so it relies on
every writer to record all legs that the session has engaged, not only those of one call, one
child or one card. The writers take what they record at one time and write it at another.

`Admitted` is what this takes: legs are only taken for a session when no other transition of
it is still to be written and when they include every leg that its log already has.
-/

namespace NexusAgent.TaintLog

open EventLog Kernel Permissions Tools

/-! ### What a tool call takes -/

lemma stateFor_taintState (p : Pipeline) (sessionID : UUID) (autonomyLevel : String) :
    (p.stateFor sessionID autonomyLevel).1.taintState = (p.taintStateFor sessionID).1 := by
  unfold Pipeline.taintStateFor Pipeline.stateFor
  cases p.sessions sessionID <;> rfl

def reported : ExecuteResult ⊕ Dispatch → Option TaintState
  | .inl r => dueOf r.taintChanged r.taintEngaged
  | .inr d => dueOf d.taintChanged d.taintEngaged

variable {e : Event Payload} {env : ExecuteEnv} {p : Live} {log log' : Log Payload}
  {due : Option TaintState} {origin : TaintOrigin} {x : TaintState} {t : Task} {s sid : UUID}
  {w w' : World} {i proc : ℕ}

/-- The permission chain reports the legs it was asked with and more. -/
lemma decideCall_reported {p : Pipeline} {gate2 hook : LayerOutcome} {d : Dispatch}
    {t : TaintState} (h : reported (p.decideCall env gate2 hook d).1 = some t) :
    (p.taintStateFor d.inv.sessionID).1 ≤ t := by
  rw [← stateFor_taintState p d.inv.sessionID d.inv.autonomyLevel]
  unfold Pipeline.decideCall at h
  dsimp only at h
  generalize p.stateFor d.inv.sessionID d.inv.autonomyLevel = st at h ⊢
  have hle := st.2.chain.taintState_le_resolve env.safety
    { toolID := d.ref.string, ns := d.ref.ns, effectClass := d.tool.descriptor.effectClass
      taint := d.tool.taint, input := d.input, autonomy := some st.1.autonomy
      hookOutcome := hook, gate2, taintState := st.1.taintState }
  split at h
  · nomatch h
  -- every answer but the defer, which reports nothing, reports the state of the result
  have hreported {changed : Bool} {engaged : TaintState} (hengaged : st.1.taintState ≤ engaged)
      (hdue : dueOf changed engaged = some t) : st.1.taintState ≤ t := by
    cases (Option.ite_none_right_eq_some.1 hdue).2
    exact hengaged
  split at h
  · exact hreported hle h
  · exact hreported hle h
  · nomatch h
  · exact hreported hle h

/-- A tool call reports the legs that its session had in memory and more. -/
lemma execute_reported {p : Pipeline} {inv : Invocation} {t : TaintState}
    (h : reported (p.execute env inv).1 = some t) : (p.taintStateFor inv.sessionID).1 ≤ t := by
  unfold Pipeline.execute at h
  split at h
  next r hbind =>
    obtain ⟨reason, rfl⟩ := Pipeline.isRefusal_of_bindCall hbind
    nomatch h
  next d hbind =>
  split at h
  next r hhooks =>
    obtain ⟨reason, rfl⟩ := Pipeline.isRefusal_of_askHooks hhooks
    nomatch h
  next gate2 hook d' hhooks =>
  have hbound := Pipeline.bindCall_ok hbind
  have hle := decideCall_reported h
  rwa [(Pipeline.askHooks_ok hhooks).inv_eq, hbound.inv_eq] at hle

/-! ### What a log says -/

def legs (history : List (Event Payload)) : List TaintState :=
  (history.filter fun e => e.type = .taintTransition).map fun e => e.payload.engaged

/-- Every leg that a history's transitions engage is one of `t`. -/
def Within (history : List (Event Payload)) (t : TaintState) : Prop :=
  ∀ x ∈ legs history, x ≤ t

instance (history : List (Event Payload)) (t : TaintState) : Decidable (Within history t) :=
  inferInstanceAs (Decidable (∀ x ∈ legs history, x ≤ t))

lemma rehydrateTaint_eq (history : List (Event Payload)) :
    rehydrateTaint history = (legs history).getLast?.getD {} := by
  unfold rehydrateTaint legs
  rw [List.getLast?_map]
  cases (history.filter fun e => e.type = .taintTransition).getLast? <;> rfl

lemma session_snoc (h : log'.events = log.events ++ [e]) (s : UUID) :
    log'.session s = if e.sessionID = s then log.session s ++ [e] else log.session s := by
  unfold Log.session
  rw [h, List.filter_append]
  by_cases he : e.sessionID = s <;> simp [he]

lemma legs_session_other (h : log'.events = log.events ++ [e]) (he : e.type ≠ .taintTransition)
    (s : UUID) : legs (log'.session s) = legs (log.session s) := by
  rw [session_snoc h]
  split
  · simp [legs, List.filter_append, he]
  · rfl

lemma legs_session_transition (h : log'.events = log.events ++ [e])
    (he : e.type = .taintTransition) (s : UUID) :
    legs (log'.session s) =
      if e.sessionID = s then legs (log.session s) ++ [e.payload.engaged]
      else legs (log.session s) := by
  rw [session_snoc h]
  split
  · simp [legs, List.filter_append, he]
  · rfl

/-! ### Admitted steps -/

/-- No transition of a session has been taken and not yet been written. -/
def NoneDue (w : World) (s : UUID) : Prop :=
  ∀ o ∈ w.tasks, ∀ t ∈ o, t.sessionID = s → t.due = none

instance (w : World) (s : UUID) : Decidable (NoneDue w s) :=
  inferInstanceAs (Decidable (∀ o ∈ w.tasks, ∀ t ∈ o, t.sessionID = s → t.due = none))

/-- The session that an action takes legs for, and the legs it starts from. -/
def takes (w : World) : Action → Option (UUID × TaintState)
  | .dispatch i _ =>
    match w.task i with
    | some (.call proc sessionID _ none _) => some (sessionID, w.memory proc sessionID)
    | _ => none
  | .finalize proc parent child => some (parent, w.memory proc child)
  | .readCard _ reader cardID =>
    (w.cards.find? fun c => c.cardID = cardID ∧ c.clean).map fun c => (reader, c.taintState)
  | _ => none

/-- Legs are taken for a session only when no transition of it is still to be written, and
when they include every leg that its log has. -/
def Admitted (w : World) (a : Action) : Prop :=
  ∀ x ∈ takes w a, NoneDue w x.1 ∧ Within (w.log.session x.1) x.2

instance (w : World) (a : Action) : Decidable (Admitted w a) :=
  inferInstanceAs (Decidable (∀ x ∈ takes w a, NoneDue w x.1 ∧ Within (w.log.session x.1) x.2))

/-! ### The invariant -/

/-- A kernel call keeps to its order of writes, and owes the transition it has taken. -/
def Task.WellRun : Task → Prop
  | .call _ sessionID p none due => ∃ g, Disciplined sessionID p g ∧ g.due = due
  | .call _ sessionID p (some d) due =>
    (∃ g, Disciplined sessionID p g) ∧ due = dueOf d.taintChanged d.taintEngaged
  | _ => True

/-- What holds between the steps of an admitted run. -/
structure Inv (w : World) : Prop where
  /-- The last transition of a session has the legs of all of them. -/
  cumulative : ∀ s, Within (w.log.session s) (rehydrateTaint (w.log.session s))
  /-- So has a transition that is still to be written. -/
  covered : ∀ i t, w.task i = some t → ∀ x, t.due = some x →
    Within (w.log.session t.sessionID) x
  single : ∀ i j t u, w.task i = some t → w.task j = some u → t.sessionID = u.sessionID →
    t.due.isSome → u.due.isSome → i = j
  wellRun : ∀ i t, w.task i = some t → t.WellRun

/-- Every task of `w'` is one of `w` in the same place, or the new task in place `i`. -/
def Changes (w w' : World) (i : ℕ) (new : Option Task) : Prop :=
  ∀ j t, w'.task j = some t → j ≠ i ∧ w.task j = some t ∨ j = i ∧ new = some t

lemma changes_put (w : World) (i : ℕ) (new : Option Task) : Changes w (w.put i new) i new := by
  intro j t h
  unfold World.task World.put at h
  rw [List.getElem?_set] at h
  by_cases hij : i = j
  · rw [if_pos hij] at h
    by_cases hi : i < w.tasks.length
    · rw [if_pos hi] at h
      exact .inr ⟨hij.symm, h⟩
    · rw [if_neg hi] at h
      nomatch h
  · rw [if_neg hij] at h
    exact .inl ⟨Ne.symm hij, h⟩

lemma changes_begin (w : World) (new : Task) :
    Changes w (w.begin new) w.tasks.length (some new) := by
  intro j t h
  unfold World.task World.begin at h
  rcases Nat.lt_trichotomy j w.tasks.length with hlt | heq | hgt
  · rw [List.getElem?_append_left hlt] at h
    exact .inl ⟨hlt.ne, h⟩
  · rw [List.getElem?_append_right heq.ge, heq, Nat.sub_self] at h
    exact .inr ⟨heq, h⟩
  · have hlen : (w.tasks ++ [some new]).length ≤ j := by
      rw [List.length_append]
      exact hgt
    rw [List.getElem?_eq_none hlen] at h
    nomatch h

/-- A new task whose transition, if it has taken one, has every leg of the log and is the only
one of its session. -/
structure Fits (w : World) (i : ℕ) (t : Task) : Prop where
  wellRun : t.WellRun
  covered : ∀ x, t.due = some x → Within (w.log.session t.sessionID) x
  alone : t.due.isSome → ∀ j u, j ≠ i → w.task j = some u → u.sessionID = t.sessionID →
    u.due = none

/-- A step that changes one task and writes nothing. -/
lemma Inv.change {new : Option Task} (h : Inv w) (hlog : w'.log = w.log)
    (hchange : Changes w w' i new) (hfits : ∀ t ∈ new, Fits w i t) : Inv w' where
  cumulative s := by
    rw [hlog]
    exact h.cumulative s
  covered j t ht x hx := by
    rw [hlog]
    rcases hchange j t ht with ⟨-, hold⟩ | ⟨-, hnew⟩
    · exact h.covered j t hold x hx
    · exact (hfits t hnew).covered x hx
  single j l t u ht hu hsame htdue hudue := by
    -- two old tasks are told apart by `h`, and a new one is alone in its session
    rcases hchange j t ht with ⟨hj, hold⟩ | ⟨rfl, hnew⟩ <;>
      rcases hchange l u hu with ⟨hl, hold'⟩ | ⟨rfl, hnew'⟩
    · exact h.single j l t u hold hold' hsame htdue hudue
    · rw [(hfits u hnew').alone hudue j t hj hold hsame] at htdue
      nomatch htdue
    · rw [(hfits t hnew).alone htdue l u hl hold' hsame.symm] at hudue
      nomatch hudue
    · rfl
  wellRun j t ht := by
    rcases hchange j t ht with ⟨-, hold⟩ | ⟨-, hnew⟩
    · exact h.wellRun j t hold
    · exact (hfits t hnew).wellRun

lemma fits_of_due_none (hrun : t.WellRun) (hdue : t.due = none) : Fits w i t where
  wellRun := hrun
  covered x hx := nomatch hdue.symm.trans hx
  alone hsome := by
    rw [hdue] at hsome
    nomatch hsome

/-- A task that goes on owing what it owed. -/
lemma Inv.fits_of_due_eq {t' : Task} (h : Inv w) (ht : w.task i = some t)
    (hsession : t'.sessionID = t.sessionID) (hdue : t'.due = t.due) (hrun : t'.WellRun) :
    Fits w i t' where
  wellRun := hrun
  covered x hx := by
    rw [hsession]
    exact h.covered i t ht x (hdue ▸ hx)
  alone hsome j u hj hu hsame := by
    rw [hdue] at hsome
    by_contra hne
    exact hj (h.single j i u t hu ht (hsame.trans hsession) (Option.ne_none_iff_isSome.1 hne)
      hsome)

/-- A task that has just taken legs in an admitted step. -/
lemma fits_of_noneDue (hrun : t.WellRun) (hnone : NoneDue w t.sessionID)
    (hcovered : ∀ x, t.due = some x → Within (w.log.session t.sessionID) x) : Fits w i t where
  wellRun := hrun
  covered := hcovered
  alone _ j u _ hu hsame := by
    have hmem : some u ∈ w.tasks := by
      exact List.mem_of_getElem? (Option.join_eq_some_iff.1 hu)
    exact hnone (some u) hmem u rfl hsame

lemma Inv.congr_legs (h : Inv w) (htasks : w'.tasks = w.tasks)
    (hlegs : ∀ s, legs (w'.log.session s) = legs (w.log.session s)) : Inv w' := by
  have htask (j : ℕ) : w'.task j = w.task j := by
    unfold World.task
    rw [htasks]
  have hwithin (s : UUID) (x : TaintState) (hx : Within (w.log.session s) x) :
      Within (w'.log.session s) x := by
    unfold Within
    rw [hlegs]
    exact hx
  refine ⟨fun s => ?_, fun j t ht x hx => ?_, fun j l t u ht hu => ?_, fun j t ht => ?_⟩
  · rw [rehydrateTaint_eq, hlegs, ← rehydrateTaint_eq]
    exact hwithin s _ (h.cumulative s)
  · exact hwithin _ x (h.covered j t (htask j ▸ ht) x hx)
  · exact h.single j l t u (htask j ▸ ht) (htask l ▸ hu)
  · exact h.wellRun j t (htask j ▸ ht)

lemma Inv.record {new : Option Task} (h : Inv w) (ht : w.task i = some t) (hdue : t.due = some x)
    (hlog : log.events = w.log.events ++ [e]) (he : e.type = .taintTransition)
    (hsession : e.sessionID = t.sessionID) (hengaged : e.payload.engaged = x)
    (hnew : ∀ u ∈ new, u.WellRun ∧ u.due = none) : Inv { w.put i new with log } := by
  have hlegs := legs_session_transition hlog he
  have hfresh : Within (w.log.session e.sessionID) x := hsession ▸ h.covered i t ht x hdue
  have hchange := changes_put w i new
  refine ⟨fun s y hy => ?_, fun j u hu y hy z hz => ?_, fun j l u v hu hv => ?_, fun j u hu => ?_⟩
  · rw [rehydrateTaint_eq]
    rw [hlegs] at hy ⊢
    by_cases hs : e.sessionID = s
    · -- the last transition is the new one, which has the legs of those before it
      subst hs
      rw [if_pos rfl, hengaged] at hy ⊢
      rw [List.getLast?_concat]
      rcases List.mem_append.1 hy with hold | hlast
      · exact hfresh y hold
      · exact (List.mem_singleton.1 hlast).le
    · rw [if_neg hs] at hy ⊢
      rw [← rehydrateTaint_eq]
      exact h.cumulative s y hy
  · rcases hchange j u hu with ⟨hj, hold⟩ | ⟨-, hput⟩
    · -- another task with something due is of another session
      have hother : e.sessionID ≠ u.sessionID := by
        intro hsame
        apply hj
        exact h.single j i u t hold ht (hsame.symm.trans hsession) (hy ▸ rfl) (hdue ▸ rfl)
      rw [hlegs, if_neg hother] at hz
      exact h.covered j u hold y hy z hz
    · nomatch (hnew u hput).2.symm.trans hy
  · intro hsame hudue hvdue
    rcases hchange j u hu with ⟨-, hold⟩ | ⟨-, hput⟩
    · rcases hchange l v hv with ⟨-, hold'⟩ | ⟨-, hput'⟩
      · exact h.single j l u v hold hold' hsame hudue hvdue
      · rw [(hnew v hput').2] at hvdue
        nomatch hvdue
    · rw [(hnew u hput).2] at hudue
      nomatch hudue
  · rcases hchange j u hu with ⟨-, hold⟩ | ⟨-, hput⟩
    · exact h.wellRun j u hold
    · exact (hnew u hput).1

/-! ### The steps of a kernel call -/

lemma discipline_step_due (sid : UUID) (g : Stage) {o : Op} (ho : ∀ d, o ≠ .append d)
    (ho' : ∀ req rc, o ≠ .execute req rc) (answer : o.Answer) :
    ∃ g', (discipline sid).step g o answer g' ∧ g'.due = g.due := by
  cases o with
  | append d => exact absurd rfl (ho d)
  | execute req rc => exact absurd rfl (ho' req rc)
  | setStatus id status reason =>
    refine ⟨g.statusWritten answer, rfl, ?_⟩
    unfold Stage.statusWritten
    split <;> rfl
  | _ => exact ⟨g, rfl, rfl⟩

lemma append_due (g : Stage) (d : Draft) :
    (g.append d).due = if d.type = .taintTransition then none else g.due := by
  unfold Stage.append
  by_cases hterm : d.type = .terminal
  · rw [if_pos hterm, hterm]
    rfl
  · rw [if_neg hterm]
    split <;> rfl

/-- An append of a kernel call that commits. -/
lemma Inv.append {eventID : UUID} {d : Draft} {k : Op.Answer (.append d) → Live}
    {answer : Op.Answer (.append d)} {g : Stage} (h : Inv w)
    (ht : w.task i = some (.call proc sid (.ask (.append d) k) none due))
    (hadm : (discipline sid).admits g (.append d)) (hdue : g.due = due)
    (hnext : Disciplined sid (k answer) (g.append d))
    (hlog : w.log.append (d.event eventID 0) = some log) :
    Inv { w.put i (some (.call proc sid (k answer) none
      (if d.type = .taintTransition then none else due))) with log } := by
  obtain ⟨-, hevents⟩ := Log.append_eq_some hlog
  have hrun : (Task.call proc sid (k answer) none
      (if d.type = .taintTransition then none else due)).WellRun := by
    refine ⟨_, hnext, ?_⟩
    rw [append_due, hdue]
  by_cases htaint : d.type = .taintTransition
  · -- the order of writes says that the transition is the one that is due
    obtain ⟨-, hsession, htransition⟩ := hadm
    obtain ⟨x, hx, hpayload⟩ := htransition htaint
    apply h.record ht (hdue ▸ hx : due = some x) hevents htaint hsession
    · show d.payload.engaged = x
      rw [hpayload]
      rfl
    · rintro u hu
      cases hu
      exact ⟨hrun, if_pos htaint⟩
  · have hlegs := legs_session_other hevents htaint
    have h₁ : Inv { w with log } := h.congr_legs rfl hlegs
    refine h₁.change rfl (changes_put { w with log } i _) fun u hu => ?_
    cases hu
    exact h₁.fits_of_due_eq (t := .call proc sid (.ask (.append d) k) none due) ht rfl
      (if_neg htaint) hrun

lemma Inv.reply {t : Reply} (h : Inv w) (ht : w.task i = some (.call proc sid p none due))
    (hst : replyTo w i proc sid p due t = some w') : Inv w' := by
  unfold replyTo at hst
  split at hst
  · nomatch hst
  next hnot =>
  obtain ⟨⟨row, p'⟩, hadvance, rfl⟩ := Option.map_eq_some_iff.1 hst
  obtain ⟨o, k, answer, rfl, hh, rfl⟩ := Process.advance_eq_some.1 hadvance
  obtain ⟨g, ⟨hadm, hnext⟩, hdue⟩ := h.wellRun i _ ht
  by_cases happend : ∃ d, o = .append d
  · obtain ⟨d, rfl⟩ := happend
    cases t with
    | appended eventID =>
      obtain ⟨log, hlog, heq⟩ := Option.map_eq_some_iff.1 hh
      cases heq
      exact h.append ht hadm hdue (hnext _ _ rfl) hlog
    | notAppended e =>
      cases hh
      refine h.change rfl (changes_put w i _) fun u hu => ?_
      cases hu
      exact h.fits_of_due_eq ht rfl rfl ⟨g, hnext _ _ rfl, hdue⟩
    | _ => nomatch hh
  · have ho (d : Draft) : o ≠ .append d := fun heq => happend ⟨d, heq⟩
    have ho' (req : ToolUseRequest) (rc : ExecContext) : o ≠ .execute req rc := by
      rintro rfl
      exact hnot req rc k rfl
    obtain ⟨g', hstep, hsame⟩ := discipline_step_due sid g ho ho' answer
    have hpay : payDue (.ask o k) t due = due := by
      unfold payDue
      split
      next d k' eventID heq => exact absurd (Process.ask.inj heq).1 (ho d)
      next => rfl
    refine h.change (Row.handle_log ho hh) (changes_put w i _) fun u hu => ?_
    cases hu
    rw [hpay]
    exact h.fits_of_due_eq ht rfl rfl ⟨g', hnext _ _ hstep, hsame.trans hdue⟩

/-- The permission chain of a tool call, in an admitted step. -/
lemma Inv.dispatch (h : Inv w) (ht : w.task i = some (.call proc sid p none due))
    (hnone : NoneDue w sid) (hwithin : Within (w.log.session sid) (w.memory proc sid))
    (hst : dispatchTo w i proc sid p env = some w') : Inv w' := by
  obtain ⟨g, hlive, hdue⟩ := h.wellRun i _ ht
  unfold dispatchTo at hst
  split at hst
  next req rc k =>
    obtain ⟨⟨hworking, hnothing, hsession⟩, hnext⟩ := hlive
    -- what the call reports has the legs in memory, and those have the legs of the log
    have hreported (x : TaintState)
        (hx : reported ((w.pipelines proc).execute env (invocation req rc)).1 = some x) :
        Within (w.log.session sid) x := by
      intro y hy
      have hle := execute_reported hx
      have hmemory : ((w.pipelines proc).taintStateFor (invocation req rc).sessionID).1 =
          w.memory proc sid := by
        show ((w.pipelines proc).taintStateFor rc.sessionID).1 = _
        rw [hsession]
        rfl
      rw [hmemory] at hle
      exact (hwithin y hy).trans hle
    dsimp only at hst
    split at hst
    next r hout =>
      cases hst
      rw [hout] at hreported
      refine h.change rfl (changes_put _ i _) fun u hu => ?_
      cases hu
      exact fits_of_noneDue ⟨_, hnext _ _ rfl, rfl⟩ hnone hreported
    next d hout =>
      cases hst
      rw [hout] at hreported
      refine h.change rfl (changes_put _ i _) fun u hu => ?_
      cases hu
      exact fits_of_noneDue ⟨⟨g, ⟨hworking, hnothing, hsession⟩, hnext⟩, rfl⟩ hnone hreported
  next => nomatch hst

/-- The return of a tool call, which owes what its dispatch has taken. -/
lemma Inv.return {d : Dispatch} {out : ExecuteResult} (h : Inv w)
    (ht : w.task i = some (.call proc sid p (some d) due))
    (hst : returnTo w i proc sid p d due out = some w') : Inv w' := by
  obtain ⟨⟨g, hlive⟩, hdue⟩ := h.wellRun i _ ht
  unfold returnTo at hst
  split at hst
  next req rc k =>
    cases hst
    refine h.change rfl (changes_put w i _) fun u hu => ?_
    cases hu
    exact h.fits_of_due_eq ht rfl rfl ⟨_, hlive.2 _ _ rfl, hdue.symm⟩
  next => nomatch hst

/-! ### The steps of the other writers -/

/-- A transition that is folded in memory, in an admitted step. -/
lemma Inv.fold {pipeline : Pipeline} (h : Inv w) (hnone : NoneDue w s)
    (hwithin : Within (w.log.session s) x) :
    Inv ((w.setPipeline proc pipeline).begin (.writer proc s x origin)) := by
  refine h.change rfl (changes_begin (w.setPipeline proc pipeline) _) fun u hu => ?_
  cases hu
  refine fits_of_noneDue trivial hnone fun y hy => ?_
  cases hy
  exact hwithin

/-- The transaction of a writer appends its transition, and nothing else about legs. -/
lemma recordTransition_ok {script script' : List (Option UUID)} {u : Unit}
    (h : recordTransition s x origin (log, script) = .ok (u, (log', script'))) :
    ∃ (log₁ : Log Payload) (e : Event Payload), log₁.events = log.events ++ [e] ∧
      e.type = .taintTransition ∧ e.sessionID = s ∧
      e.payload.engaged = x ∧ ∀ s, legs (log'.session s) = legs (log₁.session s) := by
  obtain ⟨_, ⟨log₁, script₁⟩, happend, hrest⟩ := UnitOfWork.bind_ok.1 h
  obtain ⟨_, e, rfl, hevents, hsession, htype, -, -, hpayload⟩ := appendSystem_ok happend
  refine ⟨_, e, hevents, htype, hsession, by rw [hpayload]; rfl, fun s => ?_⟩
  split at hrest
  · obtain ⟨_, e', rfl, hevents', -, htype', -⟩ := appendSystem_ok hrest
    exact legs_session_other hevents' (by rw [htype']; decide) s
  · rw [(UnitOfWork.pure_ok.1 hrest).2.1]

lemma Inv.commit (h : Inv w) (ht : w.task i = some (.writer proc s x origin))
    (script : List (Option UUID)) :
    Inv { w.put i none with
      log := (UnitOfWork.commit fault (recordTransition s x origin) script w.log).2 } := by
  rcases UnitOfWork.commit_cases fault (recordTransition s x origin) script w.log with
      ⟨e, hc⟩ | ⟨_, log', script', hc, hrun⟩
  · rw [hc]
    exact h.change rfl (changes_put w i none) fun u hu => nomatch hu
  · rw [hc]
    obtain ⟨log₁, e, hevents, htype, hsession, hengaged, hlegs⟩ := recordTransition_ok hrun
    have h₁ : Inv { w.put i none with log := log₁ } :=
      h.record ht rfl hevents htype hsession hengaged fun u hu => nomatch hu
    exact h₁.congr_legs rfl hlegs

/-! ### Whole runs -/

lemma inv_fresh (cfg : ℕ → Config) (chain : ℕ → Chain) : Inv (fresh cfg chain) where
  cumulative _ _ hx := nomatch hx
  covered _ _ ht := nomatch ht
  single _ _ _ _ ht := nomatch ht
  wellRun _ _ ht := nomatch ht

lemma inv_step {kernel : Kernel} {a : Action} (h : Inv w) (hadm : Admitted w a)
    (hst : (processes kernel).step w a = some w') : Inv w' := by
  cases a with try dsimp only [processes] at hst
  | run proc tenantID sessionID cfg =>
    cases hst
    refine h.change rfl (changes_begin w _) fun u hu => ?_
    cases hu
    exact fits_of_due_none ⟨_, Entry.follows_discipline kernel tenantID sessionID [] _, rfl⟩ rfl
  | load | writeCard =>
    cases hst
    refine h.change rfl (changes_begin w _) fun u hu => ?_
    cases hu
    exact fits_of_due_none trivial rfl
  | resume i tenantID autonomyLevel seeds =>
    split at hst
    next proc sessionID entry history ht =>
      cases hst
      refine h.change rfl (changes_put _ i _) fun u hu => ?_
      cases hu
      exact fits_of_due_none ⟨_, entry.follows_discipline kernel tenantID sessionID history, rfl⟩
        rfl
    next => nomatch hst
  | reply i t =>
    split at hst
    next proc sessionID p due ht => exact h.reply ht hst
    next => nomatch hst
  | dispatch i env =>
    split at hst
    next proc sessionID p due ht =>
      have htakes : takes w (.dispatch i env) = some (sessionID, w.memory proc sessionID) := by
        simp only [takes, ht]
      obtain ⟨hnone, hwithin⟩ := hadm _ htakes
      exact h.dispatch ht hnone hwithin hst
    next => nomatch hst
  | «return» i out =>
    split at hst
    next proc sessionID p d due ht => exact h.return ht hst
    next => nomatch hst
  | finalize proc parent child =>
    cases hst
    obtain ⟨hnone, hwithin⟩ := hadm _ rfl
    exact h.fold hnone hwithin
  | readCard proc reader cardID =>
    split at hst
    next c hc =>
      cases hst
      have htakes : takes w (.readCard proc reader cardID) = some (reader, c.taintState) := by
        simp only [takes, hc, Option.map_some]
      obtain ⟨hnone, hwithin⟩ := hadm _ htakes
      exact h.fold hnone hwithin
    next => nomatch hst
  | commit i script =>
    split at hst
    next proc sessionID engaged origin ht =>
      cases hst
      exact h.commit ht script
    next => nomatch hst
  | insertCard i =>
    split at hst
    next proc sessionID c ht =>
      cases hst
      exact h.change rfl (changes_put w i none) fun u hu => nomatch hu
    next => nomatch hst
  | spawn proc parent child =>
    cases hst
    exact h.congr_legs rfl fun _ => rfl
  | leave i =>
    cases hst
    exact h.change rfl (changes_put w i none) fun u hu => nomatch hu
  | restart proc =>
    cases hst
    -- the tasks that are left are where they were
    refine h.change rfl (?_ : Changes w _ w.tasks.length none) fun u hu => nomatch hu
    intro j t hj
    have hjoin : (w.tasks[j]?.map fun o => o.bind fun t => if t.proc = proc then none else some t) =
        some (some t) := by
      rw [← List.getElem?_map]
      exact Option.join_eq_some_iff.1 hj
    obtain ⟨o, ho, hlost⟩ := Option.map_eq_some_iff.1 hjoin
    obtain ⟨t', rfl, hkept⟩ := Option.bind_eq_some_iff.1 hlost
    obtain rfl := Option.some.inj (Option.ite_none_left_eq_some.1 hkept).2
    have hlt : j < w.tasks.length := (List.getElem?_eq_some_iff.1 ho).1
    exact .inl ⟨hlt.ne, Option.join_eq_some_iff.2 ho⟩
  | note d eventID =>
    obtain ⟨htaint, heq⟩ := Option.ite_none_left_eq_some.1 hst
    obtain ⟨log, hlog, rfl⟩ := Option.map_eq_some_iff.1 heq
    exact h.congr_legs rfl (legs_session_other (Log.append_eq_some hlog).2 htaint)

/-- In a run whose steps are all admitted, reading back the taint state of a session gives
every leg that any transition of the session ever engaged. -/
theorem legs_le_rehydrateTaint (kernel : Kernel) (cfg : ℕ → Config) (chain : ℕ → Chain) {w : World}
    (h : (processes kernel).ReachesBy Admitted (fresh cfg chain) w) (s : UUID) (e : Event Payload)
    (he : e ∈ w.log.session s) (htype : e.type = .taintTransition) :
    e.payload.engaged ≤ rehydrateTaint (w.log.session s) := by
  have hinv : Inv w := h.invariant (inv_fresh cfg chain) fun _ _ _ hinv hadm hst =>
    inv_step hinv hadm hst
  apply hinv.cumulative s
  exact List.mem_map_of_mem (List.mem_filter.2 ⟨he, decide_eq_true htype⟩)

/-! ### Two runs -/

/-- A process that resolves every reference to one tool, which returns untrusted text. -/
def browsing : World :=
  fresh
    (fun _ =>
      { manifest := [], registry := fun _ => none
        dynamic := some fun _ _ ref => .ok (some
          { descriptor := { id := ref, description := "", inputSchema := "",
                            effectClass := .readOnly }
            taint := ⟨true, false, false⟩
            checkPermissions := fun _ => { decision := .defer, reason := "" }
            validateInput := fun _ => none })
        descriptorDigest := fun _ => [], canonicalDigest := fun _ _ => .ok [1] })
    (fun _ =>
      { denyRules := [], approval := ⟨fun _ => none⟩, standingScopes := []
        profiles := [{ name := "web", version := 1, tools := ["web/get@1"] }]
        safety := { rules := [] } })

/-- A session calls the tool, and its transition is recorded. -/
def browse : List Action :=
  [.run 0 7 1 {}, .reply 0 (.wrote none), .reply 0 .unmetered, .reply 0 (.appended 1),
   .reply 0 (.more true), .reply 0 (.streamed (.ok ([.toolUse "t" "web/get@1" ""], none))),
   .reply 0 (.wrote none), .reply 0 (.appended 2), .reply 0 (.more true),
   .dispatch 0 { preToolUse := {}, safety := { now := 0, leg := .answered .defer "", after := 0 } },
   .return 0 { output := "text" }, .reply 0 (.appended 3), .reply 0 (.more true),
   .reply 0 (.appended 4), .reply 0 (.more true)]

/-- The result of a child is taken. -/
def joinChild : List Action := [.finalize 0 1 2, .commit 1 [some 5, some 6, some 0]]

/-- A child that was spawned from its parent has its parent's legs. -/
theorem spawnedChild_keepsLegs :
    ∃ w e, (processes {}).ReachesBy Admitted browsing w ∧ e ∈ w.log.session 1 ∧
      e.type = .taintTransition ∧ e.payload.engaged = { untrustedInput := true } ∧
      e.payload.engaged ≤ rehydrateTaint (w.log.session 1) := by
  obtain ⟨w, hreach, e, he, htype, hengaged⟩ : ∃ w, (processes {}).ReachesBy Admitted browsing w ∧
      ∃ e ∈ w.log.session 1, e.type = .taintTransition ∧
        e.payload.engaged = { untrustedInput := true } := by
    apply Machine.ReachesBy.exists_of_runBy (browse ++ [.spawn 0 1 2] ++ joinChild)
    decide +kernel
  exact ⟨w, e, hreach, he, htype, hengaged, legs_le_rehydrateTaint {} _ _ hreach 1 e he htype⟩

/-- A child is spawned and the process restarts. The child's legs are then gone from memory, its
result is recorded with no legs, and the leg that its parent had engaged before is no longer
read back. -/
theorem restartedChild_losesLegs :
    ∃ w e, (processes {}).Reaches browsing w ∧ e ∈ w.log.session 1 ∧
      e.type = .taintTransition ∧ ¬ e.payload.engaged ≤ rehydrateTaint (w.log.session 1) := by
  obtain ⟨w, hreach, e, he, htype, hlost⟩ : ∃ w, (processes {}).Reaches browsing w ∧
      ∃ e ∈ w.log.session 1, e.type = .taintTransition ∧
        ¬ e.payload.engaged ≤ rehydrateTaint (w.log.session 1) := by
    apply Machine.Reaches.exists_of_run (browse ++ [.spawn 0 1 2, .restart 0] ++ joinChild)
    decide +kernel
  exact ⟨w, e, hreach, he, htype, hlost⟩

end NexusAgent.TaintLog
