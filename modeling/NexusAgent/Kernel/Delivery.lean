import NexusAgent.Kernel.Discipline

/-!
# What the consumer of a kernel call sees

A kernel call hands its events to a consumer, who may stop it at each of them. An event is
appended first and handed over afterwards, and nothing is handed over but the events of the
call's own appends. The last of them says how the call came out: the run has ended, or it waits
for an approval, a delegation or the user.

`Record` is what a call has done so far, as its surroundings see it. An append or a write of the
status that reports an error may have been committed nevertheless. `delivery` admits an event to
be handed over when it is the next one that was appended, and admits nothing after the consumer
has stopped or was given an error.

- `Entry.follows_delivery`: every kernel call keeps to this, and when it is over it is
  `Finished`: with neither a stop nor an error all of its events have been handed over, exactly
  one of them is an outcome, it is the last one, and the status that was written last is its
  own.
-/

namespace NexusAgent.Kernel

open EventLog Provider Routine

/-- Whether an event says how a call came out. -/
def isOutcome : EventType → Bool
  | .terminal | .approvalRequested | .delegationRequested | .awaitingInput => true
  | _ => false

def outcomeStatus (e : Event Payload) : SessionStatus :=
  match e.type with
  | .terminal => e.payload.endStatus
  | .awaitingInput => .awaitingInput
  | _ => .suspended

/-- What a call has done so far. -/
structure Record where
  appended : List (Event Payload) := []
  /-- The events that it has handed to the consumer. -/
  yielded : List (Event Payload) := []
  /-- The status that it wrote last. -/
  status : Option SessionStatus := none
  /-- The consumer has stopped the call or was given an error. -/
  stopped : Bool := false

namespace Record

def noted (r : Record) (ev : Event Payload) : Record := { r with appended := r.appended ++ [ev] }

def marked (r : Record) (status : SessionStatus) : Record := { r with status := some status }

def handed (r : Record) (ev : Option (Event Payload)) (err : Option String) (more : Bool) :
    Record :=
  { r with yielded := r.yielded ++ ev.toList, stopped := !more || err.isSome }

def AfterAppend (r : Record) (d : Draft) : Except AppendError (UUID × ℕ) → Record → Prop
  | .ok (eventID, seq), r' => r' = r.noted (d.event eventID seq)
  | .error _, r' => r' = r ∨ ∃ ev, r' = r.noted ev

/-- What the answer to a write of the status says about the record after it. -/
def AfterStatus (r : Record) (status : SessionStatus) : Option String → Record → Prop
  | none, r' => r' = r.marked status
  | some _, r' => r' = r ∨ r' = r.marked status

end Record

/-- The order of appends and yields of a call. -/
def delivery : Protocol Record Op Op.Answer where
  admits r o := r.stopped = false ∧
    match o with
    | .yield (some ev) _ => r.yielded ++ [ev] <+: r.appended
    | _ => True
  step r
    | .append d, answer, r' => r.AfterAppend d answer r'
    | .setStatus _ status _, err, r' => r.AfterStatus status err r'
    | .yield ev err, more, r' => r' = r.handed ev err more
    | _, _, r' => r' = r

structure Finished (r : Record) : Prop where
  yielded_initial : r.yielded <+: r.appended
  outcome : r.stopped = false → ∃ before ev, r.appended = before ++ [ev] ∧ r.yielded = r.appended ∧
    isOutcome ev.type = true ∧ (∀ e ∈ before, isOutcome e.type = false) ∧
    r.status = some (outcomeStatus ev)

/-- A call under way that has handed over all of its events. -/
structure Flushed (r : Record) : Prop where
  live : r.stopped = false
  yielded_eq : r.yielded = r.appended
  plain : ∀ e ∈ r.appended, isOutcome e.type = false

/-- A call under way that has handed over all of its events but the last one. -/
structure Owes (ev : Event Payload) (r : Record) : Prop where
  live : r.stopped = false
  appended_eq : r.appended = r.yielded ++ [ev]
  plain : ∀ e ∈ r.yielded, isOutcome e.type = false

variable {α β : Type} {s : RunState} {r : Record} {ev : Event Payload}
  {R : α → RunState → Record → Prop}

/-! ### Rules -/

/-- Requests that a consumer does not notice. -/
def Op.Silent : Op → Prop
  | .append _ | .setStatus .. | .yield .. => False
  | _ => True

lemma wp_silent {o : Op} {R : o.Answer → RunState → Record → Prop} (ho : o.Silent)
    (hlive : r.stopped = false) (hR : ∀ a, R a s r) : wp delivery (request o) R Finished s r := by
  cases o <;> first
    | exact ho.elim
    | exact ⟨⟨hlive, trivial⟩, fun a _ hst => hst ▸ hR a⟩

lemma Flushed.noted (h : Flushed r) (ev : Event Payload) : Owes ev (r.noted ev) where
  live := h.live
  appended_eq := congrArg (· ++ [ev]) h.yielded_eq.symm
  plain := h.yielded_eq ▸ h.plain

lemma Owes.marked (h : Owes ev r) (status : SessionStatus) : Owes ev (r.marked status) :=
  ⟨h.live, h.appended_eq, h.plain⟩

lemma Flushed.marked (h : Flushed r) (status : SessionStatus) : Flushed (r.marked status) :=
  ⟨h.live, h.yielded_eq, h.plain⟩

/-- The last event is handed over and the call goes on. -/
lemma Owes.handed (h : Owes ev r) (hev : isOutcome ev.type = false) :
    Flushed (r.handed (some ev) none true) where
  live := rfl
  yielded_eq := h.appended_eq.symm
  plain := by
    show ∀ e ∈ r.appended, isOutcome e.type = false
    rw [h.appended_eq]
    exact List.forall_mem_append.2 ⟨h.plain, List.forall_mem_singleton.2 hev⟩

lemma finished_of_stopped {r : Record} (hstopped : r.stopped = true)
    (h : r.yielded <+: r.appended) : Finished r :=
  ⟨h, fun hnot => absurd (hstopped.symm.trans hnot) (by decide)⟩

variable {actor : Actor} {c : Call α} {type : EventType} {toolID : Option String}
  {pairRef : Option UUID} {payload : Payload} {err : String}

lemma wp_failed {ev : Option (Event Payload)} (hlive : r.stopped = false)
    (h : r.yielded ++ ev.toList <+: r.appended) : wp delivery (fail ev err) R Finished s r := by
  refine wp_ask ⟨hlive, ?_⟩ ?_
  · cases ev with
    | none => trivial
    | some ev => exact h
  · rintro more _ rfl
    exact wp_stop.2 (finished_of_stopped (Bool.or_true _) h)

lemma Flushed.wp_fail (h : Flushed r) : wp delivery (fail none err) R Finished s r := by
  refine wp_failed h.live ?_
  show r.yielded ++ [] <+: r.appended
  rw [List.append_nil]
  exact h.yielded_eq ▸ List.prefix_rfl

lemma Owes.wp_fail (h : Owes ev r) : wp delivery (fail (some ev) err) R Finished s r := by
  refine wp_failed h.live ?_
  rw [h.appended_eq]
  exact List.prefix_rfl

lemma Flushed.wp_append {R : Event Payload → RunState → Record → Prop} (h : Flushed r)
    (hR : ∀ ev s' r', Owes ev r' → ev.type = type → ev.payload = payload → R ev s' r') :
    wp delivery (appendEvent type actor toolID pairRef payload) R Finished s r := by
  refine wp_bind.2 (wp_get.2 (wp_ask ⟨h.live, trivial⟩ ?_))
  intro answer r' hst
  match answer, hst with
  | .error e, .inl hr' =>
    obtain rfl := hr'
    exact h.wp_fail
  | .error e, .inr ⟨ev, hr'⟩ =>
    -- committed, but the call does not know it
    obtain rfl := hr'
    refine wp_failed h.live ?_
    show r.yielded ++ [] <+: r.appended ++ [ev]
    rw [List.append_nil, h.yielded_eq]
    exact List.prefix_append _ _
  | .ok (eventID, seq), hr' =>
    obtain rfl := hr'
    exact wp_bind.2 (wp_set.2 (hR _ _ _ (h.noted _) rfl rfl))

/-- The event that the call owes is handed over. -/
lemma Owes.wp_emit {R : Unit → RunState → Record → Prop} (h : Owes ev r)
    (hev : isOutcome ev.type = false) (hR : ∀ r', Flushed r' → R () s r') :
    wp delivery (emit ev) R Finished s r := by
  have hnext : r.yielded ++ [ev] <+: r.appended := h.appended_eq ▸ List.prefix_rfl
  refine wp_ask ⟨h.live, hnext⟩ ?_
  rintro more _ rfl
  cases (show Bool from more) with
  | false => exact wp_stop.2 (finished_of_stopped rfl hnext)
  | true => exact hR _ (h.handed hev)

/-- A status is written, or an error is reported. -/
lemma wp_status {status : SessionStatus} {reason : Option TerminalReason}
    {R : Option String → RunState → Record → Prop} (hlive : r.stopped = false)
    (hok : R none s (r.marked status))
    (herr : ∀ err r', r' = r ∨ r' = r.marked status → R (some err) s r') :
    wp delivery (updateStatus status reason) R Finished s r := by
  refine wp_bind.2 (wp_get.2 (wp_request.2 ⟨⟨hlive, trivial⟩, ?_⟩))
  intro err r' hst
  match err, hst with
  | none, hr' =>
    obtain rfl := hr'
    exact hok
  | some err, hr' => exact herr err r' hr'

lemma Owes.wp_last (h : Owes ev r) (hev : isOutcome ev.type = true)
    (hstatus : r.status = some (outcomeStatus ev)) :
    wp delivery (do let _ ← yield (some ev) none; stop) R Finished s r := by
  have hnext : r.yielded ++ [ev] <+: r.appended := h.appended_eq ▸ List.prefix_rfl
  refine wp_ask ⟨h.live, hnext⟩ ?_
  rintro more _ rfl
  refine wp_stop.2 ⟨hnext, fun _ => ?_⟩
  exact ⟨r.yielded, ev, h.appended_eq, h.appended_eq.symm, hev, h.plain, hstatus⟩

/-- A part of a call that does not return. -/
def Ends (c : Call α) : Prop :=
  ∀ s r, Flushed r → wp delivery c (fun _ _ _ => False) Finished s r

lemma Ends.keeps (h : Ends c) : Keeps delivery (fun _ => Flushed) c Finished := fun s r hr =>
  wp_mono (h s r hr) fun _ _ _ hfalse => hfalse.elim

/-! ### Outcomes -/

/-- An outcome is appended and its status written; a failure of the write is handed over with
the event. -/
lemma wp_outcome {status : SessionStatus} {reason : Option TerminalReason}
    {text : Event Payload → String} {c : Event Payload → Call α} (htype : isOutcome type = true)
    (hstatus : ∀ ev : Event Payload, ev.type = type → ev.payload = payload →
      outcomeStatus ev = status)
    (hc : ∀ ev s r, Owes ev r → isOutcome ev.type = true → r.status = some (outcomeStatus ev) →
      wp delivery (c ev) R Finished s r) (hr : Flushed r) :
    wp delivery (do
      let ev ← appendEvent type .system toolID none payload
      match ← updateStatus status reason with
      | some err => fail (some ev) (text ev ++ err)
      | none => c ev) R Finished s r := by
  refine wp_bind.2 (hr.wp_append fun ev s' r' howes hev hpayload => ?_)
  refine wp_bind.2 (wp_status howes.live ?_ ?_)
  · refine hc ev s' _ (howes.marked status) (hev ▸ htype) ?_
    exact congrArg some (hstatus ev hev hpayload).symm
  · rintro err _ (rfl | rfl)
    · exact howes.wp_fail
    · exact (howes.marked status).wp_fail

lemma ends_terminate (t : Terminal) : Ends (terminate t : Call α) := by
  intro s r hr
  refine wp_outcome rfl ?_ (fun ev s r howes hev hst => ?_) hr
  · intro ev htype hpayload
    unfold outcomeStatus
    rw [htype, hpayload]
    rfl
  · exact wp_bind.2 (wp_silent (o := .forget _) trivial howes.live fun _ => howes.wp_last hev hst)

lemma ends_suspendForApproval (toolUse : Event Payload) (input : String) (result : ToolResult) :
    Ends (suspendForApproval toolUse input result : Call α) := by
  intro s r hr
  refine wp_outcome rfl ?_ (fun ev s r howes hev hst => ?_) hr
  · intro ev htype _
    unfold outcomeStatus
    rw [htype]
  · refine wp_bind.2 (wp_get.2 (wp_bind.2 ?_))
    refine wp_silent (o := .recordSuspension _) trivial howes.live fun recorded => ?_
    match recorded with
    | some err => exact howes.wp_fail
    | none => exact howes.wp_last hev hst

lemma ends_suspendForDelegation (toolUse : Event Payload) (childSessionID : Option UUID) :
    Ends (suspendForDelegation toolUse childSessionID : Call α) := by
  intro s r hr
  refine wp_outcome rfl ?_ (fun ev s r howes hev hst => ?_) hr
  · intro ev htype _
    unfold outcomeStatus
    rw [htype]
  · refine wp_bind.2 (wp_get.2 (wp_bind.2 ?_))
    refine wp_silent (o := .recordDelegation _) trivial howes.live fun recorded => ?_
    match recorded with
    | some err => exact howes.wp_fail
    | none => exact howes.wp_last hev hst

lemma ends_suspendForUserInput : Ends (suspendForUserInput : Call α) := by
  intro s r hr
  refine wp_outcome rfl ?_ (fun ev s r howes hev hst => howes.wp_last hev hst) hr
  intro ev htype _
  unfold outcomeStatus
  rw [htype]

/-! ### Kernel calls -/

lemma keeps_silent {o : Op} (ho : o.Silent) :
    Keeps delivery (fun _ => Flushed) (request o : Call o.Answer) Finished :=
  fun _ _ hr => wp_silent ho hr.live fun _ => hr

lemma isOutcome_of_plain (htype : Plain type) : isOutcome type = false := by
  cases type <;> first | rfl | exact absurd htype (by decide)

/-- Between its events a call has handed over all of them. -/
lemma delivers : Pervasive delivery (fun _ => Flushed)
    (fun ev _ r => Owes ev r ∧ isOutcome ev.type = false) Finished where
  passing {o} ho := keeps_silent (by cases o <;> first | exact ho.elim | trivial)
  append htype _ _ hr :=
    hr.wp_append fun _ _ _ howes hev _ => ⟨howes, hev ▸ isOutcome_of_plain htype⟩
  emit h := h.1.wp_emit h.2 fun _ hr => hr
  same hr _ := hr
  same_owed h _ := h
  fail err _ _ hr := hr.wp_fail
  running s r hr := wp_status hr.live (hr.marked _) fun err r' hr' => by
    rcases hr' with rfl | rfl
    · exact hr
    · exact hr.marked _
  terminate t := (ends_terminate t).keeps
  suspendForUserInput := ends_suspendForUserInput.keeps
  suspendForApproval _ _ _ := (ends_suspendForApproval _ _ _).keeps
  suspendForDelegation _ _ := (ends_suspendForDelegation _ _).keeps

/-- Whatever its surroundings answer, a kernel call hands over its own events in the order of
their appends, and is finished when it is over. -/
theorem Entry.follows_delivery (k : Kernel) (tenantID sessionID : UUID)
    (history : List (Event Payload)) (entry : Entry) :
    (entry.start k tenantID sessionID history).Follows delivery {} fun _ r => Finished r := by
  have htaint (engaged : Permissions.TaintState) :
      Keeps delivery (fun _ => Flushed) (recordTaint engaged) Finished := by
    intro s r hr
    refine wp_bind.2 (hr.wp_append fun ev s' r' howes hev _ => ?_)
    exact howes.wp_emit (hev ▸ rfl) fun _ hr' => hr'
  have hcall := delivers.dispatchCall (fun _ _ => keeps_silent (o := .execute ..) trivial) htaint
  have hturn := delivers.turn
    (fun {o} ho => keeps_silent (by cases o <;> first | exact ho.elim | trivial))
    (fun _ _ => keeps_silent (o := .stream ..) trivial) hcall k
  refine delivers.follows k hturn (fun _ _ _ => ?_) history entry
  exact ⟨rfl, rfl, List.forall_mem_nil _⟩

end NexusAgent.Kernel
