import NexusAgent.Kernel.Rules

/-!
# A kernel call that suspends its session

A kernel call that waits for an approval or for a delegation first writes the status `suspended`,
and records what it waits for in a second transaction (`kernel/terminal.go`, `suspendForApproval`
and `suspendForDelegation`). The protocol `suspension` says that nothing comes between the two:
once the status is written, the record is due, and it is about the call's own session.

- `Entry.follows_suspension`: every kernel call keeps to this.
- `Suspending.atRecord`: a call for which the record is due waits at it.
-/

namespace NexusAgent.Kernel

open EventLog Provider Routine

/-- What is due after a status write that was answered. -/
def dueAfter (status : SessionStatus) (err : Option String) : Bool :=
  err.isNone && (status == .suspended)

/-- The record is due after the status `suspended` is written. -/
def suspension (tenantID sid : UUID) : Protocol Bool Op Op.Answer where
  admits due
    | .recordSuspension r => due = true → r.tenantID = tenantID ∧ r.sessionID = sid
    | .recordDelegation _ => True
    | _ => due = false
  step due
    | .setStatus _ status _, err, due' => due' = dueAfter status err
    | .recordSuspension _, _, due' => due' = false
    | .recordDelegation _, _, due' => due' = false
    | _, _, due' => due' = due

variable {tenantID sid : UUID} {α β : Type}

structure Own (tenantID sid : UUID) (s : RunState) : Prop where
  tenant : s.tenantID = tenantID
  session : s.sessionID = sid

lemma quiet_suspension : Quiet (suspension tenantID sid) false := by
  intro o ho
  cases o <;> first | exact ho.elim | exact ⟨rfl, fun _ _ hst => hst⟩

/-- Nothing is due, in a call on this session. -/
def Idle (tenantID sid : UUID) (s : RunState) (due : Bool) : Prop :=
  Own tenantID sid s ∧ due = false

/-- A part of a call that starts and returns with nothing due. -/
abbrev Suspends (tenantID sid : UUID) (c : Call α) : Prop :=
  Keeps (suspension tenantID sid) (Idle tenantID sid) c fun due => due = false

/-- Writes of other statuses leave nothing due. -/
lemma quietly_suspension (tenantID sid : UUID) :
    Quietly (suspension tenantID sid) (fun _ => True) (fun status => status ≠ .suspended)
      (Idle tenantID sid) fun due => due = false where
  quiet := by
    rintro s _ ⟨-, rfl⟩
    exact ⟨quiet_suspension, rfl⟩
  append := by
    rintro s _ ⟨hs, rfl⟩ d - -
    refine ⟨rfl, ?_, ?_⟩
    · rintro e _ rfl
      exact ⟨quiet_suspension, rfl⟩
    · rintro eventID seq _ rfl
      exact ⟨⟨hs.tenant, hs.session⟩, rfl⟩
  setStatus := by
    rintro s _ ⟨hs, rfl⟩ status hstatus reason
    refine ⟨rfl, fun err due hst => ⟨hs, ?_⟩⟩
    have hst : due = dueAfter status err := hst
    simp [hst, dueAfter, hstatus]

/-- The status `suspended` is written, and what the call waits for is recorded next. -/
lemma suspends_record {o : RunState → Op} {then_ : (st : RunState) → (o st).Answer → Call α}
    {err : String → Call α} (herr : ∀ e, Suspends tenantID sid (err e))
    (hadmits : ∀ s, Own tenantID sid s → (suspension tenantID sid).admits true (o s))
    (hstep : ∀ s due a due', (suspension tenantID sid).step due (o s) a due' → due' = false)
    (hthen : ∀ st a, Suspends tenantID sid (then_ st a)) :
    Suspends tenantID sid (do
      match ← updateStatus .suspended none with
      | some e => err e
      | none =>
        let st ← get
        let recorded ← request (o st)
        then_ st recorded) := by
  rintro s _ ⟨hs, rfl⟩
  refine wp_bind.2 (wp_bind.2 (wp_get.2 (wp_request.2 ⟨rfl, fun written due hst => ?_⟩)))
  have hst : due = dueAfter .suspended written := hst
  match written with
  | some e =>
    obtain rfl : due = false := hst
    exact herr e s _ ⟨hs, rfl⟩
  | none =>
    obtain rfl : due = true := hst
    refine wp_bind.2 (wp_get.2 (wp_ask (hadmits s hs) fun a due' hst' => ?_))
    obtain rfl := hstep s true a due' hst'
    exact hthen s a s _ ⟨hs, rfl⟩

lemma suspends_suspendForApproval (toolUse : Event Payload) (input : String) (result : ToolResult) :
    Suspends tenantID sid (suspendForApproval toolUse input result : Call α) := by
  have hparts := quietly_suspension tenantID sid
  refine keeps_bind (hparts.appendEvent trivial) fun ev => ?_
  apply suspends_record (o := fun st => .recordSuspension _)
  · exact fun _ => hparts.fail _ _
  · exact fun s hs _ => ⟨hs.tenant, hs.session⟩
  · exact fun _ _ _ _ hst => hst
  · intro st recorded
    match recorded with
    | some e => exact hparts.fail _ _
    | none => exact hparts.yield_stop ev

lemma suspends_suspendForDelegation (toolUse : Event Payload) (childSessionID : Option UUID) :
    Suspends tenantID sid (suspendForDelegation toolUse childSessionID : Call α) := by
  have hparts := quietly_suspension tenantID sid
  refine keeps_bind (hparts.appendEvent trivial) fun ev => ?_
  apply suspends_record (o := fun st => .recordDelegation _)
  · exact fun _ => hparts.fail _ _
  · exact fun _ _ => trivial
  · exact fun _ _ _ _ hst => hst
  · intro st recorded
    match recorded with
    | some e => exact hparts.fail _ _
    | none => exact hparts.yield_stop ev

lemma suspends (tenantID sid : UUID) :
    Pervasive (suspension tenantID sid) (Idle tenantID sid) (fun _ => Idle tenantID sid)
      fun due => due = false where
  toInvariant := (quietly_suspension tenantID sid).invariant (fun _ _ => trivial) fun h hs =>
    ⟨⟨hs.tenant.trans h.1.tenant, hs.session.trans h.1.session⟩, h.2⟩
  fail := (quietly_suspension tenantID sid).fail none
  running := (quietly_suspension tenantID sid).updateStatus (by decide) none
  terminate t := (quietly_suspension tenantID sid).terminate trivial t (by
    unfold Terminal.status
    split <;> decide)
  suspendForUserInput := (quietly_suspension tenantID sid).suspendForUserInput trivial (by decide)
  suspendForApproval := suspends_suspendForApproval
  suspendForDelegation := suspends_suspendForDelegation

/-! ### Kernel calls -/

/-- Other requests are made with nothing due. -/
lemma suspends_other {o : Op} (hadm : (suspension tenantID sid).admits false o)
    (hstep : ∀ a due, (suspension tenantID sid).step false o a due → due = false) :
    Suspends tenantID sid (request o : Call o.Answer) := by
  rintro s _ ⟨hs, rfl⟩
  exact wp_request.2 ⟨hadm, fun a due hst => ⟨hs, hstep a due hst⟩⟩

/-- A call under way keeps to the order of suspension from here on. -/
def Suspending (tenantID sid : UUID) (p : Live) (due : Bool) : Prop :=
  p.Follows (suspension tenantID sid) due fun _ due' => due' = false

theorem Entry.follows_suspension (k : Kernel) (tenantID sid : UUID)
    (history : List (Event Payload)) (entry : Entry) :
    Suspending tenantID sid (entry.start k tenantID sid history) false := by
  have h := suspends tenantID sid
  have hbudget {o : Op} (ho : o.Budgeting) : Suspends tenantID sid (request o : Call o.Answer) := by
    cases o <;> first | exact ho.elim | exact suspends_other rfl fun _ _ hst => hst
  have hcall := h.dispatchCall
    (fun req rc => suspends_other (o := .execute req rc) rfl fun _ _ hst => hst)
    fun _ => (quietly_suspension tenantID sid).note trivial
  have hturn := h.turn hbudget
    (fun p tools => suspends_other (o := .stream p tools) rfl fun _ _ hst => hst) hcall k
  exact h.follows k hturn (fun s ht hs => ⟨⟨ht, hs⟩, rfl⟩) history entry

/-- Whether a call waits at the record of what its session waits for. -/
def atRecord (tenantID sid : UUID) : Live → Bool
  | .ask (.recordSuspension r) _ => r.tenantID = tenantID ∧ r.sessionID = sid
  | .ask (.recordDelegation _) _ => true
  | _ => false

/-- A call for which the record is due waits at it. -/
theorem Suspending.atRecord {p : Live} (h : Suspending tenantID sid p true) :
    atRecord tenantID sid p = true := by
  cases p with
  | done a => nomatch (h : true = false)
  | ask o k =>
    have hadm := h.1
    cases o with
    | recordSuspension r => exact decide_eq_true (hadm rfl)
    | recordDelegation r => rfl
    | _ => nomatch (hadm : true = false)

end NexusAgent.Kernel
