import NexusAgent.Lib.Lists
import NexusAgent.Lifecycle.Suspended
import NexusAgent.Oversight.PendingRows

/-!
# Suspended sessions can be resumed

A suspended session is held as long as something pending will drive it on, or a driver has that in
hand. It is not held any more when an approval expires, which changes the approval and not the
session; when `Steer` invalidates the approval, since `Resume` then refuses the session because it
is suspended; and when a driver is lost that had the only thing the session waited for.
-/

namespace NexusAgent.Lifecycle

open EventLog Kernel Oversight Control

section

variable (tenantID sid : UUID)

/-! ### The condition -/

/-- What a step of a plan waits for is still pending. -/
def World.Awaits (w : World) : Gate → Prop
  | .approval approvalID =>
    ∃ ap ∈ w.approvals.pendingOf tenantID sid, ap.approvalID = approvalID
  | .input inputRequestID =>
    ∃ ir ∈ w.inputs, ir.inputRequestID = inputRequestID ∧ ir.inputRequestID ∈ w.gates ∧
      ir.status = .pending
  | .fanout fanoutID => w.CohortOpen fanoutID

instance (w : World) (g : Gate) : Decidable (w.Awaits tenantID sid g) := by
  cases g <;> unfold World.Awaits <;> infer_instance

def wentThrough : Reply → Bool
  | .wrote none => true
  | _ => false

/-- The transactions of a driver that holds the session go through; `Steer` finds no approval to
invalidate; a step of a plan suspends the session while what it waits for is pending. -/
def Driver.GoesOn (w : World) : Action → Driver → Prop
  | .reply _ t, .kernel true _ => wentThrough t = true
  | .record _ approvalID expiresAt script, .kernel _ (.ask (.recordSuspension req) _) =>
    (inTenant (createWork (creation req approvalID expiresAt)) script
      w.approvals).1.isOk = true
  | .bind _ err, .kernel _ (.ask (.recordDelegation req) _) =>
    (bindDelegation w.delegations (req.childSessionID.getD 0) req.toolUseEventID err).1 = none
  | .suspend _, .suspending g => w.Awaits tenantID sid g
  | .release .., .steering .. => w.approvals.pendingOf tenantID sid = []
  | .finish _ script, .cancelling reason (.ending true) =>
    (UnitOfWork.commit storeError
      (endRun "cancel" sid { reason := .aborted, detail := reason }) script
      w.row).1.isOk = true
  | .lose _, d => d.holds tenantID sid = false
  | _, _ => True

instance (w : World) (a : Action) (d : Driver) : Decidable (d.GoesOn tenantID sid w a) := by
  unfold Driver.GoesOn
  split <;> infer_instance

/-- The condition on a step: a driver goes on as it should, and approvals and the input requests of
plans are decided before their deadline, the latter by handlers that go on with the plan. -/
def Careful (w : World) : Action → Prop
  | .reply i t => ∀ d ∈ w.drivers[i]?, d.GoesOn tenantID sid w (.reply i t)
  | .record i a e script => ∀ d ∈ w.drivers[i]?, d.GoesOn tenantID sid w (.record i a e script)
  | .bind i err => ∀ d ∈ w.drivers[i]?, d.GoesOn tenantID sid w (.bind i err)
  | .suspend i => ∀ d ∈ w.drivers[i]?, d.GoesOn tenantID sid w (.suspend i)
  | .release i script => ∀ d ∈ w.drivers[i]?, d.GoesOn tenantID sid w (.release i script)
  | .finish i script => ∀ d ∈ w.drivers[i]?, d.GoesOn tenantID sid w (.finish i script)
  | .lose i => ∀ d ∈ w.drivers[i]?, d.GoesOn tenantID sid w (.lose i)
  | .decide approvalID now _ _ _ _ =>
    ∀ ap ∈ w.approvals.visible tenantID approvalID, ¬ (ap.status = .pending ∧ ap.expiresAt < now)
  | .answer inputRequestID now _ gate =>
    inputRequestID ∈ w.gates →
      gate = true ∧ ∀ ir ∈ w.inputs.lock tenantID inputRequestID, ¬ ir.Lapsed now
  | .expireInput inputRequestID => inputRequestID ∉ w.gates
  | _ => True

instance (w : World) (a : Action) : Decidable (Careful tenantID sid w a) := by
  cases a <;> unfold Careful <;> infer_instance

/-! ### Holding a session -/

section Held

variable {tenantID sid} {w w' : World} {i : ℕ} {d d' : Driver}

/-- What is pending stays so when the tables only gain rows. -/
lemma World.Held.mono (h : w.Held tenantID sid)
    (hpending : w.Pending tenantID sid → w'.Pending tenantID sid)
    (hdrivers : w'.drivers = w.drivers) : w'.Held tenantID sid := by
  obtain h | ⟨d, hd, hholds⟩ := h
  · exact .inl (hpending h)
  · exact .inr ⟨d, hdrivers ▸ hd, hholds⟩

lemma World.Held.add (h : w.Held tenantID sid) (d : Driver) : (w.add d).Held tenantID sid := by
  obtain h | ⟨d', hd', hholds⟩ := h
  · exact .inl h
  · exact .inr ⟨d', List.mem_append_left _ hd', hholds⟩

lemma World.held_put (hi : w.drivers[i]? = some d) (h : d'.holds tenantID sid = true) :
    (w.put i d').Held tenantID sid := by
  obtain ⟨hlt, -⟩ := List.getElem?_eq_some_iff.1 hi
  exact .inr ⟨d', List.mem_set hlt d', h⟩

lemma World.Held.put (h : w.Held tenantID sid) (hi : w.drivers[i]? = some d)
    (hholds : d.holds tenantID sid = true → d'.holds tenantID sid = true) :
    (w.put i d').Held tenantID sid := by
  obtain h | ⟨e, he, heholds⟩ := h
  · exact .inl h
  · by_cases hd : d.holds tenantID sid = true
    · exact held_put hi (hholds hd)
    · -- the driver that holds the session is another one, and stays where it is
      obtain ⟨before, after, heq, -, -, hset⟩ := List.exists_split hi
      have hmem : e ∈ before ++ d' :: after := by
        rw [heq] at he
        simp only [List.mem_append, List.mem_cons] at he ⊢
        obtain he | rfl | he := he
        · exact .inl he
        · exact absurd heholds hd
        · exact .inr (.inr he)
      refine .inr ⟨e, ?_, heholds⟩
      rw [World.put, hset]
      exact hmem

lemma World.pending_of_mem {ap : Approval} (h : ap ∈ w.approvals.pendingOf tenantID sid) :
    w.Pending tenantID sid :=
  .inl (List.ne_nil_of_mem h)

/-- What a step of a plan waits for is pending. -/
lemma World.Awaits.pending {g : Gate} (h : w.Awaits tenantID sid g) : w.Pending tenantID sid := by
  cases g with
  | approval id =>
    obtain ⟨ap, hap, -⟩ := h
    exact pending_of_mem hap
  | input id =>
    obtain ⟨ir, hir, -, hrest⟩ := h
    exact .inr (.inl ⟨ir, hir, hrest⟩)
  | fanout id =>
    obtain ⟨d, hd, hfanout, hpending⟩ := h
    exact .inr (.inr ⟨d, hd, hpending, .inr (hfanout ▸ rfl)⟩)

/-- Approvals that gain rows for the session keep the pending ones. -/
lemma World.Pending.approvals (h : w.Pending tenantID sid)
    (hrows : ∀ ap ∈ w.approvals.pendingOf tenantID sid, ap ∈ w'.approvals.pendingOf tenantID sid)
    (hinputs : w'.inputs = w.inputs) (hgates : w'.gates = w.gates)
    (hdelegations : w'.delegations = w.delegations) : w'.Pending tenantID sid := by
  obtain h | h | h := h
  · obtain ⟨ap, hap⟩ := List.exists_mem_of_ne_nil _ h
    exact pending_of_mem (hrows ap hap)
  · refine .inr (.inl ?_)
    unfold World.Asked
    rw [hinputs, hgates]
    exact h
  · refine .inr (.inr ?_)
    unfold World.Delegated
    rw [hdelegations]
    exact h

end Held

/-! ### The invariant -/

/-- A kernel call keeps to the order of suspension, and one that applies a decision is about to
write the status `running`. -/
def Driver.Ok : Driver → Prop
  | .kernel applies live =>
    (∃ due, Suspending tenantID sid live due) ∧
      (applies = true → ∃ rest, live = .ask (.setStatus sid .running none) rest)
  | _ => True

/-- The invariant: a session that is suspended is held. -/
structure Inv (w : World) : Prop where
  keyed : Keyed w.approvals
  drivers : ∀ d ∈ w.drivers, d.Ok tenantID sid
  held : w.row.status = .suspended → w.Held tenantID sid

namespace Inv

variable {tenantID sid} {w w' : World} {i : ℕ} {d d' : Driver}

section

variable (h : Inv tenantID sid w)
include h

lemma drivers_add (hok : d.Ok tenantID sid) : ∀ e ∈ (w.add d).drivers, e.Ok tenantID sid :=
  List.forall_mem_snoc h.drivers hok

lemma add (hok : d.Ok tenantID sid) : Inv tenantID sid (w.add d) where
  keyed := h.keyed
  drivers := h.drivers_add hok
  held hs := (h.held hs).add d

/-- A driver begins that holds the session, whatever happens to the tables. -/
lemma begins (hkeyed : Keyed w'.approvals) (hdrivers : w'.drivers = (w.add d).drivers)
    (hok : d.Ok tenantID sid) (hholds : d.holds tenantID sid = true) : Inv tenantID sid w' where
  keyed := hkeyed
  drivers := hdrivers ▸ h.drivers_add hok
  held _ := .inr ⟨d, hdrivers ▸ List.mem_append_right _ (List.mem_singleton.2 rfl), hholds⟩

lemma drivers_put (hok : d'.Ok tenantID sid) : ∀ e ∈ (w.put i d').drivers, e.Ok tenantID sid := by
  intro e he
  obtain he | rfl := List.mem_or_eq_of_mem_set he
  · exact h.drivers e he
  · exact hok

lemma put (hi : w.drivers[i]? = some d) (hok : d'.Ok tenantID sid)
    (hholds : d.holds tenantID sid = true → d'.holds tenantID sid = true) :
    Inv tenantID sid (w.put i d') where
  keyed := h.keyed
  drivers := h.drivers_put hok
  held hs := (h.held hs).put hi hholds

/-- A driver goes on and holds the session, whatever happens to the row and the tables. -/
lemma takes (hi : w.drivers[i]? = some d) (hkeyed : Keyed w'.approvals)
    (hdrivers : w'.drivers = (w.put i d').drivers) (hok : d'.Ok tenantID sid)
    (hholds : d'.holds tenantID sid = true) : Inv tenantID sid w' where
  keyed := hkeyed
  drivers := hdrivers ▸ h.drivers_put hok
  held _ := by
    obtain ⟨hlt, -⟩ := List.getElem?_eq_some_iff.1 hi
    exact .inr ⟨d', hdrivers ▸ List.mem_set hlt d', hholds⟩

lemma row {row : Row} (hstatus : row.status = .suspended → w.row.status = .suspended) :
    Inv tenantID sid { w with row } where
  keyed := h.keyed
  drivers := h.drivers
  held hs := (h.held (hstatus hs)).mono id rfl

lemma tables (hkeyed : Keyed w'.approvals) (hrow : w'.row = w.row)
    (hdrivers : w'.drivers = w.drivers)
    (hpending : w.Pending tenantID sid → w'.Pending tenantID sid) : Inv tenantID sid w' where
  keyed := hkeyed
  drivers := hdrivers ▸ h.drivers
  held hs := (h.held (hrow ▸ hs)).mono hpending hdrivers

end

end Inv

end

/-! ### Kernel calls -/

section

variable {tenantID sid : UUID} {k : Kernel}

/-- A kernel call that the run control or a plan begins. -/
lemma ok_callKernel (w : World) (entry : Entry) :
    (Driver.kernel false (w.callKernel k tenantID sid entry)).Ok tenantID sid :=
  ⟨⟨false, Entry.follows_suspension k tenantID sid _ entry⟩, nofun⟩

variable {script : List (Option UUID)} {o : Op} {t : Reply} {r r' : Row}

/-- What is answered here is answered as in `Row.handle`. -/
lemma handle_row {a : o.Answer} (h : handle r o t = some (a, r')) :
    r.handle o t = some (a, r') := by
  cases o with
  | recordSuspension | recordDelegation => nomatch h
  | _ => exact h

/-- A request that is answered leaves the status as it is, writes another one than `suspended`, or
is the write after which the record is due. -/
lemma status_of_handle {rest : o.Answer → Live} {due : Bool} {a : o.Answer}
    (hlive : Suspending tenantID sid (.ask o rest) due) (h : handle r o t = some (a, r')) :
    ∃ due', Suspending tenantID sid (rest a) due' ∧
      (r'.status = r.status ∨ r'.status ≠ .suspended ∨ due' = true) := by
  have hrow := handle_row h
  cases o with
  | setStatus id status reason =>
    have hset : r.handle (.setStatus id status reason) t = some ((a : Option String), r') := hrow
    obtain ⟨-, rfl⟩ := Row.handle_setStatus hset
    refine ⟨dueAfter status a, hlive.2 a _ rfl, ?_⟩
    cases a with
    | some err => exact .inl rfl
    | none =>
      by_cases hs : status = .suspended
      · exact .inr (.inr (by simp [dueAfter, hs]))
      · exact .inr (.inl hs)
  | append d =>
    refine ⟨due, hlive.2 a _ rfl, .inl ?_⟩
    obtain ⟨e, -, rfl⟩ | ⟨eventID, log, -, -, rfl⟩ := Row.handle_append hrow <;> rfl
  | recordSuspension req | recordDelegation req => cases h
  | _ =>
    refine ⟨due, hlive.2 a _ rfl, .inl ?_⟩
    refine congrArg Row.status (Row.handle_eq ?_ hrow)
    exact fun hwrites => hwrites

/-! ### Steps -/

variable {digest : String → String → Option Oversight.Digest} {w w' : World} {i : ℕ}

/-- A request of a kernel call is answered. -/
lemma Inv.reply (h : Inv tenantID sid w) {applies : Bool} {live live' : Live} {row : Row}
    (hi : w.drivers[i]? = some (.kernel applies live))
    (hgoes : (Driver.kernel applies live).GoesOn tenantID sid w (.reply i t))
    (hadvance : live.advance handle w.row t = some (row, live')) :
    Inv tenantID sid { w.put i (.kernel false live') with row } := by
  obtain ⟨⟨due, hlive⟩, happlies⟩ := h.drivers _ (List.mem_of_getElem? hi)
  obtain ⟨o, rest, a, rfl, hhandle, rfl⟩ := Process.advance_eq_some.1 hadvance
  obtain ⟨due', hnext, hstatus⟩ := status_of_handle hlive hhandle
  have hok : (Driver.kernel false (rest a)).Ok tenantID sid := ⟨⟨due', hnext⟩, nofun⟩
  refine ⟨h.keyed, h.drivers_put hok, fun hs => ?_⟩
  have hs : row.status = .suspended := hs
  cases applies with
  | true =>
    -- the decision is applied: the status `running` is written
    obtain ⟨rest', heq⟩ := happlies rfl
    obtain ⟨rfl, -⟩ := Process.ask.inj heq
    have hset : w.row.handle (.setStatus sid .running none) t = some ((a : Option String), row) :=
      hhandle
    obtain ⟨rfl, rfl⟩ := Row.handle_setStatus hset
    match a with
    | none => nomatch hs
    | some err => nomatch (hgoes : false = true)
  | false =>
    obtain hsame | hother | rfl := hstatus
    · refine ((h.held (hsame ▸ hs)).put hi fun hholds => ?_).mono id rfl
      -- the call was not at a record, so it is not what held the session
      cases o with
      | recordSuspension | recordDelegation => nomatch hhandle
      | _ => nomatch hholds
    · exact absurd hs hother
    · have hheld : (w.put i (.kernel false (rest a))).Held tenantID sid :=
        World.held_put hi hnext.atRecord
      exact hheld.mono id rfl

lemma Inv.created (h : Inv tenantID sid w) {applies : Bool} {req : SuspendRequest}
    {rest : Option String → Live} {approvals : Store} {ap : Approval}
    (hi : w.drivers[i]? = some (.kernel applies (.ask (.recordSuspension req) rest)))
    (hcreated : Created w.approvals approvals ap)
    (hpending : ap ∈ approvals.pendingOf req.tenantID req.sessionID) :
    Inv tenantID sid { w.put i (.kernel false (rest none)) with approvals } := by
  obtain ⟨⟨due, hlive⟩, happlies⟩ := h.drivers _ (List.mem_of_getElem? hi)
  have hok : (Driver.kernel false (rest none)).Ok tenantID sid :=
    ⟨⟨false, hlive.2 none false rfl⟩, nofun⟩
  refine ⟨hcreated.keyed h.keyed, h.drivers_put hok, fun hs => ?_⟩
  by_cases hown : req.tenantID = tenantID ∧ req.sessionID = sid
  · obtain ⟨rfl, rfl⟩ := hown
    exact .inl (World.pending_of_mem hpending)
  · -- a record for another session was not what held this one
    have hput : (w.put i (.kernel false (rest none))).Held tenantID sid := by
      refine (h.held hs).put hi fun hholds => ?_
      cases applies with
      | true =>
        obtain ⟨rest', heq⟩ := happlies rfl
        nomatch (Process.ask.inj heq).1
      | false => exact absurd (of_decide_eq_true hholds) hown
    refine hput.mono (fun hp => hp.approvals ?_ rfl rfl rfl) rfl
    exact fun row hrow => hcreated.mem_pendingOf hrow

/-- A kernel call records the approval that its session waits for. -/
lemma Inv.record (h : Inv tenantID sid w) {approvalID : UUID} {expiresAt : ℕ}
    (hc : Careful tenantID sid w (.record i approvalID expiresAt script))
    (hst : (lifecycle k digest tenantID sid).step w (.record i approvalID expiresAt script) =
      some w') : Inv tenantID sid w' := by
  dsimp only [lifecycle] at hst
  split at hst
  next applies req rest hi =>
    have hgoes : (inTenant (createWork (creation req approvalID expiresAt))
      script w.approvals).1.isOk = true := hc _ hi
    obtain ⟨e, heq⟩ | ⟨ap, approvals, heq, hcreated, hpending⟩ :=
      create_cases (creation req approvalID expiresAt) script w.approvals
    · rw [heq] at hgoes
      nomatch hgoes
    · rw [heq] at hst
      cases hst
      exact h.created hi hcreated hpending
  next => nomatch hst

/-- A delegation that is bound is pending. -/
lemma World.delegated_of_bind {childSessionID toolUseEventID : UUID} {err : Option String}
    (hbound : (bindDelegation w.delegations childSessionID toolUseEventID err).1 = none)
    (hdelegations : w'.delegations =
      (bindDelegation w.delegations childSessionID toolUseEventID err).2) : w'.Delegated := by
  unfold World.Delegated
  rw [hdelegations]
  unfold bindDelegation at hbound ⊢
  split at hbound
  · nomatch hbound
  split at hbound
  next hfound =>
    -- the row that was found pending is bound now
    obtain ⟨d, hd, hchild, hpending⟩ := hfound
    rw [if_pos ⟨d, hd, hchild, hpending⟩]
    refine ⟨{ d with parentToolUseEventID := some toolUseEventID }, ?_, hpending, .inl rfl⟩
    exact List.mem_map.2 ⟨d, hd, if_pos ⟨hchild, hpending⟩⟩
  · nomatch hbound

/-- A kernel call binds the delegation that its session waits for. -/
lemma Inv.bind (h : Inv tenantID sid w) {err : Option String}
    (hc : Careful tenantID sid w (.bind i err))
    (hst : (lifecycle k digest tenantID sid).step w (.bind i err) = some w') :
    Inv tenantID sid w' := by
  dsimp only [lifecycle] at hst
  split at hst
  next applies req rest hi =>
    have hgoes : (bindDelegation w.delegations (req.childSessionID.getD 0) req.toolUseEventID
      err).1 = none := hc _ hi
    rw [hgoes] at hst
    cases hst
    obtain ⟨⟨due, hlive⟩, -⟩ := h.drivers _ (List.mem_of_getElem? hi)
    have hok : (Driver.kernel false (rest none)).Ok tenantID sid :=
      ⟨⟨false, hlive.2 none false rfl⟩, nofun⟩
    exact ⟨h.keyed, h.drivers_put hok,
      fun _ => .inl (.inr (.inr (World.delegated_of_bind hgoes rfl)))⟩
  next => nomatch hst

lemma Decision.decides (decision : Decision) (approvalID : UUID) :
    Decides approvalID (decision.work digest approvalID) := by
  cases decision with
  | grant decidedBy => exact grantWork_decides decidedBy
  | grantModified decidedBy modifiedInput =>
    exact grantModifiedWork_decides digest decidedBy modifiedInput
  | deny decidedBy reason => exact denyWork_decides decidedBy reason

lemma Decision.keepsSession (decision : Decision) (approvalID : UUID) :
    KeepsSession (decision.work digest approvalID) := by
  cases decision with
  | grantModified decidedBy modifiedInput =>
    exact grantModifiedWork_keepsSession digest approvalID decidedBy modifiedInput
  | grant | deny =>
    intro ap db script r db' script' h
    rw [eq_of_returns h]

/-- An approval is decided in time: its handler holds the session, or it is that of another one. -/
lemma Inv.decide (h : Inv tenantID sid w) {approvalID : UUID} {now : ℕ} {decision : Decision}
    {input : String} {gate : Bool}
    (hc : Careful tenantID sid w (.decide approvalID now decision input gate script))
    (hst : (lifecycle k digest tenantID sid).step w
      (.decide approvalID now decision input gate script) = some w') : Inv tenantID sid w' := by
  have hdecides : Decides approvalID (decision.work digest approvalID) :=
    decision.decides approvalID
  dsimp only [lifecycle] at hst
  obtain ⟨e, hd⟩ | ⟨r, ap, ap', db', hd, hdecided, hsession⟩ :=
    decide_cases hdecides (decision.keepsSession approvalID) hc
  · rw [hd] at hst
    cases hst
    exact h
  rw [hd] at hst
  dsimp only at hst
  split_ifs at hst with hown hgate
  · cases hst
    exact h.begins (hdecided.keyed h.keyed) rfl trivial rfl
  · cases hst
    exact h.begins (hdecided.keyed h.keyed) rfl trivial rfl
  · -- the pending rows of this session are others than the one that was decided
    cases hst
    refine h.tables (hdecided.keyed h.keyed) rfl rfl fun hp => hp.approvals ?_ rfl rfl rfl
    intro row hrow
    exact hdecided.mem_pendingOf (fun hs => hown (hsession.trans hs)) hrow

/-- The requests that steps of plans have made stay pending when another one is written. -/
lemma World.Pending.inputs (h : w.Pending tenantID sid) {inputs : InputTable}
    (hrows : ∀ ir ∈ w.inputs, ir.inputRequestID ∈ w.gates → ir ∈ inputs) :
    World.Pending tenantID sid { w with inputs } := by
  obtain h | ⟨ir, hir, hgate, hpending⟩ | h := h
  · exact .inl h
  · exact .inr (.inl ⟨ir, hrows ir hir hgate, hgate, hpending⟩)
  · exact .inr (.inr h)

/-- An input is answered: what a plan waits for is answered in time and by a handler that goes on
with the plan. -/
lemma Inv.answer (h : Inv tenantID sid w) {id : UUID} {now : ℕ} {text : String} {gate : Bool}
    (hc : Careful tenantID sid w (.answer id now text gate))
    (hst : (lifecycle k digest tenantID sid).step w (.answer id now text gate) = some w') :
    Inv tenantID sid w' := by
  dsimp only [lifecycle] at hst
  by_cases hid : id ∈ w.gates
  · obtain ⟨rfl, htimely⟩ := hc hid
    split at hst
    next err inputs heq =>
      cases hst
      obtain rfl := answerInput_error htimely heq
      exact h
    next ir inputs heq =>
      cases hst
      exact h.begins h.keyed rfl trivial rfl
  · have hothers : ∀ ir ∈ w.inputs, ir.inputRequestID ∈ w.gates →
        ir ∈ (answerInput tenantID id now text w.inputs).2 := by
      intro ir hir hgate
      refine mem_answerInput hir ?_
      rintro rfl
      exact hid hgate
    split at hst
    next err inputs heq =>
      cases hst
      rw [heq] at hothers
      exact h.tables h.keyed rfl rfl fun hp => hp.inputs hothers
    next ir inputs heq =>
      cases hst
      rw [heq] at hothers
      have htables : Inv tenantID sid { w with inputs } :=
        h.tables h.keyed rfl rfl fun hp => hp.inputs hothers
      cases gate with
      | true => exact htables.add trivial
      | false => exact htables

lemma World.release_cases (hk : Keyed w.approvals) (script : List (Option UUID))
    (reason : InvalidationReason) (next : Driver) :
    w.release tenantID sid i script reason next = w.put i .gone ∨
      ∃ approvals, Keyed approvals ∧
        w.release tenantID sid i script reason next = { w.put i next with approvals } := by
  have heffect : Effect w.approvals (inTenant
      (invalidateWork tenantID sid reason) script w.approvals) :=
    invalidate_effect hk
  have hkeyed := heffect.keyed hk
  unfold World.release
  unfold inTenant at hkeyed ⊢
  obtain ⟨e, heq⟩ | ⟨r, db, script', heq, -⟩ :=
    UnitOfWork.commit_cases .store (invalidateWork tenantID sid reason) script w.approvals
  · rw [heq]
    exact .inl rfl
  · rw [heq] at hkeyed ⊢
    exact .inr ⟨db, hkeyed, rfl⟩

/-- `Cancel` or `Steer` invalidates the approvals. -/
lemma Inv.release (h : Inv tenantID sid w) (hc : Careful tenantID sid w (.release i script))
    (hst : (lifecycle k digest tenantID sid).step w (.release i script) = some w') :
    Inv tenantID sid w' := by
  dsimp only [lifecycle] at hst
  split at hst
  next reason hi =>
    cases hst
    obtain heq | ⟨approvals, hkeyed, heq⟩ := World.release_cases h.keyed script .cancel
      (.cancelling reason .inputs) <;> rw [heq]
    · exact h.put hi trivial nofun
    · exact h.takes hi hkeyed rfl trivial rfl
  next input hi =>
    cases hst
    have hnone : w.approvals.pendingOf tenantID sid = [] := hc _ hi
    obtain heq | ⟨approvals, hkeyed, heq⟩ := World.release_cases h.keyed script .steer
      (.steering input false)
    · rw [heq]
      exact h.put hi trivial nofun
    · -- there was no approval to invalidate, so something else is pending
      rw [heq]
      have hput : Inv tenantID sid (w.put i (.steering input false)) := h.put hi trivial nofun
      refine hput.tables hkeyed rfl rfl fun hp => ?_
      obtain hp | hp := hp
      · exact absurd hnone hp
      · exact .inr hp
  next => nomatch hst

lemma status_userMessage (script : List (Option UUID)) (r : Row) (input : String) :
    (commitWork (appendEvent "" sid .userMessage (.userMessage input)) script
      r).status = r.status := by
  unfold commitWork
  obtain ⟨e, heq⟩ | ⟨u, r', script', heq, hwork⟩ := UnitOfWork.commit_cases storeError
    (appendEvent "" sid .userMessage (.userMessage input)) script r
  · rw [heq]
  · rw [heq]
    obtain ⟨log, e, rfl, -⟩ := appendSystem_ok hwork
    rfl

/-- The last transaction of `Cancel` or `Steer`. -/
lemma Inv.finish (h : Inv tenantID sid w) (hc : Careful tenantID sid w (.finish i script))
    (hst : (lifecycle k digest tenantID sid).step w (.finish i script) = some w') :
    Inv tenantID sid w' := by
  dsimp only [lifecycle] at hst
  split at hst
  next reason released hi =>
    cases hst
    have hgoes := hc _ hi
    unfold commitWork
    obtain ⟨e, heq⟩ | ⟨u, r', script', heq, hwork⟩ := UnitOfWork.commit_cases storeError
      (endRun "cancel" sid { reason := .aborted, detail := reason }) script w.row
    · -- the run is not ended; what it waits for must not have been released
      cases released with
      | true =>
        have hok : (UnitOfWork.commit storeError (endRun "cancel" sid
          { reason := .aborted, detail := reason }) script w.row).1.isOk = true := hgoes
        rw [heq] at hok
        nomatch hok
      | false =>
        rw [heq]
        exact h.put hi trivial nofun
    · rw [heq]
      refine ⟨h.keyed, h.drivers_put trivial, fun hs => ?_⟩
      have hfailed : r'.status = .failed := (endRun_ok hwork).1
      nomatch hfailed.symm.trans hs
  next input hi =>
    cases hst
    have hput : Inv tenantID sid (w.put i .gone) := h.put hi trivial nofun
    exact hput.row fun hs => (status_userMessage script w.row input).symm.trans hs
  next => nomatch hst

/-- The tables gain a row. -/
lemma World.Pending.grow (h : w.Pending tenantID sid) (inputs : InputTable)
    (gates : List UUID) (delegations : List Delegate.Delegation) :
    World.Pending tenantID sid { w with
      inputs := w.inputs ++ inputs, gates := w.gates ++ gates
      delegations := w.delegations ++ delegations } := by
  obtain h | ⟨ir, hir, hgate, hpending⟩ | ⟨d, hd, hrest⟩ := h
  · exact .inl h
  · refine .inr (.inl ⟨ir, ?_, ?_, hpending⟩)
    · exact List.mem_append_left _ hir
    · exact List.mem_append_left _ hgate
  · exact .inr (.inr ⟨d, List.mem_append_left _ hd, hrest⟩)

section

variable (h : Inv tenantID sid w)
include h

lemma Inv.grow (inputs : InputTable) (gates : List UUID) (delegations : List Delegate.Delegation) :
    Inv tenantID sid { w with
      inputs := w.inputs ++ inputs, gates := w.gates ++ gates
      delegations := w.delegations ++ delegations } :=
  h.tables h.keyed rfl rfl fun hp => hp.grow inputs gates delegations

/-- A resumer or the resume of a parent loads the session. -/
lemma Inv.load {cfg : RunConfig}
    (hst : (lifecycle k digest tenantID sid).step w (.load i cfg) = some w') :
    Inv tenantID sid w' := by
  dsimp only [lifecycle] at hst
  split at hst
  next res hi =>
    cases hst
    exact h.takes hi h.keyed rfl
      ⟨⟨false, Entry.follows_suspension k tenantID sid _ _⟩, fun _ => ⟨_, rfl⟩⟩ rfl
  next res hi =>
    split_ifs at hst with hs
    · cases hst
      exact h.takes hi h.keyed rfl
        ⟨⟨false, Entry.follows_suspension k tenantID sid _ _⟩, fun _ => ⟨_, rfl⟩⟩ rfl
    · -- a parent that is not suspended is left alone
      cases hst
      exact ⟨h.keyed, h.drivers_put trivial, fun hsuspended => absurd hsuspended hs⟩
  next => nomatch hst

lemma Inv.gateApproval {req : CreateApprovalRequest}
    (hst : (lifecycle k digest tenantID sid).step w (.gateApproval req script) = some w') :
    Inv tenantID sid w' := by
  dsimp only [lifecycle] at hst
  split_ifs at hst
  obtain ⟨e, heq⟩ | ⟨ap, approvals, heq, hcreated, -⟩ :=
    create_cases req script w.approvals <;> rw [heq] at hst
  · cases hst
    exact h
  · cases hst
    have htables : Inv tenantID sid { w with approvals } := by
      refine h.tables (hcreated.keyed h.keyed) rfl rfl fun hp => hp.approvals ?_ rfl rfl rfl
      exact fun row hrow => hcreated.mem_pendingOf hrow
    exact htables.add trivial

end

/-- What a step under the condition keeps. -/
theorem Inv.step (h : Inv tenantID sid w) {a : Action} (hc : Careful tenantID sid w a)
    (hst : (lifecycle k digest tenantID sid).step w a = some w') : Inv tenantID sid w' := by
  -- a step adds a driver, takes one further, or writes a table: what held the session is left
  -- alone, or a driver takes it over
  have hstep := hst
  cases a with try dsimp only [lifecycle] at hst
  | start entry =>
    split_ifs at hst
    cases hst
    exact h.add (ok_callKernel w entry)
  | agentStep cfg =>
    cases hst
    exact h.add (ok_callKernel w _)
  | reply i t =>
    split at hst
    next applies live hi =>
      obtain ⟨⟨row, live'⟩, hadvance, rfl⟩ := Option.map_eq_some_iff.1 hst
      exact h.reply hi (hc _ hi) hadvance
    next => nomatch hst
  | record i approvalID expiresAt script => exact h.record hc hstep
  | bind i err => exact h.bind hc hstep
  | decide approvalID now decision input gate script => exact h.decide hc hstep
  | load i cfg => exact h.load hstep
  | requestInput ir =>
    split_ifs at hst
    cases hst
    simpa using h.grow [ir] [] []
  | answer id now text gate => exact h.answer hc hstep
  | expireInput id =>
    cases hst
    refine h.tables h.keyed rfl rfl fun hp => hp.inputs fun ir hir hgate => ?_
    refine mem_expireInput hir ?_
    rintro rfl
    exact hc hgate
  | spawn d =>
    split_ifs at hst
    cases hst
    simpa using h.grow [] [] [d]
  | finalize delegationID child x =>
    obtain ⟨d, -, rfl⟩ := Option.map_eq_some_iff.1 hst
    unfold World.finalize
    -- the row is pending no more, but its outcome is in hand
    cases d.fanoutID with
    | none | some => exact h.begins h.keyed rfl trivial rfl
  | resolveFanout i =>
    split at hst
    next fanoutID hi =>
      cases hst
      split_ifs with hopen
      · -- a cohort that is not done has a pending member
        have hawaits : w.Awaits tenantID sid (.fanout fanoutID) := hopen
        exact ⟨h.keyed, h.drivers_put trivial, fun _ => .inl hawaits.pending⟩
      · exact h.takes hi h.keyed rfl trivial rfl
    next => nomatch hst
  | enter i =>
    split at hst
    · cases hst
      exact ⟨h.keyed, h.drivers_put trivial, nofun⟩
    · nomatch hst
  | gateApproval req script => exact h.gateApproval hstep
  | gateInput ir =>
    split_ifs at hst
    cases hst
    have hgrown : Inv tenantID sid { w with
        inputs := w.inputs ++ [ir], gates := w.gates ++ [ir.inputRequestID] } := by
      simpa using h.grow [ir] [ir.inputRequestID] []
    exact hgrown.add trivial
  | gateFanout fanoutID =>
    cases hst
    exact h.add trivial
  | suspend i =>
    split at hst
    next gate hi =>
      have hawaits : w.Awaits tenantID sid gate := hc _ hi
      cases hst
      exact ⟨h.keyed, h.drivers_put trivial, fun _ => .inl hawaits.pending⟩
    next => nomatch hst
  | cancel reason =>
    split_ifs at hst
    all_goals cases hst
    · exact h
    · exact h.add trivial
    · exact h.add trivial
  | steer input =>
    split_ifs at hst
    all_goals cases hst
    · exact h
    · exact h.add trivial
  | release i script => exact h.release hc hstep
  | releaseInputs i =>
    split at hst
    next reason hi =>
      cases hst
      exact h.takes hi h.keyed rfl trivial rfl
    next => nomatch hst
  | finish i script => exact h.finish hc hstep
  | converse input script =>
    cases hst
    refine h.row fun hs => ?_
    obtain heq | ⟨-, hrunning, -⟩ := converse_cases sid input script w.row
    · exact heq ▸ hs
    · nomatch hrunning.symm.trans hs
  | endIdleConversation script =>
    cases hst
    refine h.row fun hs => ?_
    obtain heq | ⟨-, hfailed, -⟩ := endIdleConversation_ends sid script w.row
    · exact heq ▸ hs
    · nomatch hfailed.symm.trans hs
  | note d eventID =>
    obtain ⟨log, -, rfl⟩ := Option.map_eq_some_iff.1 hst
    exact h.row id
  | lose i =>
    split_ifs at hst with hlt
    cases hst
    have hi := List.getElem?_eq_getElem hlt
    have hnot : (w.drivers[i]).holds tenantID sid = false := hc _ hi
    exact h.put hi trivial fun hholds => nomatch hnot.symm.trans hholds

/-- A session that was never suspended. -/
def initial (owners : UUID → Option String) : World := { approvals := Oversight.initial owners }

lemma inv_initial (owners : UUID → Option String) : Inv tenantID sid (initial owners) where
  keyed := (Oversight.inv_initial owners).keyed
  drivers := List.forall_mem_nil _
  held := nofun

end

/-- In every run whose steps meet the condition, a session that is suspended has something pending
whose resolution drives it on, or a driver has that in hand. -/
theorem suspended_held {k : Kernel} {digest : String → String → Option Oversight.Digest}
    {tenantID sid : UUID} {owners : UUID → Option String} {w : World}
    (h : (lifecycle k digest tenantID sid).ReachesBy (Careful tenantID sid) (initial owners) w)
    (hs : w.row.status = .suspended) : w.Held tenantID sid := by
  have hinv : Inv tenantID sid w :=
    h.invariant (I := Inv tenantID sid) (inv_initial owners) fun _ _ _ hI hc hst => hI.step hc hst
  exact hinv.held hs

/-! ### Sessions that nothing drives on -/

/-- A model calls a tool that has to be approved, and the session is suspended. -/
def suspends : List Action :=
  [.start (.run {}), .reply 0 (.wrote none), .reply 0 .unmetered, .reply 0 (.appended 1),
   .reply 0 (.more true), .reply 0 (.streamed (.ok ([.toolUse "t" "web/get@1" ""], none))),
   .reply 0 (.wrote none), .reply 0 (.appended 2), .reply 0 (.more true),
   .reply 0 (.executed { awaitingApproval := true }), .reply 0 (.appended 3),
   .reply 0 (.more true), .reply 0 (.appended 4), .reply 0 (.wrote none)]

/-- The approval is recorded, with a deadline. -/
def recorded : List Action := suspends ++ [.record 0 9 5 [some 0, some 0, some 0]]

/-- A session that waits for its approval. -/
theorem recorded_held :
    ∃ w, (lifecycle {} (fun _ _ => none) 7 1).ReachesBy (Careful 7 1)
        (initial fun _ => some "owner") w ∧
      w.row.status = .suspended ∧ w.Held 7 1 := by
  refine Machine.ReachesBy.exists_of_runBy_imp recorded (fun w => w.row.status = .suspended) ?_
    fun w hreach hs => ⟨hs, suspended_held hreach hs⟩
  decide +kernel

/-- A decision comes after the deadline, and the approval expires; a user steers, the approval is
invalidated, and `Resume` refuses the session that it should pick up; a kernel call is lost before
it records the approval. Each session is left suspended with nothing that drives it on. -/
theorem suspended_forever :
    (∃ w, (lifecycle {} (fun _ _ => none) 7 1).Reaches (initial fun _ => some "owner") w ∧
      w.row.status = .suspended ∧ ¬ w.Held 7 1) ∧
    (∃ w, (lifecycle {} (fun _ _ => none) 7 1).Reaches (initial fun _ => some "owner") w ∧
      w.row.status = .suspended ∧ (∀ cfg, ¬ Loads w.row.status (.continueRun cfg)) ∧
      ¬ w.Held 7 1) ∧
    ∃ w, (lifecycle {} (fun _ _ => none) 7 1).Reaches (initial fun _ => some "owner") w ∧
      w.row.status = .suspended ∧ ¬ w.Held 7 1 := by
  refine ⟨?_, ?_, ?_⟩
  · apply Machine.Reaches.exists_of_run
      (recorded ++ [.decide 9 6 (.grant "owner") "" false [some 20, some 21, some 22, some 23]])
    decide +kernel
  · refine Machine.Reaches.exists_of_run_imp
      (recorded ++ [.steer "stop", .release 1 [some 20, some 21, some 22, some 23, some 24],
        .finish 1 [some 25, some 26]]) (fun w => w.row.status = .suspended ∧ ¬ w.Held 7 1) ?_
      fun w _ ⟨hs, hnot⟩ => ⟨hs, fun _ hloads => hloads.2.1 hs, hnot⟩
    decide +kernel
  · apply Machine.Reaches.exists_of_run (suspends ++ [.lose 0])
    decide +kernel

end NexusAgent.Lifecycle
