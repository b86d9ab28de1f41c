import NexusAgent.Delegate.Resolve
import NexusAgent.Lib.Fallible
import NexusAgent.Lib.Lists

/-!
# A delegation is finalized once

`OnChildTerminal` looks for a pending delegation in one transaction and writes its outcome in
another, which does not ask for the status again. Two calls that have both found it therefore both
write an outcome, append the parent's events and resume the parent. It takes no more than that no
call finds a delegation that another call has found and is still about to finalize.

- `Ledger.step`: what is recorded of a delegation, in every run.
- `Inv.step`: the accounting of a delegation, in runs of that kind.
-/

namespace NexusAgent.Delegate

open EventLog Kernel

/-! ### What a step can do -/

/-- What a call is about to do with a delegation. -/
inductive Phase
  /-- Write its outcome. -/
  | found
  /-- Call `ResumeDelegation` with it. -/
  | due
  /-- Append its result for the parent's tool use. -/
  | resuming
  deriving DecidableEq

def Stage.busy : Stage → Option (Phase × Delegation)
  | .found d _ => some (.found, d)
  | .finalized d _ => some (.due, d)
  | .locked r => some (.due, r.delegation)
  | .resuming r | .running r => some (.resuming, r.delegation)
  | .called _ | .resolvingFanout _ | .delivered _ | .returned _ | .gone => none

def Stage.job (s : Stage) : Option (Phase × UUID) := s.busy.map fun b => (b.1, b.2.delegationID)

/-- How many calls are busy with a delegation. -/
def World.jobs (w : World) (job : Phase × UUID) : ℕ :=
  w.calls.countP fun s => s.job = some job

lemma Stage.job_of_busy {s : Stage} {p : Phase} {d : Delegation} (h : s.busy = some (p, d)) :
    s.job = some (p, d.delegationID) :=
  congrArg (Option.map _) h

lemma Stage.job_of_idle {s : Stage} (h : s.busy = none) : s.job = none :=
  congrArg (Option.map _) h

namespace World

variable {setup : Setup} {w w' : World} {a : Action} {i : ℕ} {s s' : Stage} {d : Delegation}

/-- The rows are the same, but for their bindings. -/
structure RowsKept (w w' : World) : Prop where
  ids : w'.rows.map Delegation.delegationID = w.rows.map Delegation.delegationID
  back : ∀ d' ∈ w'.rows, ∃ d ∈ w.rows, d'.delegationID = d.delegationID ∧ d'.status = d.status

structure Unrecorded (w w' : World) : Prop where
  results : w'.results = w.results
  left : w'.left = w.left
  resumed : w'.resumed = w.resumed
  delivered : w'.delivered = w.delivered

/-- A call that is busy with a delegation was so before, or has found it pending. -/
def TakesUp (w w' : World) : Prop :=
  ∀ (i : ℕ) (s' : Stage), w'.calls[i]? = some s' → ∀ b', s'.busy = some b' →
    (∃ (s : Stage) (b : _), w.calls[i]? = some s ∧ s.busy = some b ∧ b.2 = b'.2) ∨
      b'.2 ∈ w.rows ∧ b'.2.status = .pending

/-- What a step can do to the rows, the events and the calls. -/
inductive Effect (w : World) (a : Action) (w' : World) : Prop
  | quiet (hrows : RowsKept w w') (hrecord : Unrecorded w w')
      (hjobs : ∀ job, w'.jobs job ≤ w.jobs job)
  | insert (d : Delegation) (hpending : d.status = .pending)
      (hfresh : d.delegationID ∉ w.rows.map Delegation.delegationID)
      (hrows : w'.rows = w.rows ++ [d]) (hrecord : Unrecorded w w')
      (hjobs : ∀ job, w'.jobs job ≤ w.jobs job)
  | find (i : ℕ) (child : UUID) (d : Delegation) (haction : a = .find i none)
      (hi : w.calls[i]? = some (.called child)) (hd : w.findPendingByChild child = some d)
      (hrows : w'.rows = w.rows) (hrecord : Unrecorded w w')
      (hjobs : ∀ job, w'.jobs job =
        w.jobs job + if (.found, d.delegationID) = job then 1 else 0)
  | finalize (e : ResultEvents) (status : Status) (result reason : String)
      (hstatus : status ≠ .pending)
      (hrows : w'.rows = setDelegationResult w.rows e.delegationID status result reason)
      (hleft : w'.left = w.left ++ (w.rows.filter fun d =>
        d.delegationID = e.delegationID ∧ d.status = .pending).map Delegation.delegationID)
      (hresults : w'.results = w.results ++ [e])
      (hresumed : w'.resumed = w.resumed) (hdelivered : w'.delivered = w.delivered)
      (hjobs : ∀ job, w'.jobs job + (if (.found, e.delegationID) = job then 1 else 0) ≤
        w.jobs job + if (.due, e.delegationID) = job then 1 else 0)
  | resume (i : ℕ) (r : Resumption) (id : UUID) (haction : a = .load i none)
      (hi : w.calls[i]? = some (.locked r)) (hid : id = r.delegation.delegationID)
      (hrows : w'.rows = w.rows) (hresults : w'.results = w.results)
      (hleft : w'.left = w.left) (hresumed : w'.resumed = w.resumed ++ [id])
      (hdelivered : w'.delivered = w.delivered)
      (hjobs : ∀ job, w'.jobs job + (if (.due, id) = job then 1 else 0) =
        w.jobs job + if (.resuming, id) = job then 1 else 0)
  | deliver (i : ℕ) (r : Resumption) (id : UUID) (haction : a = .appendResult i none)
      (hi : w.calls[i]? = some (.running r)) (hid : id = r.delegation.delegationID)
      (hrows : w'.rows = w.rows) (hresults : w'.results = w.results)
      (hleft : w'.left = w.left) (hresumed : w'.resumed = w.resumed)
      (hdelivered : w'.delivered = w.delivered ++ [id])
      (hjobs : ∀ job, w'.jobs job + (if (.resuming, id) = job then 1 else 0) = w.jobs job)

lemma rowsKept_of_eq (h : w'.rows = w.rows) : RowsKept w w' := by
  constructor
  · rw [h]
  · rw [h]
    exact fun d hd => ⟨d, hd, rfl, rfl⟩

lemma rowsKept_bindRows {child event : UUID} (h : w'.rows = bindRows w.rows child event) :
    RowsKept w w' := by
  -- a row is the row before, with another binding or without
  have hsame (d : Delegation) :
      let d' := if d.childSessionID = child ∧ d.status = .pending then
        { d with parentToolUseEventID := some event } else d
      d'.delegationID = d.delegationID ∧ d'.status = d.status := by
    dsimp only
    split <;> exact ⟨rfl, rfl⟩
  constructor
  · rw [h, bindRows, List.map_map]
    exact List.map_congr_left fun d _ => (hsame d).1
  · intro d' hd'
    obtain ⟨d, hd, rfl⟩ := List.mem_map.1 (h ▸ hd')
    exact ⟨d, hd, hsame d⟩

/-- A step, with what it does and what its call is busy with. -/
structure Does (w : World) (a : Action) (w' : World) : Prop where
  effect : Effect w a w'
  takesUp : TakesUp w w'

section Jobs

variable {p p' : Phase} {d' : Delegation}
  (hi : w.calls[i]? = some s) (hcalls : w'.calls = w.calls.set i s')
include hi hcalls

/-- A call that comes to another stage is busy with another job. -/
lemma jobs_put (job : Phase × UUID) :
    w'.jobs job + (if s.job = some job then 1 else 0) =
      w.jobs job + if s'.job = some job then 1 else 0 := by
  unfold jobs
  rw [hcalls]
  simpa using List.countP_set_add hi s' fun s => decide (s.job = some job)

lemma jobs_take (hs : s.busy = none) (hs' : s'.busy = some (p', d')) (job : Phase × UUID) :
    w'.jobs job = w.jobs job + if (p', d'.delegationID) = job then 1 else 0 := by
  have hcount := jobs_put hi hcalls job
  rw [Stage.job_of_idle hs, Stage.job_of_busy hs'] at hcount
  simpa only [reduceCtorEq, if_false, add_zero, Option.some.injEq] using hcount

lemma jobs_move (hs : s.busy = some (p, d)) (hs' : s'.busy = some (p', d')) (job : Phase × UUID) :
    w'.jobs job + (if (p, d.delegationID) = job then 1 else 0) =
      w.jobs job + if (p', d'.delegationID) = job then 1 else 0 := by
  have hcount := jobs_put hi hcalls job
  rw [Stage.job_of_busy hs, Stage.job_of_busy hs'] at hcount
  simpa only [Option.some.injEq] using hcount

lemma jobs_drop (hs : s.busy = some (p, d)) (hs' : s'.busy = none) (job : Phase × UUID) :
    w'.jobs job + (if (p, d.delegationID) = job then 1 else 0) = w.jobs job := by
  have hcount := jobs_put hi hcalls job
  rw [Stage.job_of_busy hs, Stage.job_of_idle hs'] at hcount
  simpa only [reduceCtorEq, if_false, add_zero, Option.some.injEq] using hcount

end Jobs

lemma takesUp_of_eq (h : w'.calls = w.calls) : TakesUp w w' :=
  fun _ s' hs' b' hb' => .inl ⟨s', b', h ▸ hs', hb', rfl⟩

lemma takesUp_of_set (hi : w.calls[i]? = some s) (hcalls : w'.calls = w.calls.set i s')
    (hbusy : ∀ b', s'.busy = some b' → (∃ b, s.busy = some b ∧ b.2 = b'.2) ∨
      b'.2 ∈ w.rows ∧ b'.2.status = .pending) : TakesUp w w' := by
  intro j t ht b' hb'
  rw [hcalls] at ht
  by_cases hij : i = j
  · subst hij
    obtain rfl : s' = t := by simpa [(List.getElem?_eq_some_iff.1 hi).1] using ht
    exact (hbusy b' hb').imp_left fun ⟨b, hb, heq⟩ => ⟨s, b, hi, hb, heq⟩
  · rw [List.getElem?_set_ne hij] at ht
    exact .inl ⟨t, b', ht, hb', rfl⟩

lemma Does.of_put (hi : w.calls[i]? = some s)
    (hcalls : w'.calls = w.calls.set i s') (hbusy : s'.busy = s.busy ∨ s'.busy = none)
    (hrows : w'.rows = w.rows) (hrecord : Unrecorded w w') : Does w a w' := by
  constructor
  · refine .quiet (rowsKept_of_eq hrows) hrecord fun job => ?_
    have hcount := jobs_put hi hcalls job
    rcases hbusy with hbusy | hbusy
    · have hjob : s'.job = s.job := congrArg (Option.map _) hbusy
      rw [hjob] at hcount
      omega
    · rw [Stage.job_of_idle hbusy, if_neg (show none ≠ some job from nofun)] at hcount
      omega
  · refine takesUp_of_set hi hcalls fun b' hb' => .inl ⟨b', ?_, rfl⟩
    rcases hbusy with hbusy | hbusy
    · exact hbusy ▸ hb'
    · nomatch hbusy.symm.trans hb'

lemma Does.of_return (hi : w.calls[i]? = some s)
    (result : Except String Unit) : Does w a (w.put i (.returned result)) :=
  .of_put hi rfl (.inr rfl) rfl ⟨rfl, rfl, rfl, rfl⟩

lemma Does.of_leave (hi : w.calls[i]? = some s) (r : Resumption)
    (result : Except String Unit) : Does w a (w.leave i r result) := by
  unfold leave
  dsimp only
  split
  · exact .of_put hi rfl (.inr rfl) rfl ⟨rfl, rfl, rfl, rfl⟩
  · exact .of_return hi result

lemma findPendingByChild_eq_some {child : UUID} (h : w.findPendingByChild child = some d) :
    d ∈ w.rows ∧ d.childSessionID = child ∧ d.status = .pending := by
  have hprop := List.find?_some h
  exact ⟨List.mem_of_find?_eq_some h, by simpa using hprop⟩

lemma Does.of_find {child : UUID} (hi : w.calls[i]? = some (.called child)) :
    Does w (.find i none) (w.find i child) := by
  unfold World.find
  split
  · exact .of_return hi _
  next d hd =>
    dsimp only
    split
    · constructor
      · refine .find i child d rfl hi hd rfl ⟨rfl, rfl, rfl, rfl⟩ fun job => ?_
        exact jobs_take hi rfl rfl rfl job
      · refine takesUp_of_set hi rfl fun b' hb' => .inr ?_
        cases hb'
        obtain ⟨hmem, -, hpending⟩ := findPendingByChild_eq_some hd
        exact ⟨hmem, hpending⟩
    · exact .of_return hi _

lemma outcomeOf_status (child : Session) (x : Extracted) :
    (outcomeOf child x).2.1 ≠ .pending := by
  unfold outcomeOf
  cases x.boundExceeded <;> simp

lemma Does.of_finalize {child : Session} (hi : w.calls[i]? = some (.found d child)) (x : Extracted)
    (engaged : Permissions.TaintState) :
    Does w a (w.finalize setup i d child x engaged) := by
  -- whatever the call goes on with, it has left the delegation that it had found
  have hjobs {w' : World} {s' : Stage} (hcalls : w'.calls = w.calls.set i s')
      (hs' : s'.busy = some (.due, d) ∨ s'.busy = none) (job : Phase × UUID) :
      w'.jobs job + (if (.found, d.delegationID) = job then 1 else 0) ≤
        w.jobs job + if (.due, d.delegationID) = job then 1 else 0 := by
    rcases hs' with hs' | hs'
    · exact (jobs_move hi hcalls rfl hs' job).le
    · exact (jobs_drop hi hcalls rfl hs' job).le.trans (Nat.le_add_right _ _)
  have htakes (s' : Stage) (hs' : s'.busy = some (.due, d) ∨ s'.busy = none)
      (b' : Phase × Delegation) (hb' : s'.busy = some b') :
      (∃ b, (Stage.found d child).busy = some b ∧ b.2 = b'.2) ∨
        b'.2 ∈ w.rows ∧ b'.2.status = .pending := by
    rcases hs' with hs' | hs'
    · obtain rfl := Option.mem_unique hs' hb'
      exact .inl ⟨_, rfl, rfl⟩
    · nomatch hs'.symm.trans hb'
  unfold World.finalize
  dsimp only
  split
  · exact ⟨.finalize _ _ _ _ (outcomeOf_status child x) rfl rfl rfl rfl rfl
      (hjobs rfl (.inl rfl)), takesUp_of_set hi rfl (htakes _ (.inl rfl))⟩
  · split
    all_goals
      exact ⟨.finalize _ _ _ _ (outcomeOf_status child x) rfl rfl rfl rfl rfl
        (hjobs rfl (.inr rfl)), takesUp_of_set hi rfl (htakes _ (.inr rfl))⟩

lemma Does.of_acquire {res : DelegationResolution}
    (hi : w.calls[i]? = some (.finalized d res)) (token : Except String ℕ) :
    Does w a (w.acquire setup i d res token) := by
  unfold World.acquire
  dsimp only
  split
  · split
    · exact .of_return hi _
    · split
      · exact .of_put hi rfl (.inl rfl) rfl ⟨rfl, rfl, rfl, rfl⟩
      · exact .of_return hi _
  · exact .of_put hi rfl (.inl rfl) rfl ⟨rfl, rfl, rfl, rfl⟩

lemma Does.of_load {r : Resumption} (hi : w.calls[i]? = some (.locked r)) :
    Does w (.load i none) (w.load i r) := by
  unfold World.load
  dsimp only
  split
  · constructor
    · refine .resume i r r.delegation.delegationID rfl hi rfl rfl rfl rfl rfl rfl fun job => ?_
      exact jobs_move hi rfl rfl rfl job
    · refine takesUp_of_set hi rfl fun b' hb' => ?_
      cases hb'
      exact .inl ⟨_, rfl, rfl⟩
  · exact .of_leave hi r _

lemma Does.of_appendResult {r : Resumption} (hi : w.calls[i]? = some (.running r)) :
    Does w (.appendResult i none) { w.put i (.delivered r) with
      delivered := w.delivered ++ [r.delegation.delegationID] } := by
  constructor
  · refine .deliver i r r.delegation.delegationID rfl hi rfl rfl rfl rfl rfl rfl fun job => ?_
    exact jobs_drop hi rfl rfl rfl job
  · exact takesUp_of_set hi rfl fun b' hb' => nomatch hb'

end World

open World in
/-- What a step can do to the rows, the events and the calls. -/
theorem does_of_step {setup : Setup} {w w' : World} {a : Action}
    (h : (resolver setup).step w a = some w') : Does w a w' := by
  cases a with try dsimp only [resolver] at h
  | insert d =>
    obtain ⟨⟨hpending, hfresh⟩, h⟩ := Option.ite_none_right_eq_some.1 h
    cases h
    exact ⟨.insert d hpending hfresh rfl ⟨rfl, rfl, rfl, rfl⟩ fun _ => le_rfl, takesUp_of_eq rfl⟩
  | bind child event =>
    cases h
    exact ⟨.quiet (rowsKept_bindRows rfl) ⟨rfl, rfl, rfl, rfl⟩ fun _ => le_rfl, takesUp_of_eq rfl⟩
  | write | lock =>
    cases h
    exact ⟨.quiet (rowsKept_of_eq rfl) ⟨rfl, rfl, rfl, rfl⟩ fun _ => le_rfl, takesUp_of_eq rfl⟩
  | call child =>
    cases h
    refine ⟨.quiet (rowsKept_of_eq rfl) ⟨rfl, rfl, rfl, rfl⟩ fun job => ?_, fun i s hs b hb => ?_⟩
    · simp [jobs, Stage.job, Stage.busy]
    · rw [List.getElem?_append] at hs
      split at hs
      · exact .inl ⟨s, b, hs, hb, rfl⟩
      · obtain rfl := List.mem_singleton.1 (List.mem_of_getElem? hs)
        nomatch hb
  | find i err =>
    split at h
    next hi => exact Option.some.inj h ▸ .of_return hi _
    next hi => exact Option.some.inj h ▸ .of_find hi
    · nomatch h
  | finalize i text engaged err =>
    split at h
    next d child hi =>
      split at h
      · exact Option.some.inj h ▸ .of_return hi _
      · exact Option.some.inj h ▸ .of_return hi _
      next x _ => exact Option.some.inj h ▸ .of_finalize hi x engaged
    · nomatch h
  | acquire i token =>
    split at h
    next hi => exact Option.some.inj h ▸ .of_acquire hi token
    · nomatch h
  | load i err =>
    split at h
    next hi => exact Option.some.inj h ▸ .of_leave hi _ _
    next hi => exact Option.some.inj h ▸ .of_load hi
    · nomatch h
  | setRunning i err =>
    split at h
    next hi => exact Option.some.inj h ▸ .of_leave hi _ _
    next hi =>
      cases h
      exact .of_put hi rfl (.inl rfl) rfl ⟨rfl, rfl, rfl, rfl⟩
    · nomatch h
  | appendResult i err =>
    split at h
    next hi => exact Option.some.inj h ▸ .of_leave hi _ _
    next hi => exact Option.some.inj h ▸ .of_appendResult hi
    · nomatch h
  | finish i err =>
    split at h
    -- a call that has the lock gives it back, whatever its outcome
    next hi => exact Option.some.inj h ▸ .of_leave hi _ _
    next hi => exact Option.some.inj h ▸ .of_leave hi _ _
    next hi => exact Option.some.inj h ▸ .of_return hi _
    next hi => exact Option.some.inj h ▸ .of_return hi _
    · nomatch h
  | crash i =>
    obtain ⟨hlt, h⟩ := Option.ite_none_right_eq_some.1 h
    cases h
    exact .of_put (List.getElem?_eq_getElem hlt) rfl (.inr rfl) rfl ⟨rfl, rfl, rfl, rfl⟩

/-! ### The accounting of a delegation -/

/-- The sets of events that a delegation has added to its parent's log. -/
def World.resultsOf (w : World) (id : UUID) : ℕ := w.results.countP fun e => e.delegationID = id

lemma World.resultsOf_append {w w' : World} {e : ResultEvents}
    (h : w'.results = w.results ++ [e]) (id : UUID) :
    w'.resultsOf id = w.resultsOf id + if id = e.delegationID then 1 else 0 := by
  unfold World.resultsOf
  rw [h, List.countP_append, List.countP_singleton]
  simp [eq_comm]

lemma World.resultsOf_congr {w w' : World} (h : w'.results = w.results) (id : UUID) :
    w'.resultsOf id = w.resultsOf id := by
  unfold World.resultsOf
  rw [h]

/-- The rows are told apart by their identifiers, nothing is recorded of a delegation that is
pending, and calls only find what there is. -/
structure Ledger (w : World) : Prop where
  nodup : (w.rows.map Delegation.delegationID).Nodup
  unknown : ∀ id ∉ w.rows.map Delegation.delegationID, w.resultsOf id = 0 ∧ w.left.count id = 0
  pending : ∀ d ∈ w.rows, d.status = .pending →
    w.resultsOf d.delegationID = 0 ∧ w.left.count d.delegationID = 0
  left : ∀ id, w.left.count id ≤ 1
  found : ∀ id, w.jobs (.found, id) ≠ 0 → id ∈ w.rows.map Delegation.delegationID

namespace Ledger

open World

variable {setup : Setup} {w w' : World} {a : Action}

/-- A step that records nothing of the rows, and finds nothing but what there is. -/
lemma congr (h : Ledger w) (hrows : RowsKept w w') (hresults : w'.results = w.results)
    (hleft : w'.left = w.left)
    (hfound : ∀ id, w'.jobs (.found, id) ≠ 0 → id ∈ w.rows.map Delegation.delegationID) :
    Ledger w' := by
  have hresultsOf := resultsOf_congr hresults
  constructor
  · rw [hrows.ids]
    exact h.nodup
  · intro id hid
    rw [hresultsOf, hleft]
    exact h.unknown id (hrows.ids ▸ hid)
  · intro d' hd' hpending
    obtain ⟨d, hd, hsame, hstatus⟩ := hrows.back d' hd'
    rw [hresultsOf, hleft, hsame]
    exact h.pending d hd (hstatus ▸ hpending)
  · rw [hleft]
    exact h.left
  · rw [hrows.ids]
    exact hfound

lemma insert (h : Ledger w) {d : Delegation}
    (hfresh : d.delegationID ∉ w.rows.map Delegation.delegationID)
    (hrows : w'.rows = w.rows ++ [d]) (hrecord : Unrecorded w w')
    (hjobs : ∀ job, w'.jobs job ≤ w.jobs job) : Ledger w' := by
  have hids : w'.rows.map Delegation.delegationID =
      w.rows.map Delegation.delegationID ++ [d.delegationID] := by
    rw [hrows, List.map_append]
    rfl
  constructor
  · rw [hids]
    exact List.nodup_append'.2 ⟨h.nodup, List.nodup_singleton _, by simpa using hfresh⟩
  · intro id hid
    rw [resultsOf_congr hrecord.results, hrecord.left]
    rw [hids] at hid
    exact h.unknown id fun hmem => hid (List.mem_append_left _ hmem)
  · intro d' hd' hpending
    rw [resultsOf_congr hrecord.results, hrecord.left]
    rcases List.mem_append.1 (hrows ▸ hd') with hold | hnew
    · exact h.pending d' hold hpending
    · obtain rfl := List.mem_singleton.1 hnew
      exact h.unknown _ hfresh
  · rw [hrecord.left]
    exact h.left
  · intro id hne
    rw [hids]
    have hle := hjobs (.found, id)
    exact List.mem_append_left _ (h.found id (by omega))

lemma map_setDelegationResult (rows : List Delegation) (id : UUID) (status : Status)
    (result reason : String) :
    (setDelegationResult rows id status result reason).map Delegation.delegationID =
      rows.map Delegation.delegationID := by
  rw [setDelegationResult, List.map_map]
  refine List.map_congr_left fun d _ => ?_
  dsimp only [Function.comp]
  split <;> rfl

/-- A delegation is recorded to have left `pending` if it was there. -/
lemma count_left (h : Ledger w) (id id' : UUID) :
    (w.left ++ (w.rows.filter fun d =>
      d.delegationID = id ∧ d.status = .pending).map Delegation.delegationID).count id' ≤ 1 ∧
    (id' ≠ id → (w.left ++ (w.rows.filter fun d =>
      d.delegationID = id ∧ d.status = .pending).map Delegation.delegationID).count id' =
        w.left.count id') := by
  rw [List.count_append]
  have hothers (hne : id' ≠ id) : ((w.rows.filter fun d =>
      d.delegationID = id ∧ d.status = .pending).map Delegation.delegationID).count id' = 0 := by
    refine List.count_eq_zero.2 fun hmem => ?_
    obtain ⟨d, hd, rfl⟩ := List.mem_map.1 hmem
    have hprop := List.of_mem_filter hd
    simp only [decide_eq_true_eq] at hprop
    exact hne hprop.1
  refine ⟨?_, fun hne => by rw [hothers hne, Nat.add_zero]⟩
  by_cases heq : id' = id
  · subst heq
    by_cases hex : ∃ d ∈ w.rows, d.delegationID = id' ∧ d.status = .pending
    · -- its row is the only one of that identifier, and it had not left before
      obtain ⟨d, hd, rfl, hpending⟩ := hex
      have hsub : ((w.rows.filter fun d' => d'.delegationID = d.delegationID ∧
          d'.status = .pending).map Delegation.delegationID).count d.delegationID ≤ 1 :=
        (List.Sublist.count_le _ (List.filter_sublist.map _)).trans
          (List.nodup_iff_count_le_one.1 h.nodup _)
      rw [(h.pending d hd hpending).2]
      omega
    · have hnil : (w.rows.filter fun d => d.delegationID = id' ∧ d.status = .pending) = [] :=
        List.filter_eq_nil_iff.2 fun d hd hdec => hex ⟨d, hd, of_decide_eq_true hdec⟩
      rw [hnil]
      exact h.left id'
  · rw [hothers heq]
    exact h.left id'

lemma finalize (h : Ledger w) {e : ResultEvents} {status : Status} {result reason : String}
    (hstatus : status ≠ .pending)
    (hrows : w'.rows = setDelegationResult w.rows e.delegationID status result reason)
    (hleft : w'.left = w.left ++ (w.rows.filter fun d =>
      d.delegationID = e.delegationID ∧ d.status = .pending).map Delegation.delegationID)
    (hresults : w'.results = w.results ++ [e])
    (hfound : ∀ id, w'.jobs (.found, id) + (if id = e.delegationID then 1 else 0) ≤
      w.jobs (.found, id)) : Ledger w' := by
  have hids : w'.rows.map Delegation.delegationID = w.rows.map Delegation.delegationID := by
    rw [hrows, map_setDelegationResult]
  have hknown : e.delegationID ∈ w.rows.map Delegation.delegationID := by
    have hbusy := hfound e.delegationID
    rw [if_pos rfl] at hbusy
    exact h.found _ (by omega)
  constructor
  · rw [hids]
    exact h.nodup
  · intro id hid
    rw [hids] at hid
    have hne : id ≠ e.delegationID := fun heq => hid (heq ▸ hknown)
    rw [resultsOf_append hresults, if_neg hne, hleft, (h.count_left _ id).2 hne]
    exact h.unknown id hid
  · intro d' hd' hpending
    rw [hrows] at hd'
    obtain ⟨d, hd, rfl⟩ := List.mem_map.1 hd'
    split at hpending
    · exact absurd hpending hstatus
    next hne =>
      rw [if_neg hne, resultsOf_append hresults, if_neg hne, hleft, (h.count_left _ _).2 hne]
      exact h.pending d hd hpending
  · intro id
    rw [hleft]
    exact (h.count_left _ id).1
  · intro id hne
    rw [hids]
    have hbusy := hfound id
    exact h.found id (by omega)

theorem step (h : Ledger w) (heffect : Effect w a w') : Ledger w' := by
  cases heffect with
  | quiet hrows hrecord hjobs =>
    refine h.congr hrows hrecord.results hrecord.left fun id hne => h.found id ?_
    have hle := hjobs (.found, id)
    omega
  | insert d hpending hfresh hrows hrecord hjobs => exact h.insert hfresh hrows hrecord hjobs
  | find i child d haction hi hd hrows hrecord hjobs =>
    refine h.congr (rowsKept_of_eq hrows) hrecord.results hrecord.left fun id hne => ?_
    by_cases hid : d.delegationID = id
    · exact hid ▸ List.mem_map_of_mem (findPendingByChild_eq_some hd).1
    · have hfound := hjobs (.found, id)
      rw [if_neg (by simpa using hid)] at hfound
      exact h.found id (by omega)
  | finalize e status result reason hstatus hrows hleft hresults _ _ hjobs =>
    exact h.finalize hstatus hrows hleft hresults fun id => by
      simpa [eq_comm] using hjobs (.found, id)
  | resume i r id _ _ _ hrows hresults hleft hresumed hdelivered hjobs =>
    refine h.congr (rowsKept_of_eq hrows) hresults hleft fun id' hne => h.found id' ?_
    have hfound := hjobs (.found, id')
    simp only [Prod.mk.injEq, reduceCtorEq, false_and, if_false] at hfound
    omega
  | deliver i r id _ _ _ hrows hresults hleft hresumed hdelivered hjobs =>
    refine h.congr (rowsKept_of_eq hrows) hresults hleft fun id' hne => h.found id' ?_
    have hfound := hjobs (.found, id')
    omega

end Ledger

lemma ledger_initial (sessions : UUID → Session) : Ledger (initial sessions) where
  nodup := List.nodup_nil
  unknown _ _ := ⟨rfl, rfl⟩
  pending := List.forall_mem_nil _
  left _ := Nat.zero_le 1
  found _ h := absurd rfl h

/-! ### At most once -/

/-- No call is about to finalize the delegation that the step finds. -/
def NoneFound (w : World) : Action → Prop
  | .find i none =>
    ∀ s ∈ w.calls[i]?, match s with
      | .called child => ∀ d ∈ w.findPendingByChild child, w.jobs (.found, d.delegationID) = 0
      | _ => True
  | _ => True

instance (w : World) (a : Action) : Decidable (NoneFound w a) := by
  unfold NoneFound
  split
  · have (s : Stage) : Decidable (match s with
        | .called child => ∀ d ∈ w.findPendingByChild child, w.jobs (.found, d.delegationID) = 0
        | _ => True) := by
      split <;> infer_instance
    infer_instance
  · infer_instance

/-- A delegation has added its events to the parent's log, or one call is about to; and the parent
was resumed, or a call is about to resume it, no more often than that. -/
structure Inv (w : World) : Prop extends Ledger w where
  once : ∀ id, w.resultsOf id + w.jobs (.found, id) ≤ 1
  resumed : ∀ id, w.jobs (.due, id) + w.resumed.count id ≤ w.resultsOf id

namespace Inv

open World

variable {setup : Setup} {w w' : World} {a : Action}

/-- A step that neither finds nor finalizes a delegation. -/
lemma of_counts (hinv : Inv w) (hledger : Ledger w') (hresults : w'.results = w.results)
    (hfound : ∀ id, w'.jobs (.found, id) ≤ w.jobs (.found, id))
    (hdue : ∀ id, w'.jobs (.due, id) + w'.resumed.count id ≤
      w.jobs (.due, id) + w.resumed.count id) : Inv w' := by
  have hresultsOf := resultsOf_congr hresults
  refine ⟨hledger, fun id => ?_, fun id => ?_⟩ <;> rw [hresultsOf]
  · exact (Nat.add_le_add_left (hfound id) _).trans (hinv.once id)
  · exact (hdue id).trans (hinv.resumed id)

lemma find (hinv : Inv w) (hledger : Ledger w') {d : Delegation} (hmem : d ∈ w.rows)
    (hpending : d.status = .pending) (hnone : w.jobs (.found, d.delegationID) = 0)
    (hrecord : Unrecorded w w')
    (hjobs : ∀ job, w'.jobs job = w.jobs job + if (.found, d.delegationID) = job then 1 else 0) :
    Inv w' := by
  refine ⟨hledger, fun id => ?_, fun id => ?_⟩
  · have honce := hinv.once id
    have hfound := hjobs (.found, id)
    rw [resultsOf_congr hrecord.results]
    by_cases hid : d.delegationID = id
    · -- nothing was written of it while it was pending
      subst hid
      have hzero := (hinv.pending d hmem hpending).1
      rw [if_pos rfl] at hfound
      omega
    · rw [if_neg (by simpa using hid)] at hfound
      omega
  · have hdue := hjobs (.due, id)
    rw [resultsOf_congr hrecord.results, hrecord.resumed, hdue]
    exact hinv.resumed id

lemma finalize (hinv : Inv w) (hledger : Ledger w') {e : ResultEvents}
    (hresults : w'.results = w.results ++ [e]) (hresumed : w'.resumed = w.resumed)
    (hjobs : ∀ job, w'.jobs job + (if (.found, e.delegationID) = job then 1 else 0) ≤
      w.jobs job + if (.due, e.delegationID) = job then 1 else 0) : Inv w' := by
  refine ⟨hledger, fun id => ?_, fun id => ?_⟩
  · -- the call that was about to write an outcome has written it
    have honce := hinv.once id
    have hfound : w'.jobs (.found, id) + (if id = e.delegationID then 1 else 0) ≤
        w.jobs (.found, id) := by
      simpa [eq_comm] using hjobs (.found, id)
    rw [resultsOf_append hresults]
    omega
  · have hbefore := hinv.resumed id
    have hdue : w'.jobs (.due, id) ≤
        w.jobs (.due, id) + if id = e.delegationID then 1 else 0 := by
      simpa [eq_comm] using hjobs (.due, id)
    rw [resultsOf_append hresults, hresumed]
    omega

theorem step (hinv : Inv w) (hguard : NoneFound w a) (heffect : Effect w a w') : Inv w' := by
  have hledger := hinv.toLedger.step heffect
  cases heffect with
  | quiet _ hrecord hjobs | insert _ _ _ _ hrecord hjobs =>
    refine hinv.of_counts hledger hrecord.results (fun id => hjobs _) fun id => ?_
    rw [hrecord.resumed]
    exact Nat.add_le_add_right (hjobs _) _
  | find i child d haction hi hd hrows hrecord hjobs =>
    subst haction
    obtain ⟨hmem, -, hpending⟩ := findPendingByChild_eq_some hd
    exact hinv.find hledger hmem hpending (hguard (.called child) hi d hd) hrecord hjobs
  | finalize e status result reason _ _ _ hresults hresumed _ hjobs =>
    exact hinv.finalize hledger hresults hresumed hjobs
  | resume i r id _ _ _ hrows hresults hleft hresumed hdelivered hjobs =>
    refine hinv.of_counts hledger hresults (fun id' => ?_) fun id' => ?_
    · have hfound := hjobs (.found, id')
      exact hfound.le
    · have hdue := hjobs (.due, id')
      simp only [Prod.mk.injEq, reduceCtorEq, false_and, true_and, if_false] at hdue
      rw [hresumed, List.count_append, List.count_singleton]
      simp only [beq_iff_eq]
      omega
  | deliver i r id _ _ _ hrows hresults hleft hresumed hdelivered hjobs =>
    refine hinv.of_counts hledger hresults (fun id' => ?_) fun id' => ?_
    · exact (Nat.le_add_right _ _).trans (hjobs (.found, id')).le
    · rw [hresumed]
      exact Nat.add_le_add_right ((Nat.le_add_right _ _).trans (hjobs (.due, id')).le) _

end Inv

/-- In every run in which no call finds a delegation that another call has found and is about to
finalize, a delegation leaves `pending`, adds its events to the parent's log, and resumes the
parent at most once. -/
theorem finalized_once (setup : Setup) (sessions : UUID → Session) (w : World)
    (h : (resolver setup).ReachesBy NoneFound (initial sessions) w) (id : UUID) :
    w.left.count id ≤ 1 ∧ w.resultsOf id ≤ 1 ∧ w.resumed.count id ≤ 1 := by
  have hinv : Inv w := h.invariant (I := Inv)
    ⟨ledger_initial sessions, fun _ => Nat.zero_le 1, fun _ => le_rfl⟩
    fun _ _ _ hinv hguard hstep => hinv.step hguard (does_of_step hstep).effect
  have honce := hinv.once id
  have hresumed := hinv.resumed id
  exact ⟨hinv.left id, by omega, by omega⟩

/-! ### Two callers -/

/-- A resolver with or without the session lock; texts are their own JSON. -/
def plainSetup (lock : Bool) : Setup where
  json := { required := fun _ => .ok [], fields := fun _ => .ok [], output := id }
  lock
  fanout := false

def childDone : UUID → Session
  | 1 => { status := .suspended }
  | 2 => { status := .completed }
  | _ => {}

def delegationTo2 : Delegation :=
  { delegationID := 9, parentSessionID := 1, childSessionID := 2, parentToolUseEventID := some 5
    agentID := "helper" }

/-- A call finalizes what it has found and resumes the parent. -/
def resolveCall (i : ℕ) : List Action :=
  [.finalize i (.ok "done") {} none, .acquire i (.ok (i + 1)), .load i none, .setRunning i none,
    .appendResult i none]

theorem calledOnce_finalized :
    ∃ w, (resolver (plainSetup true)).ReachesBy NoneFound (initial childDone) w ∧
      w.delivered = [9] ∧ w.left.count 9 ≤ 1 ∧ w.resultsOf 9 ≤ 1 ∧ w.resumed.count 9 ≤ 1 := by
  refine Machine.ReachesBy.exists_of_runBy_imp
    ([.insert delegationTo2, .call 2, .find 0 none] ++ resolveCall 0 ++
      [.finish 0 none, .call 2, .find 1 none])
    (fun w => w.delivered = [9]) ?_ fun w hreach hdelivered =>
      ⟨hdelivered, finalized_once _ _ w hreach 9⟩
  decide +kernel

/-- Two callers find the delegation before either has finalized it. The first resumes the parent,
which comes to wait for something else; then the second finalizes the delegation again and
resumes the parent with it once more, although parents are resumed under their lock. -/
theorem finalized_twice :
    ∃ w, (resolver (plainSetup true)).Reaches (initial childDone) w ∧
      w.resultsOf 9 = 2 ∧ w.resumed = [9, 9] ∧ w.delivered = [9, 9] := by
  apply Machine.Reaches.exists_of_run
    ([.insert delegationTo2, .call 2, .call 2, .find 0 none, .find 1 none] ++ resolveCall 0 ++
      [.write 1 { status := .suspended }, .finish 0 none] ++ resolveCall 1)
  decide +kernel

end NexusAgent.Delegate
