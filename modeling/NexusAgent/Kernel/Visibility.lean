import NexusAgent.Kernel.Delivery
import NexusAgent.Kernel.Session
import NexusAgent.Lib.Machine

/-!
# Durable before visible

A kernel call on a session, its consumer and the other writers of the log. The call may begin on
any session and with any history; every request is answered freely, a write that is committed may
still be reported as failed, and other writers append to the same log and write the same status
in between.
-/

namespace NexusAgent.Kernel

open EventLog Provider

/-- A kernel call under way, the session it is about and what it has done. -/
structure Observed where
  row : Row
  live : Live
  record : Record := {}

def Record.after (r : Record) : (o : Op) → o.Answer → Record
  | .append d, answer =>
    match answer with
    | .ok (eventID, seq) => r.noted (d.event eventID seq)
    | .error _ => r
  | .setStatus _ status _, err =>
    match err with
    | none => r.marked status
    | some _ => r
  | .yield ev err, more => r.handed ev err more
  | _, _ => r

inductive Happening
  /-- The request that the call waits at is answered. -/
  | reply (t : Reply)
  /-- An append is committed under this identifier and reported as failed. -/
  | appendLost (eventID : UUID) (e : AppendError)
  /-- A write of the status is committed and reported as failed. -/
  | statusLost (err : String)
  | otherAppend (e : Event Payload)
  | otherStatus (status : SessionStatus) (reason : Option TerminalReason)

/-- A kernel call among its surroundings. -/
def observed : Machine Observed Happening where
  step w
    | .reply t =>
      match w.live with
      | .done _ => none
      | .ask o k =>
        (w.row.handle o t).map fun (answer, row) =>
          { row, live := k answer, record := w.record.after o answer }
    | .appendLost eventID e =>
      match w.live with
      | .ask (.append d) k =>
        (w.row.log.append (d.event eventID 0)).map fun log =>
          { row := { w.row with log }
            live := k (.error e : Except AppendError (UUID × ℕ))
            record := w.record.noted (d.event eventID (w.row.log.nextSeq d.sessionID)) }
      | _ => none
    | .statusLost err =>
      match w.live with
      | .ask (.setStatus _ status reason) k =>
        some { row := w.row.setStatus status reason
               live := k (some err : Option String)
               record := w.record.marked status }
      | _ => none
    | .otherAppend e =>
      (w.row.log.append e).map fun log => { w with row := { w.row with log } }
    | .otherStatus status reason => some { w with row := w.row.setStatus status reason }

/-- The events that the consumer has seen, the one that is just being handed over included. -/
def Observed.seen (w : Observed) : List (Event Payload) :=
  match w.live with
  | .ask (.yield (some ev) _) _ => w.record.yielded ++ [ev]
  | _ => w.record.yielded

def Observed.Over (w : Observed) : Prop := ∃ a, w.live = .done a

instance (w : Observed) : Decidable w.Over :=
  match h : w.live with
  | .done a => .isTrue ⟨a, h⟩
  | .ask .. => .isFalse (by
      rintro ⟨a, ha⟩
      nomatch h.symm.trans ha)

/-- What is true at every moment of a call on the session `sid`. -/
structure Sound (sid : UUID) (w : Observed) : Prop where
  committed : w.record.appended.Sublist w.row.log.events
  own : ∀ e ∈ w.record.appended, e.sessionID = sid
  ordered : w.record.appended.Pairwise fun e e' => e.seq < e'.seq
  yielded_initial : w.record.yielded <+: w.record.appended
  disciplined : ∃ g, Disciplined sid w.live g
  delivering : w.live.Follows delivery w.record fun _ r => Finished r

/-! ### One step -/

lemma delivery_after (r : Record) (o : Op) (a : o.Answer) :
    delivery.step r o a (r.after o a) := by
  cases o with
  | append d =>
    match a with
    | .ok _ => exact rfl
    | .error _ => exact .inl rfl
  | setStatus sid status reason =>
    match a with
    | none => exact rfl
    | some _ => exact .inl rfl
  | _ => exact rfl

lemma exists_discipline_step (sid : UUID) (g : Stage) (o : Op) (a : o.Answer) :
    ∃ g', (discipline sid).step g o a g' := by
  cases o with
  | append d =>
    match a with
    | .ok _ => exact ⟨_, rfl⟩
    | .error _ => exact ⟨_, rfl⟩
  | _ => exact ⟨_, rfl⟩

section

variable {sid : UUID} {w : Observed} {o : Op} {k : o.Answer → Live}

lemma Sound.answered (h : Sound sid w) (hlive : w.live = .ask o k) {a : o.Answer} {row : Row}
    {record : Record} (hst : delivery.step w.record o a record)
    (hcommitted : record.appended.Sublist row.log.events)
    (hown : ∀ e ∈ record.appended, e.sessionID = sid)
    (hordered : record.appended.Pairwise fun e e' => e.seq < e'.seq)
    (hyielded : record.yielded <+: record.appended) :
    Sound sid { row, live := k a, record } := by
  refine ⟨hcommitted, hown, hordered, hyielded, ?_, ?_⟩
  · obtain ⟨g, hg⟩ := h.disciplined
    obtain ⟨g', hg'⟩ := exists_discipline_step sid g o a
    rw [hlive] at hg
    exact ⟨g', hg.2 a g' hg'⟩
  · have hfollows := h.delivering
    rw [hlive] at hfollows
    exact hfollows.2 a record hst

lemma Sound.committed_append (h : Sound sid w) {d : Draft} {eventID : UUID}
    {log : Log Payload} {k : (Op.append d).Answer → Live} (hlive : w.live = .ask (.append d) k)
    (hlog : w.row.log.append (d.event eventID 0) = some log) {a : Except AppendError (UUID × ℕ)}
    (hst : delivery.step w.record (.append d) a
      (w.record.noted (d.event eventID (w.row.log.nextSeq d.sessionID)))) :
    Sound sid
      { row := { w.row with log }, live := k a
        record := w.record.noted (d.event eventID (w.row.log.nextSeq d.sessionID)) } := by
  obtain ⟨-, hevents⟩ := Log.append_eq_some hlog
  have hsid : d.sessionID = sid := by
    obtain ⟨g, hg⟩ := h.disciplined
    rw [hlive] at hg
    exact hg.1.2.1
  refine h.answered hlive hst ?_ ?_ ?_ ?_
  · show (w.record.appended ++ [_]).Sublist log.events
    rw [hevents]
    exact h.committed.append (List.Sublist.refl _)
  · exact List.forall_mem_snoc h.own hsid
  · refine List.pairwise_append.2 ⟨h.ordered, List.pairwise_singleton _ _, ?_⟩
    intro e he e' he'
    -- what was appended before has a smaller number, wherever it is in the log
    rw [List.mem_singleton.1 he']
    have hlt := Log.seq_lt_nextSeq (h.committed.subset he)
    rw [h.own e he, ← hsid] at hlt
    exact hlt
  · exact h.yielded_initial.trans (List.prefix_append _ _)

/-- A request that is answered in the usual way. -/
lemma Sound.reply (h : Sound sid w) (hlive : w.live = .ask o k) {t : Reply} {a : o.Answer}
    {row : Row} (hh : w.row.handle o t = some (a, row)) :
    Sound sid { row, live := k a, record := w.record.after o a } := by
  have hst := delivery_after w.record o a
  cases o with
  | append d =>
    rcases Row.handle_append hh with ⟨e, rfl, rfl⟩ | ⟨eventID, log, rfl, hlog, rfl⟩
    · exact h.answered hlive hst h.committed h.own h.ordered h.yielded_initial
    · exact h.committed_append hlive hlog hst
  | setStatus id status reason =>
    obtain ⟨-, rfl⟩ := Row.handle_setStatus hh
    match a with
    | none => exact h.answered hlive hst h.committed h.own h.ordered h.yielded_initial
    | some _ => exact h.answered hlive hst h.committed h.own h.ordered h.yielded_initial
  | yield ev err =>
    obtain rfl := Row.handle_eq (by exact id) hh
    refine h.answered hlive hst h.committed h.own h.ordered ?_
    have hadm := h.delivering
    rw [hlive] at hadm
    match ev with
    | none => simpa [Record.after, Record.handed] using h.yielded_initial
    | some ev => exact hadm.1.2
  | _ =>
    obtain rfl := Row.handle_eq (by exact id) hh
    exact h.answered hlive hst h.committed h.own h.ordered h.yielded_initial

end

lemma sound_step {sid : UUID} (w : Observed) (a : Happening) (w' : Observed)
    (h : Sound sid w) (hst : observed.step w a = some w') : Sound sid w' := by
  cases a with
  | reply t =>
    change (match w.live with | .done _ => none | .ask o k => _) = some w' at hst
    split at hst
    · nomatch hst
    next o k hlive =>
    obtain ⟨⟨answer, row⟩, hh, rfl⟩ := Option.map_eq_some_iff.1 hst
    exact h.reply hlive hh
  | appendLost eventID e =>
    change (match w.live with | .ask (.append d) k => _ | _ => none) = some w' at hst
    split at hst
    · next d k hlive =>
      obtain ⟨log, hlog, rfl⟩ := Option.map_eq_some_iff.1 hst
      exact h.committed_append hlive hlog (.inr ⟨_, rfl⟩)
    · nomatch hst
  | statusLost err =>
    change (match w.live with | .ask (.setStatus _ status reason) k => _ | _ => none) = some w'
      at hst
    split at hst
    · next id status reason k hlive =>
      cases hst
      exact h.answered hlive (.inr rfl) h.committed h.own h.ordered h.yielded_initial
    · nomatch hst
  | otherAppend e =>
    obtain ⟨log, hlog, rfl⟩ := Option.map_eq_some_iff.1 hst
    obtain ⟨-, hevents⟩ := Log.append_eq_some hlog
    refine ⟨?_, h.own, h.ordered, h.yielded_initial, h.disciplined, h.delivering⟩
    show w.record.appended.Sublist log.events
    rw [hevents]
    exact h.committed.trans (List.sublist_append_left _ _)
  | otherStatus status reason =>
    cases hst
    exact ⟨h.committed, h.own, h.ordered, h.yielded_initial, h.disciplined, h.delivering⟩

/-! ### Whole calls -/

section

variable {k : Kernel} {tenantID sessionID : UUID} {entry : Entry}
  {history : List (Event Payload)} {row : Row} {w : Observed}

lemma sound_of_reaches
    (hw : observed.Reaches { row, live := entry.start k tenantID sessionID history } w) :
    Sound sessionID w := by
  refine hw.invariant ⟨List.nil_sublist _, ?_, .nil, List.prefix_rfl, ?_, ?_⟩ sound_step
  · exact List.forall_mem_nil _
  · exact ⟨{}, Entry.follows_discipline k tenantID sessionID history entry⟩
  · exact Entry.follows_delivery k tenantID sessionID history entry

/-- What is being handed over counts as seen. -/
lemma Sound.seen_initial (h : Sound sessionID w) : w.seen <+: w.record.appended := by
  unfold Observed.seen
  split
  · next ev err cont hlive =>
    have hadm := h.delivering
    rw [hlive] at hadm
    exact hadm.1.2
  · exact h.yielded_initial

lemma Sound.finished (h : Sound sessionID w) (hover : w.Over) : Finished w.record := by
  obtain ⟨a, hlive⟩ := hover
  have hfollows := h.delivering
  rw [hlive] at hfollows
  exact hfollows

end

/-- At every moment of every kernel call, what the consumer has seen is a prefix of what the call
has appended, which is in the log, in the order of the sequence numbers. A call that has
returned has shown everything, unless the consumer stopped it or was given an error. -/
theorem seen_committed (k : Kernel) (tenantID sessionID : UUID) (entry : Entry)
    (history : List (Event Payload)) (row : Row) (w : Observed)
    (hw : observed.Reaches { row, live := entry.start k tenantID sessionID history } w) :
    w.seen <+: w.record.appended ∧ w.record.appended.Sublist w.row.log.events ∧
      (w.record.appended.Pairwise fun e e' => e.seq < e'.seq) ∧
      (w.Over → w.record.stopped = false → w.record.yielded = w.record.appended) := by
  have h := sound_of_reaches hw
  refine ⟨h.seen_initial, h.committed, h.ordered, fun hover hwhole => ?_⟩
  obtain ⟨before, ev, -, hall, -⟩ := (h.finished hover).outcome hwhole
  exact hall

def freshRun : Observed := { row := {}, live := Entry.start {} 7 1 [] (.run {}) }

/-- The model says something, and the run ends. -/
def plainReply : List Happening :=
  [.reply (.wrote none), .reply .unmetered, .reply (.appended 1), .reply (.more true),
   .reply (.streamed (.ok ([.content "done", .done .stop ""], none))), .reply (.wrote none),
   .reply (.appended 2), .reply (.more true), .reply (.appended 3), .reply (.wrote none),
   .reply (.wrote none), .reply (.more true)]

/-- A run with another writer in between, all of whose events are seen. -/
theorem plainReply_seen :
    ∃ w, observed.Reaches freshRun w ∧ w.Over ∧ w.record.yielded.map Event.seq = [2, 3, 4] ∧
      w.seen <+: w.record.appended ∧ w.record.appended.Sublist w.row.log.events ∧
      w.record.yielded = w.record.appended := by
  refine Machine.Reaches.exists_of_run_imp
    (.otherAppend { eventID := 9, sessionID := 1, type := .forked, actor := .system
                    payload := .awaitingInput } :: plainReply)
    (fun w => w.Over ∧ w.record.stopped = false ∧ w.record.yielded.map Event.seq = [2, 3, 4]) ?_
    fun w hreach ⟨hover, hwhole, hseqs⟩ => ?_
  · decide +kernel
  obtain ⟨hseen, hcommitted, -, hall⟩ := seen_committed {} 7 1 (.run {}) [] {} w hreach
  exact ⟨hover, hseqs, hseen, hcommitted, hall hover hwhole⟩

/-- A kernel call that has returned, with neither a stop of its consumer nor an error, has
appended exactly one outcome. It is the last event of the call, and the status that the call
wrote last is the one of this outcome. -/
theorem oneOutcome (k : Kernel) (tenantID sessionID : UUID) (entry : Entry)
    (history : List (Event Payload)) (row : Row) (w : Observed)
    (hw : observed.Reaches { row, live := entry.start k tenantID sessionID history } w)
    (hover : w.Over) (hwhole : w.record.stopped = false) :
    ∃ before ev, w.record.appended = before ++ [ev] ∧ isOutcome ev.type = true ∧
      (∀ e ∈ before, isOutcome e.type = false) ∧
      w.record.status = some (outcomeStatus ev) := by
  obtain ⟨before, ev, happ, -, hev, hbefore, hstatus⟩ :=
    ((sound_of_reaches hw).finished hover).outcome hwhole
  exact ⟨before, ev, happ, hev, hbefore, hstatus⟩

/-- A run that ends with the model's reply. -/
theorem plainReply_completes :
    ∃ w before ev, observed.Reaches freshRun w ∧ w.Over ∧
      w.record.appended = before ++ [ev] ∧ isOutcome ev.type = true ∧
      w.record.status = some (outcomeStatus ev) ∧ w.record.status = some .completed := by
  obtain ⟨w, hreach, hover, hwhole, hcompleted⟩ : ∃ w, observed.Reaches freshRun w ∧ w.Over ∧
      w.record.stopped = false ∧ w.record.status = some .completed := by
    apply Machine.Reaches.exists_of_run plainReply
    decide +kernel
  obtain ⟨before, ev, happ, hev, -, hstatus⟩ :=
    oneOutcome {} 7 1 (.run {}) [] {} w hreach hover hwhole
  exact ⟨w, before, ev, hreach, hover, happ, hev, hstatus, hcompleted⟩

end NexusAgent.Kernel
