import NexusAgent.Kernel.Discipline
import NexusAgent.Runctl.Control

/-!
# A session that has ended stays ended

The status of a session is written by unguarded updates: a kernel call that ends a run appends
the terminal event and writes the status in two transactions, `Cancel` and
`EndIdleConversation` do both in one, and every kernel call begins by writing `running`,
whatever the status is by then. So the end of a session is final only in runs where these
operations keep out of each other's way (`Admitted`).
-/

namespace NexusAgent.Control

open EventLog Kernel

/-! ### Orderly runs -/

/-- Whether a kernel call is about to write the status that belongs to its terminal event. -/
def endsNext : Live → Bool
  | .ask (.setStatus _ status _) _ => status.terminal
  | _ => false

/-- Whether a reply says that a write went through. -/
def isWritten : Reply → Bool
  | .wrote none => true
  | _ => false

/-- The steps of an orderly run. A kernel call is started only while no other one is under way
and the session has not ended. `Cancel` and `EndIdleConversation` end a session only while no
kernel call is under way. The write of a status right after its terminal event does not fail,
and no process is lost between the two. -/
def Admitted (s : System) : Action → Prop
  | .start _ => s.live = [] ∧ s.row.status.terminal = false
  | .cancel .. => s.live = [] ∨ s.row.status.terminal = true
  | .endIdleConversation _ => s.live = [] ∨ s.row.status ≠ .awaitingInput
  | .reply i t => ∀ p ∈ s.live[i]?, endsNext p = true → isWritten t = true
  | .leave i => ∀ p ∈ s.live[i]?, endsNext p = false
  | .resumeConversation .. | .note .. => True

instance (s : System) (a : Action) : Decidable (Admitted s a) := by
  cases a <;> unfold Admitted <;> infer_instance

/-! ### The invariant -/

/-- The log and the status agree on whether the session has ended. -/
def Settled (r : Row) : Prop :=
  terminals r.log = if r.status.terminal then 1 else 0

/-- The session as the phase of its kernel call has it: nothing has ended while the call works,
the terminal event stands alone between its append and the status write, and both are there
after it. A status write that failed does not occur. -/
def Matches : Phase → Row → Prop
  | .working, r => terminals r.log = 0 ∧ r.status.terminal = false
  | .ending status, r =>
    status.terminal = true ∧ terminals r.log = 1 ∧ r.status.terminal = false
  | .ended, r => terminals r.log = 1 ∧ r.status.terminal = true
  | .cut, _ => False

/-- At most one kernel call is under way, and it is in the phase that the session shows. -/
inductive Inv (sid : UUID) : System → Prop
  | idle {row : Row} : Settled row → Inv sid { row, live := [] }
  | busy {row : Row} {p : Live} {g : Stage} : Disciplined sid p g → Matches g.phase row →
      Inv sid { row, live := [p] }

variable {p : Live} {r row : Row} {g : Stage} {s : System} {sid : UUID}

lemma Matches.terminals_le {phase : Phase} (h : Matches phase r) : terminals r.log ≤ 1 := by
  match phase, h with
  | .working, h => exact h.1.trans_le (Nat.zero_le 1)
  | .ending _, h => exact h.2.1.le
  | .ended, h => exact h.1.le

lemma Settled.terminals_le (h : Settled r) : terminals r.log ≤ 1 := by
  rw [h]
  split <;> omega

lemma Inv.terminals_le (h : Inv sid s) : terminals s.row.log ≤ 1 := by
  cases h with
  | idle hrow | busy _ hrow => exact hrow.terminals_le

lemma endsNext_of_ending {status : SessionStatus} (hp : Disciplined sid p g)
    (hphase : g.phase = .ending status) (hterm : status.terminal = true) : endsNext p = true := by
  have hnot : g.phase.isEnding = true := by rw [hphase]; rfl
  match p, hp with
  | .done a, hstop => exact absurd (hnot.symm.trans hstop) nofun
  | .ask o k, hask =>
    have hadm := hask.1
    -- the phase `ending` admits nothing but the status write
    cases o with
    | setStatus id status' reason =>
      obtain ⟨-, hstatus⟩ := hadm
      rw [hphase] at hstatus
      obtain rfl : status' = status := hstatus
      exact hterm
    | append | execute => exact absurd (hphase.symm.trans hadm.1) nofun
    | stream _ _ => exact absurd (hphase.symm.trans hadm) nofun
    | _ => exact absurd (hnot.symm.trans hadm) nofun

/-- A call that may go leaves a settled session. -/
lemma Matches.settled (hp : Disciplined sid p g) (h : Matches g.phase r)
    (hleave : endsNext p = false) : Settled r := by
  unfold Settled
  cases hphase : g.phase with
  | working | ended =>
    rw [hphase] at h
    rw [h.1, h.2]
    rfl
  | ending status =>
    rw [hphase] at h
    exact absurd (hleave.symm.trans (endsNext_of_ending hp hphase h.1)) nofun
  | cut =>
    rw [hphase] at h
    exact h.elim

/-! ### One step -/

/-- What a step leads to: the invariant, and the status where it was terminal. -/
def Kept (sid : UUID) (s s' : System) : Prop :=
  Inv sid s' ∧ (s.row.status.terminal = true → s'.row.status = s.row.status)

lemma Payload.endStatus_terminal (payload : Payload) : payload.endStatus.terminal = true := by
  unfold Kernel.Payload.endStatus
  split
  · exact Terminal.status_terminal _
  · rfl

/-- An append keeps the phase and the session in agreement. -/
lemma Matches.append {d : Draft} {eventID : UUID} {log : Log Payload} (h : Matches g.phase r)
    (hworking : g.phase = .working) (hlog : r.log.append (d.event eventID 0) = some log) :
    Matches (g.append d).phase { r with log } := by
  rw [hworking] at h
  have hcount : terminals log = if d.type = .terminal then 1 else 0 := by
    rw [terminals_append hlog, h.1, Nat.zero_add]
    rfl
  unfold Stage.append
  by_cases hterm : d.type = .terminal
  · rw [if_pos hterm] at hcount ⊢
    exact ⟨Payload.endStatus_terminal _, hcount, h.2⟩
  · rw [if_neg hterm] at hcount ⊢
    have hphase : (if d.type = .taintTransition then { g with due := none } else g).phase =
        .working := by
      split <;> exact hworking
    rw [hphase]
    exact ⟨hcount, h.2⟩

/-- Requests that write nothing do not change the phase of a call. -/
lemma discipline_step_phase (sid : UUID) (g : Stage) {o : Op} (ho : ¬ o.Writes)
    (answer : o.Answer) : ∃ g', (discipline sid).step g o answer g' ∧ g'.phase = g.phase := by
  cases o with
  | append | setStatus => exact absurd trivial ho
  | execute req rc => exact ⟨g.executed answer, rfl, rfl⟩
  | _ => exact ⟨g, rfl, rfl⟩

/-- One request of the kernel call that is under way. -/
lemma busy_reply {p' : Live} {row' : Row} {t : Reply} (hp : Disciplined sid p g)
    (h : Matches g.phase row) (hok : endsNext p = true → isWritten t = true)
    (hst : p.advance Row.handle row t = some (row', p')) :
    Kept sid { row, live := [p] } { row := row', live := [p'] } := by
  obtain ⟨o, k, answer, rfl, hh, rfl⟩ := Process.advance_eq_some.1 hst
  obtain ⟨hadm, hnext⟩ := hp
  by_cases hw : o.Writes
  · cases o with
    | append d =>
      have hworking : g.phase = .working := hadm.1
      rcases Row.handle_append hh with ⟨e, rfl, rfl⟩ | ⟨eventID, log, rfl, hlog, rfl⟩
      · exact ⟨.busy (hnext (.error e) g rfl) h, fun _ => rfl⟩
      · exact ⟨.busy (hnext (.ok _) (g.append d) rfl) (h.append hworking hlog), fun _ => rfl⟩
    | setStatus id status reason =>
      obtain ⟨rfl, rfl⟩ := Row.handle_setStatus hh
      have hlive := hnext answer (g.statusWritten answer) rfl
      obtain ⟨-, hstatus⟩ := hadm
      cases hphase : g.phase with
      | working =>
        rw [hphase] at h hstatus
        have hsame : (g.statusWritten answer).phase = .working := by
          unfold Stage.statusWritten
          rw [hphase]
          exact hphase
        refine ⟨.busy hlive ?_, fun hterm => absurd (hterm.symm.trans h.2) nofun⟩
        rw [hsame]
        cases answer with
        | none => exact ⟨h.1, hstatus⟩
        | some e => exact h
      | ending expected =>
        rw [hphase] at h hstatus
        obtain rfl : status = expected := hstatus
        -- an orderly run does not fail here
        obtain rfl : answer = none := by
          have := hok h.1
          cases answer with
          | none => rfl
          | some e => nomatch this
        have hended : (g.statusWritten none).phase = .ended := by
          unfold Stage.statusWritten
          rw [hphase]
          rfl
        refine ⟨.busy hlive ?_, fun hterm => absurd (hterm.symm.trans h.2.2) nofun⟩
        rw [hended]
        exact ⟨h.2.1, h.1⟩
      | ended | cut =>
        rw [hphase] at hstatus
        exact hstatus.elim
    | _ => exact hw.elim
  · obtain rfl := Row.handle_eq hw hh
    obtain ⟨g', hstep, hphase⟩ := discipline_step_phase sid g hw answer
    refine ⟨.busy (hnext answer g' hstep) ?_, fun _ => rfl⟩
    rw [hphase]
    exact h

lemma Matches.congr {phase : Phase} {r' : Row} (h : Matches phase r)
    (hcount : terminals r'.log = terminals r.log) (hstatus : r'.status.terminal = r.status.terminal)
    : Matches phase r' := by
  match phase, h with
  | .working, h => exact ⟨hcount.trans h.1, hstatus.trans h.2⟩
  | .ending _, h => exact ⟨h.1, hcount.trans h.2.1, hstatus.trans h.2.2⟩
  | .ended, h => exact ⟨hcount.trans h.1, hstatus.trans h.2⟩

/-- Events that are not terminal, and statuses that are not, leave the agreement as it is. -/
lemma Inv.mono (h : Inv sid s) (hcount : terminals row.log = terminals s.row.log)
    (hstatus : row.status.terminal = s.row.status.terminal) : Inv sid { s with row } := by
  cases h with
  | idle hrow =>
    refine .idle ?_
    unfold Settled at hrow ⊢
    rw [hcount, hstatus]
    exact hrow
  | busy hp hphase => exact .busy hp (hphase.congr hcount hstatus)

lemma ends_step {p : SessionStatus → Prop} (h : Inv sid s) (hends : Ends p s.row row)
    (hp : ∀ status, p status → status.terminal = false) (hadm : s.live = [] ∨ ¬ p s.row.status) :
    Kept sid s { s with row } := by
  rcases hends with rfl | ⟨hstatus, hfailed, hcount⟩
  · exact ⟨h, fun _ => rfl⟩
  have hopen : s.row.status.terminal = false := hp _ hstatus
  refine ⟨?_, fun hterm => absurd (hterm.symm.trans hopen) nofun⟩
  have hlive : s.live = [] := hadm.resolve_right (not_not_intro hstatus)
  cases h with
  | busy _ _ => nomatch hlive
  | @idle row₀ hrow =>
    have hopen₀ : row₀.status.terminal = false := hopen
    refine .idle ?_
    unfold Settled at hrow ⊢
    rw [hcount, hrow, hopen₀, hfailed]
    rfl

/-- Every step of an orderly run keeps the agreement, and a terminal status. -/
lemma inv_step {k : Kernel} {tenantID : UUID} {s' : System} {a : Action} (h : Inv sid s)
    (hadm : Admitted s a) (hst : (session k tenantID sid).step s a = some s') : Kept sid s s' := by
  cases a with
  | start entry =>
    obtain ⟨hlive, hopen⟩ := hadm
    obtain rfl : { s with live := s.live ++ [entry.start k tenantID sid s.row.log.events] } =
        s' := Option.some.inj (Option.ite_none_right_eq_some.1 hst).2
    cases h with
    | busy _ _ => nomatch hlive
    | @idle row hrow =>
      have hopen' : row.status.terminal = false := hopen
      refine ⟨.busy (entry.follows_discipline k tenantID sid _) ⟨?_, hopen'⟩, fun _ => rfl⟩
      rw [hrow, hopen']
      rfl
  | reply i t =>
    obtain ⟨p, hp, hrest⟩ := Option.bind_eq_some_iff.1 hst
    obtain ⟨⟨row', p'⟩, hadvance, heq⟩ := Option.bind_eq_some_iff.1 hrest
    obtain rfl := Option.some.inj heq
    cases h with
    | idle _ => nomatch hp
    | busy hlive hphase =>
      -- the only call under way is the first one
      cases i with
      | succ i => nomatch hp
      | zero =>
        obtain rfl := Option.some.inj hp
        exact busy_reply hlive hphase (hadm _ hp) hadvance
  | leave i =>
    obtain ⟨hi, heq⟩ := Option.ite_none_right_eq_some.1 hst
    obtain rfl := Option.some.inj heq
    cases h with
    | idle _ => exact absurd hi (Nat.not_lt_zero i)
    | @busy row p g hlive hphase =>
      obtain rfl : i = 0 := Nat.lt_one_iff.1 hi
      exact ⟨.idle (hphase.settled hlive (hadm p rfl)), fun _ => rfl⟩
  | cancel reason script =>
    obtain rfl := Option.some.inj hst
    refine ends_step h (cancel_ends sid reason script s.row) (fun _ => id) ?_
    exact hadm.imp_right fun hterm hopen => absurd (hterm.symm.trans hopen) nofun
  | endIdleConversation script =>
    obtain rfl := Option.some.inj hst
    refine ends_step h (endIdleConversation_ends sid script s.row) ?_ hadm
    rintro status rfl
    rfl
  | resumeConversation input script =>
    obtain rfl := Option.some.inj hst
    rcases converse_cases sid input script s.row with hsame | ⟨hawaiting, hrunning, hcount⟩
    · rw [hsame]
      exact ⟨h, fun _ => rfl⟩
    · have hopen : s.row.status.terminal = false := by rw [hawaiting]; rfl
      refine ⟨h.mono hcount ?_, fun hterm => absurd (hterm.symm.trans hopen) nofun⟩
      rw [hrunning, hopen]
      rfl
  | note d eventID =>
    obtain ⟨hterm, heq⟩ := Option.ite_none_left_eq_some.1 hst
    obtain ⟨log, hlog, rfl⟩ := Option.map_eq_some_iff.1 heq
    refine ⟨h.mono ?_ rfl, fun _ => rfl⟩
    show terminals log = terminals s.row.log
    rw [terminals_append hlog]
    exact if_neg hterm ▸ Nat.add_zero _

/-! ### Whole runs -/

def fresh : System := {}

lemma inv_fresh (sid : UUID) : Inv sid fresh := .idle rfl

/-- The invariant holds in every state of an orderly run. -/
lemma inv_reaches {k : Kernel} {tenantID : UUID}
    (h : (session k tenantID sid).ReachesBy Admitted fresh s) : Inv sid s :=
  h.invariant (inv_fresh sid) fun _ _ _ hinv hadm hst => (inv_step hinv hadm hst).1

/-- In an orderly run the log never holds a second terminal event, and a status that is
terminal is never replaced by another. -/
theorem terminal_absorbing (k : Kernel) (tenantID sid : UUID) {s s' : System}
    (h : (session k tenantID sid).ReachesBy Admitted fresh s)
    (h' : (session k tenantID sid).ReachesBy Admitted s s') :
    terminals s'.row.log ≤ 1 ∧ (s.row.status.terminal = true → s'.row.status = s.row.status) := by
  refine ⟨(inv_reaches (h.trans h')).terminals_le, fun hterm => ?_⟩
  -- from a terminal status on, every step keeps the invariant and that status
  have hstep (t : System) (a : Action) (t' : System)
      (ht : Inv sid t ∧ t.row.status = s.row.status) (hadm : Admitted t a)
      (hst : (session k tenantID sid).step t a = some t') :
      Inv sid t' ∧ t'.row.status = s.row.status := by
    obtain ⟨hinv, hsame⟩ := inv_step ht.1 hadm hst
    have hterm' : t.row.status.terminal = true := ht.2 ▸ hterm
    exact ⟨hinv, (hsame hterm').trans ht.2⟩
  exact (h'.invariant ⟨inv_reaches h, rfl⟩ hstep).2

/-! ### Two runs -/

def noReservation : Cost.Reservation :=
  { id := 0, tenantID := 0, sessionID := 0, modelID := ""
    decision := { kind := .skip, reason := "", reserved := { currency := "USD" } } }

/-- The first kernel call goes from its beginning to the point where it works. -/
def begin : List Action := [.start (.run {}), .reply 0 (.wrote none)]

/-- The kernel call makes one turn without an answer, which ends the run. -/
def plainTurn : List Action :=
  [.reply 0 (.reserved noReservation none), .reply 0 (.appended 1), .reply 0 (.more true),
   .reply 0 (.streamed (.ok ([], none))), .reply 0 (.wrote none), .reply 0 (.appended 2),
   .reply 0 (.wrote none)]

/-- The session is cancelled, under an identifier of its own for the terminal event. -/
def cancelNow : Action := .cancel "stop" [some 0, some 10, some 0, some 0]

/-- The resume of an approval that was denied begins. -/
def lateResume : List Action :=
  [.start (.resume {} { toolUseEventID := 5, toolID := "", input := "", decision := .denied }),
   .reply 1 (.wrote none)]

/-- The test that a step is one of an orderly run. -/
def orderly (s : System) (a : Action) : Bool := decide (Admitted s a)

/-- A run that ends, and is cancelled afterwards to no effect. -/
theorem orderlyRun_absorbed :
    ∃ s s', (session {} 7 8).ReachesBy Admitted fresh s ∧
      (session {} 7 8).ReachesBy Admitted s s' ∧ s.row.status = .completed ∧
      terminals s'.row.log ≤ 1 ∧ s'.row.status = .completed := by
  obtain ⟨s, s', hrun, hrun', hstatus⟩ : ∃ s s',
      (session {} 7 8).runBy orderly fresh (begin ++ plainTurn ++ [.leave 0]) = some s ∧
      (session {} 7 8).runBy orderly s [cancelNow] = some s' ∧ s.row.status = .completed :=
    ⟨_, _, rfl, rfl, rfl⟩
  have hs := Machine.ReachesBy.of_runBy _ hrun
  have hs' := Machine.ReachesBy.of_runBy _ hrun'
  obtain ⟨hcount, hkept⟩ := terminal_absorbing {} 7 8 hs hs'
  have hterm : s.row.status.terminal = true := by rw [hstatus]; rfl
  exact ⟨s, s', hs, hs', hstatus, hcount, (hkept hterm).trans hstatus⟩

/-- A session is cancelled while its kernel call works. The call ends the run a second time,
and the resume of an approval then writes `running` over the terminal status. -/
theorem cancelledRun_endsTwice :
    ∃ s s', (session {} 7 8).Reaches fresh s ∧ (session {} 7 8).Reaches s s' ∧
      s.row.status = .failed ∧ s'.row.status = .running ∧ terminals s'.row.log = 2 := by
  obtain ⟨s, s', hrun, hrun', hfailed, hrunning, hcount⟩ : ∃ s s',
      (session {} 7 8).run fresh (begin ++ [cancelNow]) = some s ∧
      (session {} 7 8).run s (plainTurn ++ lateResume) = some s' ∧
      s.row.status = .failed ∧ s'.row.status = .running ∧ terminals s'.row.log = 2 :=
    ⟨_, _, rfl, rfl, rfl, rfl, rfl⟩
  exact ⟨s, s', .of_run _ hrun, .of_run _ hrun', hfailed, hrunning, hcount⟩

end NexusAgent.Control
