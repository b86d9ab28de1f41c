import Mathlib.Data.List.MinMax
import Mathlib.Order.Nat
import NexusAgent.EventLog.Event
import NexusAgent.Lib.Lists
import NexusAgent.Lib.Machine

/-!
# The live event stream

A client that connects to `handleEvents` (`internal/surfaces/rest/run_events.go`) is sent the
events of a session as frames: the history first, then what the broker
(`internal/surfaces/rest/broker.go`) passes on. It is subscribed before the history is read, so that
no event is missed in between, and what it has been sent as history is skipped later on.

A channel holds 64 items and the broker does not wait for room: an event that finds the channel full
is not sent on this connection at all. Neither does the handler look at the order of what it
receives, which is that of the publishing parties.

- `InOrder.push`: an item that comes in order and finds room keeps a connection in order.
- `step_orderly`: what holds of every connection, in runs whose publishing is orderly.
- `slowClient_skips`: a client that does not read for a while, and misses an event.
-/

namespace NexusAgent.Rest

open EventLog

/-! ### The model -/

/-- A live preview of an event to come. -/
structure DeltaDTO where
  kind : String
  text : String := ""
  toolUseID : String := ""
  toolName : String := ""

/-- What flows through the broker. -/
inductive Published (P : Type)
  | event (e : Event P)
  | err (text : String)
  | delta (d : DeltaDTO)

/-- The data of the frame of an event, without its model and its time, which `Event` leaves out. -/
structure EventDTO where
  eventID : UUID
  seq : ℕ
  type : EventType
  actor : Actor
  toolID : Option String
  pairRef : Option UUID
  body : Option String

/-- A frame that is written to the client. -/
inductive Frame
  | event (dto : EventDTO)
  | error (text : String)
  | delta (d : DeltaDTO)

def chanCapacity : ℕ := 64

/-- How far the handler of a connection has come. -/
inductive Stage (P : Type)
  /-- It is subscribed and about to read the history. -/
  | subscribed
  /-- It writes the history. -/
  | replaying (rest : List (Event P))
  /-- It waits for its channel. -/
  | live
  | returned

/-- A connection: its handler, its channel and what has been written to the client. -/
structure Conn (P : Type) where
  sessionID : UUID
  stage : Stage P := .subscribed
  lastSeq : ℕ := 0
  chan : List (Published P) := []
  closed : Bool := false
  /-- The channel is one of those that the broker publishes to. -/
  registered : Bool := true
  frames : List Frame := []

section Handler

variable {P : Type}

/-- `toEventDTO`: a thought is never shown, and what else an event holds has to be opened. -/
def toEventDTO (opener : Event P → Except String String) (e : Event P) :
    Except String EventDTO :=
  let dto (body : Option String) : EventDTO :=
    { eventID := e.eventID, seq := e.seq, type := e.type, actor := e.actor, toolID := e.toolID,
      pairRef := e.pairRef, body }
  if e.type = .thought then .ok (dto none) else (opener e).map fun plaintext => dto (some plaintext)

namespace Conn

/-- The handler returns, which ends the subscription. -/
def exit (c : Conn P) : Conn P := { c with stage := .returned, registered := false }

def send (c : Conn P) (f : Frame) : Conn P := { c with frames := c.frames ++ [f] }

/-- The handler's `write`, and what it does next: it returns after an error, and after the last
event of the session. -/
def write (c : Conn P) (opener : Event P → Except String String) (e : Event P)
    (next : Conn P → Conn P) : Conn P :=
  match toEventDTO opener e with
  | .error text => (c.send (.error text)).exit
  | .ok dto =>
    if e.type = .terminal then (c.send (.event dto)).exit else next (c.send (.event dto))

/-- What the live loop does with an item of the channel. -/
def receive (c : Conn P) (opener : Event P → Except String String) : Published P → Conn P
  | .delta d => c.send (.delta d)
  | .err text => (c.send (.error text)).exit
  | .event e => if e.seq ≤ c.lastSeq then c else c.write opener e id

/-- What the handler does next: nothing while it waits for an item. -/
def advance (c : Conn P) (opener : Event P → Except String String) : Option (Conn P) :=
  match c.stage with
  | .replaying [] => some { c with stage := .live }
  | .replaying (e :: rest) =>
    some (c.write opener e fun c => { c with stage := .replaying rest, lastSeq := e.seq })
  | .live =>
    match c.chan with
    | p :: chan => some ({ c with chan }.receive opener p)
    | [] => if c.closed then some c.exit else none
  | .subscribed | .returned => none

def push (c : Conn P) (p : Published P) : Conn P := { c with chan := c.chan ++ [p] }

/-- `publish` to one channel: skipped when it is full. -/
def offer (sessionID : UUID) (p : Published P) (c : Conn P) : Conn P :=
  if c.registered ∧ c.sessionID = sessionID ∧ c.chan.length < chanCapacity then c.push p else c

/-- `closeSession` for one channel. -/
def close (sessionID : UUID) (c : Conn P) : Conn P :=
  if c.registered ∧ c.sessionID = sessionID then { c with closed := true, registered := false }
  else c

end Conn

structure Server (P : Type) where
  log : Log P := Log.empty
  conns : List (Conn P) := []

/-- What can happen; `i` is the number of a connection. -/
inductive Action (P : Type)
  | append (e : Event P)
  /-- `RelayEvent` with an event of the log. -/
  | relayEvent (e : Event P)
  /-- `RelayEvent` with an error of a run. -/
  | relayError (sessionID : UUID) (text : String)
  | relayDelta (sessionID : UUID) (d : DeltaDTO)
  | connect (sessionID : UUID)
  | readHistory (i : ℕ) (error : Option String)
  | advance (i : ℕ) (opener : Event P → Except String String)
  | disconnect (i : ℕ)

/-- `RelayEvent`: the channels are closed behind the last event of a session. -/
def relayEvent (conns : List (Conn P)) (e : Event P) : List (Conn P) :=
  let offered := conns.map (Conn.offer e.sessionID (.event e))
  if e.type = .terminal then offered.map (Conn.close e.sessionID) else offered

def Conn.afterRead (c : Conn P) (log : Log P) : Option String → Conn P
  | some text => (c.send (.error text)).exit
  | none => { c with stage := .replaying (log.session c.sessionID) }

/-- The parties, interleaved. An event is published after it was appended, and otherwise whenever,
however often and in whatever order. -/
def server [DecidableEq P] : Machine (Server P) (Action P) where
  step s
    | .append e => (s.log.append e).map fun log => { s with log }
    | .relayEvent e =>
      if e ∈ s.log.events then some { s with conns := relayEvent s.conns e } else none
    | .relayError sessionID text =>
      some { s with conns := s.conns.map (Conn.offer sessionID (.err text)) }
    | .relayDelta sessionID d =>
      some { s with conns := s.conns.map (Conn.offer sessionID (.delta d)) }
    | .connect sessionID => some { s with conns := s.conns ++ [{ sessionID }] }
    | .readHistory i error => s.conns[i]?.bind fun c =>
      match c.stage with
      | .subscribed => some { s with conns := s.conns.set i (c.afterRead s.log error) }
      | _ => none
    | .advance i opener => s.conns[i]?.bind fun c =>
      (c.advance opener).map fun c' => { s with conns := s.conns.set i c' }
    | .disconnect i => s.conns[i]?.map fun c => { s with conns := s.conns.set i c.exit }

end Handler

/-! ### Orderly publishing -/

section

variable {P : Type}

def Frame.seq : Frame → Option ℕ
  | .event dto => some dto.seq
  | .error _ | .delta _ => none

def Published.seq : Published P → Option ℕ
  | .event e => some e.seq
  | .err _ | .delta _ => none

namespace Conn

/-- The sequence numbers of the events that were sent to the client. -/
def sent (c : Conn P) : List ℕ := c.frames.filterMap Frame.seq

/-- The sequence numbers of the events in the channel. -/
def waiting (c : Conn P) : List ℕ := c.chan.filterMap Published.seq

def hasRead (c : Conn P) : Bool :=
  match c.stage with
  | .replaying _ | .live => true
  | .subscribed | .returned => false

/-- The last event of the history that was read. -/
def horizon (c : Conn P) : ℕ :=
  match c.stage with
  | .replaying rest => c.lastSeq + rest.length
  | _ => c.lastSeq

/-- An event is the one after all that the connection has been given so far: in the history, in
frames and in its channel. -/
def Awaits (c : Conn P) (e : Event P) : Prop :=
  (∀ seq ∈ c.horizon :: (c.sent ++ c.waiting), seq < e.seq) ∧
    e.seq - 1 ∈ c.horizon :: (c.sent ++ c.waiting)

instance (c : Conn P) (e : Event P) : Decidable (c.Awaits e) := by
  unfold Awaits
  infer_instance

/-- The events on a connection have consecutive sequence numbers, from the first one. -/
def Gapless (c : Conn P) : Prop := ∃ k, c.sent = List.range' 1 k

end Conn

/-- An event that is not in the history of a connection that has read it is published in order, and
when there is room in the channel. -/
def Orderly (s : Server P) : Action P → Prop
  | .relayEvent e => ∀ c ∈ s.conns, c.registered ∧ c.sessionID = e.sessionID ∧ c.hasRead →
    c.horizon < e.seq → c.Awaits e ∧ c.chan.length < chanCapacity
  | _ => True

instance (s : Server P) (a : Action P) : Decidable (Orderly s a) :=
  match a with
  | .relayEvent _ => inferInstanceAs (Decidable (∀ c ∈ s.conns, _ → _ → _))
  | .append _ | .relayError .. | .relayDelta .. | .connect _ | .readHistory .. | .advance ..
  | .disconnect _ => inferInstanceAs (Decidable True)

/-! ### What holds of a connection -/

namespace Conn

/-- The events in the channel that the history does not have are those after `m`, in order. -/
def Queued (c : Conn P) (m : ℕ) : Prop :=
  ∃ j, c.waiting.filter (fun seq => c.horizon < seq) = List.range' (m + 1) j

/-- A connection in order, to a session of `n` events. -/
def InOrder (n : ℕ) (c : Conn P) : Prop :=
  match c.stage with
  | .subscribed => c.sent = [] ∧ c.lastSeq = 0 ∧ ∀ seq ∈ c.waiting, seq ≤ n
  | .replaying rest => ∃ k, c.sent = List.range' 1 k ∧ c.lastSeq = k ∧
    rest.map Event.seq = List.range' (k + 1) rest.length ∧ c.Queued c.horizon
  | .live => ∃ k, c.sent = List.range' 1 k ∧ c.lastSeq ≤ k ∧ c.Queued k
  | .returned => c.Gapless

section Stages

variable {c : Conn P} {n : ℕ}

lemma inOrder_subscribed (h : c.stage = .subscribed) :
    c.InOrder n ↔ c.sent = [] ∧ c.lastSeq = 0 ∧ ∀ seq ∈ c.waiting, seq ≤ n := by
  unfold InOrder
  rw [h]

lemma inOrder_replaying {rest : List (Event P)} (h : c.stage = .replaying rest) :
    c.InOrder n ↔ ∃ k, c.sent = List.range' 1 k ∧ c.lastSeq = k ∧
      rest.map Event.seq = List.range' (k + 1) rest.length ∧ c.Queued c.horizon := by
  unfold InOrder
  rw [h]

lemma inOrder_live (h : c.stage = .live) :
    c.InOrder n ↔ ∃ k, c.sent = List.range' 1 k ∧ c.lastSeq ≤ k ∧ c.Queued k := by
  unfold InOrder
  rw [h]

lemma inOrder_returned (h : c.stage = .returned) : c.InOrder n ↔ c.Gapless := by
  unfold InOrder
  rw [h]

end Stages

/-! The fields of a connection that is changed -/

section Fields

variable (c : Conn P) (p : Published P) (f : Frame)

@[simp] theorem push_horizon : (c.push p).horizon = c.horizon := rfl

@[simp] theorem push_waiting : (c.push p).waiting = c.waiting ++ p.seq.toList := by
  unfold waiting push
  cases hseq : p.seq <;> simp [hseq]

@[simp] theorem sent_send : (c.send f).sent = c.sent ++ f.seq.toList := by
  unfold sent send
  cases hseq : f.seq <;> simp [hseq]

end Fields

variable {c : Conn P} {e : Event P} {opener : Event P → Except String String} {p : Published P}
  {n : ℕ}

lemma InOrder.gapless (h : c.InOrder n) : c.Gapless := by
  unfold InOrder at h
  split at h
  · exact ⟨0, h.1⟩
  · obtain ⟨k, hsent, -⟩ := h
    exact ⟨k, hsent⟩
  · obtain ⟨k, hsent, -⟩ := h
    exact ⟨k, hsent⟩
  · exact h

lemma InOrder.mono {n' : ℕ} (h : c.InOrder n) (hn : n ≤ n') : c.InOrder n' := by
  unfold InOrder at h ⊢
  cases hstage : c.stage with
  | subscribed =>
    rw [hstage] at h
    exact ⟨h.1, h.2.1, fun seq hseq => (h.2.2 seq hseq).trans hn⟩
  | replaying rest | live | returned =>
    rw [hstage] at h
    exact h

/-- An event that a connection awaits follows the last one in its channel. -/
lemma Queued.next {m j : ℕ}
    (hqueued : c.waiting.filter (fun seq => c.horizon < seq) = List.range' (m + 1) j)
    (hhorizon : c.horizon ≤ m) (hsent : ∀ seq ∈ c.sent, seq ≤ m) (hm : m = c.horizon ∨ m ∈ c.sent)
    (hawaits : c.Awaits e) : e.seq = m + 1 + j := by
  obtain ⟨hlt, hmem⟩ := hawaits
  have hwaiting (seq : ℕ) (h : seq ∈ c.waiting) : seq ≤ m + j := by
    by_cases hseq : c.horizon < seq
    · have : seq ∈ List.range' (m + 1) j := by
        rw [← hqueued]
        exact List.mem_filter.2 ⟨h, decide_eq_true hseq⟩
      have := List.mem_range'_1.1 this
      omega
    · omega
  -- the last one that was taken is `m + j`
  have hlast : m + j ∈ c.horizon :: (c.sent ++ c.waiting) := by
    cases j with
    | zero =>
      rcases hm with rfl | hm
      · exact List.mem_cons_self
      · exact List.mem_cons_of_mem _ (List.mem_append_left _ hm)
    | succ j =>
      have : m + (j + 1) ∈ c.waiting.filter (fun seq => c.horizon < seq) := by
        rw [hqueued]
        exact List.mem_range'_1.2 (by omega)
      exact List.mem_cons_of_mem _ (List.mem_append_right _ (List.mem_filter.1 this).1)
  have hge := hlt _ hlast
  have hle : e.seq - 1 ≤ m + j := by
    rcases List.mem_cons.1 hmem with h | h
    · omega
    rcases List.mem_append.1 h with h | h
    · exact (hsent _ h).trans (Nat.le_add_right m j)
    · exact hwaiting _ h
  omega

/-- A channel that is given an item keeps what it has. -/
lemma Queued.push {m : ℕ} (h : c.Queued m) (hp : ∀ seq, p.seq = some seq → c.horizon < seq → ∀ j,
      c.waiting.filter (fun seq => c.horizon < seq) = List.range' (m + 1) j → seq = m + 1 + j) :
    (c.push p).Queued m := by
  obtain ⟨j, hj⟩ := h
  unfold Queued
  rw [push_waiting, push_horizon, List.filter_append, hj]
  cases hseq : p.seq with
  | none => exact ⟨j, by simp⟩
  | some seq =>
    by_cases hlt : c.horizon < seq
    · obtain rfl := hp seq hseq hlt j hj
      refine ⟨j + 1, ?_⟩
      rw [List.range'_concat]
      simp [hlt]
    · exact ⟨j, by simp [hlt]⟩

/-- A connection that is given an item stays in order if an event which the history does not have
is the one that it awaits. -/
lemma InOrder.push (h : c.InOrder n) (hn : ∀ seq, p.seq = some seq → seq ≤ n)
    (hawaits : ∀ e, p = .event e → c.hasRead → c.horizon < e.seq → c.Awaits e) :
    (c.push p).InOrder n := by
  have hnext {seq : ℕ} (hseq : p.seq = some seq) (hread : c.hasRead) (hlt : c.horizon < seq) :
      ∃ e, e.seq = seq ∧ c.Awaits e := by
    cases p with
    | event e =>
      cases hseq
      exact ⟨e, rfl, hawaits e rfl hread hlt⟩
    | err | delta => nomatch hseq
  cases hstage : c.stage with
  | subscribed =>
    obtain ⟨hsent, hlast, hwaiting⟩ := (inOrder_subscribed hstage).1 h
    refine (inOrder_subscribed (c := c.push p) hstage).2 ⟨hsent, hlast, fun seq hseq => ?_⟩
    rw [push_waiting, List.mem_append] at hseq
    rcases hseq with hseq | hseq
    · exact hwaiting seq hseq
    · exact hn seq (by simpa using hseq)
  | replaying rest =>
    obtain ⟨k, hsent, hlast, hrest, hqueued⟩ := (inOrder_replaying hstage).1 h
    have hhorizon : c.horizon = k + rest.length := by simp [horizon, hstage, hlast]
    refine (inOrder_replaying (c := c.push p) hstage).2 ⟨k, hsent, hlast, hrest,
      hqueued.push fun seq hseq hlt j hj => ?_⟩
    obtain ⟨e, rfl, he⟩ := hnext hseq (by simp [hasRead, hstage]) hlt
    refine Queued.next hj le_rfl (fun seq hseq => ?_) (.inl rfl) he
    rw [hsent, List.mem_range'_1] at hseq
    omega
  | live =>
    obtain ⟨k, hsent, hlast, hqueued⟩ := (inOrder_live hstage).1 h
    have hhorizon : c.horizon = c.lastSeq := by simp [horizon, hstage]
    refine (inOrder_live (c := c.push p) hstage).2 ⟨k, hsent, hlast,
      hqueued.push fun seq hseq hlt j hj => ?_⟩
    obtain ⟨e, rfl, he⟩ := hnext hseq (by simp [hasRead, hstage]) hlt
    refine Queued.next hj (by omega) (fun seq hseq => ?_) ?_ he
    · rw [hsent, List.mem_range'_1] at hseq
      omega
    · rw [hsent, List.mem_range'_1]
      omega
  | returned =>
    exact (inOrder_returned (c := c.push p) hstage).2 ((inOrder_returned hstage).1 h)

theorem InOrder.offer {sessionID : UUID} (h : c.InOrder n)
    (hn : ∀ seq, p.seq = some seq → c.sessionID = sessionID → seq ≤ n)
    (hp : ∀ e, p = .event e → c.registered ∧ c.sessionID = sessionID ∧ c.hasRead →
      c.horizon < e.seq → c.Awaits e ∧ c.chan.length < chanCapacity) :
    (c.offer sessionID p).InOrder n := by
  unfold Conn.offer
  split
  · next hoffer =>
    obtain ⟨hregistered, hsession, -⟩ := hoffer
    refine h.push (fun seq hseq => hn seq hseq hsession) fun e he hread hlt => ?_
    exact (hp e he ⟨hregistered, hsession, hread⟩ hlt).1
  · exact h

lemma InOrder.close {sessionID : UUID} (h : c.InOrder n) : (c.close sessionID).InOrder n := by
  unfold Conn.close
  split <;> exact h

lemma Gapless.exit (h : c.Gapless) : c.exit.InOrder n := h

lemma toEventDTO_seq {dto : EventDTO} (h : toEventDTO opener e = .ok dto) : dto.seq = e.seq := by
  unfold toEventDTO at h
  split at h
  · rw [← Except.ok.inj h]
  · cases hopen : opener e with
    | error text =>
      rw [hopen] at h
      nomatch h
    | ok plaintext =>
      rw [hopen] at h
      rw [← Except.ok.inj h]

lemma InOrder.write {k : ℕ} {next : Conn P → Conn P} (hsent : c.sent = List.range' 1 k)
    (he : e.seq = k + 1) (hnext : ∀ dto, (c.send (.event dto)).sent = List.range' 1 (k + 1) →
      (next (c.send (.event dto))).InOrder n) : (c.write opener e next).InOrder n := by
  unfold Conn.write
  split
  · -- an error frame is no event
    apply Gapless.exit
    exact ⟨k, by simpa [Frame.seq] using hsent⟩
  next dto hdto =>
  have hsent' : (c.send (.event dto)).sent = List.range' 1 (k + 1) := by
    rw [sent_send, hsent, List.range'_concat]
    simp [Frame.seq, toEventDTO_seq hdto, he, Nat.add_comm]
  split
  · exact Gapless.exit ⟨k + 1, hsent'⟩
  · exact hnext dto hsent'

/-- The live loop with an item that it has taken from its channel. -/
lemma InOrder.receive {k j : ℕ} (hstage : c.stage = .live) (hsent : c.sent = List.range' 1 k)
    (hlast : c.lastSeq ≤ k)
    (hqueued : (p.seq.toList ++ c.waiting).filter (fun seq => c.horizon < seq) =
      List.range' (k + 1) j) : (c.receive opener p).InOrder n := by
  have hhorizon : c.horizon = c.lastSeq := by simp [horizon, hstage]
  cases p with
  | delta d =>
    refine (inOrder_live (c := c.send (.delta d)) hstage).2 ⟨k, ?_, hlast, j, hqueued⟩
    simpa [Frame.seq] using hsent
  | err text =>
    apply Gapless.exit
    exact ⟨k, by simpa [Frame.seq] using hsent⟩
  | event e =>
    simp only [Published.seq, Option.toList_some, List.singleton_append] at hqueued
    change InOrder n (if e.seq ≤ c.lastSeq then c else c.write opener e id)
    split
    · next hold =>
      -- an event of the history
      rw [List.filter_cons_of_neg (by simp [hhorizon, hold])] at hqueued
      exact (inOrder_live hstage).2 ⟨k, hsent, hlast, j, hqueued⟩
    · next hnew =>
      rw [List.filter_cons_of_pos (by simp [hhorizon, Nat.lt_of_not_le hnew])] at hqueued
      cases j with
      | zero => nomatch hqueued
      | succ j =>
        rw [List.range'_succ, List.cons.injEq] at hqueued
        refine InOrder.write hsent hqueued.1 fun dto hsent' => ?_
        refine (inOrder_live (c := c.send (.event dto)) hstage).2
          ⟨k + 1, hsent', Nat.le_succ_of_le hlast, j, hqueued.2⟩

lemma InOrder.advance {c' : Conn P} (h : c.InOrder n) (hc : c.advance opener = some c') :
    c'.InOrder n := by
  unfold Conn.advance at hc
  split at hc
  · next hstage =>
    cases hc
    obtain ⟨k, hsent, hlast, -, hqueued⟩ := (inOrder_replaying hstage).1 h
    have hhorizon : c.horizon = k := by simp [horizon, hstage, hlast]
    rw [Queued, hhorizon] at hqueued
    refine (inOrder_live rfl).2 ⟨k, hsent, hlast.le, ?_⟩
    rw [hlast]
    exact hqueued
  · next e rest hstage =>
    cases hc
    obtain ⟨k, hsent, hlast, hrest, hqueued⟩ := (inOrder_replaying hstage).1 h
    rw [List.map_cons, List.length_cons, List.range'_succ, List.cons.injEq] at hrest
    refine InOrder.write hsent hrest.1 fun dto hsent' => ?_
    refine (inOrder_replaying rfl).2 ⟨k + 1, hsent', hrest.1, hrest.2, ?_⟩
    -- the history that was read is the same
    have hhorizon : c.horizon = e.seq + rest.length := by
      simp only [horizon, hstage, hlast, hrest.1, List.length_cons]
      omega
    rw [Queued, hhorizon] at hqueued
    exact hqueued
  · next hstage =>
    obtain ⟨k, hsent, hlast, j, hqueued⟩ := (inOrder_live hstage).1 h
    split at hc
    · next p chan hchan =>
      cases hc
      refine InOrder.receive hstage hsent hlast (j := j) ?_
      have hwaiting : c.waiting = p.seq.toList ++ chan.filterMap Published.seq := by
        rw [waiting, hchan]
        cases hseq : p.seq <;> simp [hseq]
      rw [← hqueued, hwaiting]
      rfl
    · split at hc
      · cases hc
        exact h.gapless.exit
      · nomatch hc
  · nomatch hc
  · nomatch hc

lemma InOrder.afterRead {log : Log P} {error : Option String}
    (hlog : (log.session c.sessionID).map Event.seq =
      List.range' 1 (log.session c.sessionID).length)
    (h : c.InOrder (log.session c.sessionID).length) (hstage : c.stage = .subscribed) :
    (c.afterRead log error).InOrder (log.session c.sessionID).length := by
  obtain ⟨hsent, hlast, hwaiting⟩ := (inOrder_subscribed hstage).1 h
  cases error with
  | some text =>
    apply Gapless.exit
    exact ⟨0, by simpa [Frame.seq] using hsent⟩
  | none =>
    refine (inOrder_replaying rfl).2 ⟨0, hsent, hlast, hlog, 0, ?_⟩
    rw [List.range'_zero, List.filter_eq_nil_iff]
    intro seq hseq
    have hle := hwaiting seq hseq
    simp only [Conn.afterRead, horizon, hlast, decide_eq_true_eq]
    omega

end Conn

/-! ### The result -/

def Numbered (log : Log P) : Prop := ∀ sessionID,
  (log.session sessionID).map Event.seq = List.range' 1 (log.session sessionID).length

lemma foldr_max_range' (n : ℕ) : (List.range' 1 n).foldr max 0 = n := by
  refine Nat.le_antisymm (List.max_le_of_forall_le _ n fun seq hseq => ?_) ?_
  · have := List.mem_range'_1.1 hseq
    omega
  · rcases Nat.eq_zero_or_pos n with rfl | hn
    · exact Nat.zero_le _
    · exact List.le_max_of_le (List.mem_range'_1.2 (by omega)) le_rfl

variable {c : Conn P} {e : Event P} {log : Log P} {s : Server P}

lemma session_append {log' : Log P} (h : log.append e = some log') (sessionID : UUID) :
    log'.session sessionID = log.session sessionID ++
      if e.sessionID = sessionID then [{ e with seq := log.nextSeq e.sessionID }] else [] := by
  obtain ⟨-, hevents⟩ := Log.append_eq_some h
  simp only [Log.session, hevents, List.filter_append, List.filter_cons, List.filter_nil,
    decide_eq_true_eq]

lemma Numbered.append {log' : Log P} (h : Numbered log) (happend : log.append e = some log') :
    Numbered log' := by
  intro sessionID
  rw [session_append happend]
  split
  · next hsession =>
    rw [List.map_append, h sessionID, List.length_append, List.length_singleton,
      List.range'_concat, Log.nextSeq, hsession, h sessionID, foldr_max_range']
    simp [Nat.add_comm]
  · simpa using h sessionID

lemma Numbered.seq_le (h : Numbered log) (he : e ∈ log.events) :
    e.seq ≤ (log.session e.sessionID).length := by
  have hmem : e.seq ∈ (log.session e.sessionID).map Event.seq :=
    List.mem_map_of_mem (List.mem_filter.2 ⟨he, decide_eq_true rfl⟩)
  rw [h e.sessionID] at hmem
  have := List.mem_range'_1.1 hmem
  omega

structure InOrder (s : Server P) : Prop where
  numbered : Numbered s.log
  conns : ∀ c ∈ s.conns, c.InOrder (s.log.session c.sessionID).length

@[simp] theorem Conn.offer_sessionID (sessionID : UUID) (p : Published P) (c : Conn P) :
    (c.offer sessionID p).sessionID = c.sessionID := by
  unfold Conn.offer
  split <;> rfl

@[simp] theorem Conn.close_sessionID (sessionID : UUID) (c : Conn P) :
    (c.close sessionID).sessionID = c.sessionID := by
  unfold Conn.close
  split <;> rfl

lemma InOrder.set {i : ℕ} {c' : Conn P} (h : InOrder s) (hi : s.conns[i]? = some c)
    (hsession : c'.sessionID = c.sessionID) (hc' : c'.InOrder (s.log.session c.sessionID).length) :
    InOrder { s with conns := s.conns.set i c' } := by
  obtain ⟨before, after, hconns, -, -, hset⟩ := List.exists_split hi
  have hall := h.conns
  rw [hconns, List.forall_mem_split] at hall
  refine ⟨h.numbered, ?_⟩
  simp only [hset]
  refine List.forall_mem_split.2 ⟨?_, hall.2⟩
  rw [hsession]
  exact hc'

lemma Conn.write_sessionID {opener : Event P → Except String String} {next : Conn P → Conn P}
    (hnext : ∀ c, (next c).sessionID = c.sessionID) :
    (c.write opener e next).sessionID = c.sessionID := by
  unfold Conn.write
  split
  · rfl
  split
  · rfl
  · exact hnext _

lemma Conn.advance_sessionID {c' : Conn P} {opener : Event P → Except String String}
    (h : c.advance opener = some c') : c'.sessionID = c.sessionID := by
  unfold Conn.advance at h
  split at h
  · cases h
    rfl
  · cases h
    exact write_sessionID fun _ => rfl
  · split at h
    · next p chan _ =>
      cases h
      cases p with
      | delta | err => rfl
      | event e =>
        change Conn.sessionID (if e.seq ≤ c.lastSeq then _ else _) = _
        split
        · rfl
        · exact write_sessionID fun _ => rfl
    · split at h
      · cases h
        rfl
      · nomatch h
  · nomatch h
  · nomatch h

theorem InOrder.offer {sessionID : UUID} {p : Published P} (h : InOrder s)
    (hp : ∀ e, p = .event e → e ∈ s.log.events ∧ e.sessionID = sessionID ∧
      Orderly s (.relayEvent e)) :
    InOrder { s with conns := s.conns.map (Conn.offer sessionID p) } := by
  refine ⟨h.numbered, List.forall_mem_map.2 fun c hc => ?_⟩
  rw [Conn.offer_sessionID]
  refine (h.conns c hc).offer ?_ ?_
  · intro seq hseq hsession
    cases p with
    | event e =>
      obtain ⟨he, rfl, -⟩ := hp e rfl
      rw [hsession, ← Option.some.inj hseq]
      exact h.numbered.seq_le he
    | err | delta => nomatch hseq
  · intro e he hc'
    obtain ⟨-, rfl, horderly⟩ := hp e he
    exact horderly c hc hc'

theorem step_orderly [DecidableEq P] {s' : Server P} {a : Action P} (h : InOrder s)
    (horderly : Orderly s a) (hst : server.step s a = some s') : InOrder s' := by
  cases a with
  | append e =>
    obtain ⟨log, happend, rfl⟩ := Option.map_eq_some_iff.1 hst
    refine ⟨h.numbered.append happend, fun c hc => (h.conns c hc).mono ?_⟩
    rw [session_append happend, List.length_append]
    exact Nat.le_add_right _ _
  | relayEvent e =>
    obtain ⟨he, hst⟩ := Option.ite_none_right_eq_some.1 hst
    cases hst
    have hoffered : InOrder { s with
        conns := s.conns.map (Conn.offer e.sessionID (.event e)) } := by
      apply h.offer
      rintro _ ⟨⟩
      exact ⟨he, rfl, horderly⟩
    unfold relayEvent
    split
    · refine ⟨h.numbered, List.forall_mem_map.2 fun c hc => ?_⟩
      rw [Conn.close_sessionID]
      exact (hoffered.conns c hc).close
    · exact hoffered
  | relayError | relayDelta =>
    cases hst
    exact h.offer fun _ he => nomatch he
  | connect sessionID =>
    cases hst
    refine ⟨h.numbered, List.forall_mem_snoc h.conns ?_⟩
    exact (Conn.inOrder_subscribed rfl).2 ⟨rfl, rfl, nofun⟩
  | readHistory i error =>
    obtain ⟨c, hi, hst⟩ := Option.bind_eq_some_iff.1 hst
    split at hst
    · next hstage =>
      cases hst
      refine h.set hi ?_ ?_
      · cases error <;> rfl
      · exact (h.conns c (List.mem_of_getElem? hi)).afterRead (h.numbered _) hstage
    · nomatch hst
  | advance i opener =>
    obtain ⟨c, c', hi, hc', rfl⟩ := Option.bind_map_some hst
    exact h.set hi (Conn.advance_sessionID hc') ((h.conns c (List.mem_of_getElem? hi)).advance hc')
  | disconnect i =>
    obtain ⟨c, hi, rfl⟩ := Option.map_eq_some_iff.1 hst
    exact h.set hi rfl (h.conns c (List.mem_of_getElem? hi)).gapless.exit

/-- In every run whose publishing is orderly, the events that are sent on a connection have
consecutive sequence numbers, from the first one. -/
theorem frames_consecutive [DecidableEq P] {s : Server P} (h : server.ReachesBy Orderly {} s) :
    ∀ c ∈ s.conns, c.Gapless := by
  have hinv : InOrder s := by
    refine h.invariant (I := InOrder) ⟨fun _ => rfl, nofun⟩ ?_
    intro s a s' hI horderly hst
    exact step_orderly hI horderly hst
  intro c hc
  exact (hinv.conns c hc).gapless

def contentEvent (n : ℕ) : Event Unit where
  eventID := n
  sessionID := 1
  seq := n
  type := .content
  actor := .model
  payload := ()

/-- A client that connects before the first event, and reads as they come. -/
theorem promptClient_consecutive : ∃ s : Server Unit, server.ReachesBy Orderly {} s ∧
    s.conns.map Conn.sent = [[1, 2]] ∧ ∀ c ∈ s.conns, c.Gapless := by
  refine Machine.ReachesBy.exists_of_runBy_imp
    [.append (contentEvent 1), .connect 1, .readHistory 0 none, .append (contentEvent 2),
      .relayEvent (contentEvent 1), .relayEvent (contentEvent 2), .advance 0 fun _ => .ok "",
      .advance 0 fun _ => .ok "", .advance 0 fun _ => .ok "", .advance 0 fun _ => .ok ""]
    (fun s => s.conns.map Conn.sent = [[1, 2]]) ?_ fun s hreach hs =>
      ⟨hs, frames_consecutive hreach⟩
  decide +kernel

/-- A client that connects before the first event and does not read until 65 were published, each
after it was appended and in order. -/
def slowClient : List (Action Unit) :=
  [.connect 1, .readHistory 0 none, .advance 0 fun _ => .ok ""] ++
  (List.range' 1 65).flatMap (fun n => [.append (contentEvent n), .relayEvent (contentEvent n)]) ++
  [.advance 0 fun _ => .ok "", .append (contentEvent 66), .relayEvent (contentEvent 66)] ++
  List.replicate 64 (.advance 0 fun _ => .ok "")

theorem slowClient_skips : ∃ s, server.run {} slowClient = some s ∧
    ∃ c ∈ s.conns, c.sent = List.range' 1 64 ++ [66] ∧ ¬ c.Gapless := by
  obtain ⟨s, hrun, hs⟩ : ∃ s, server.run {} slowClient = some s ∧
      s.conns.map Conn.sent = [List.range' 1 64 ++ [66]] :=
    Machine.exists_run (by decide +kernel)
  obtain ⟨c, hconns, hsent⟩ := List.map_eq_singleton_iff.1 hs
  refine ⟨s, hrun, c, by rw [hconns]; exact List.mem_singleton_self c, hsent, ?_⟩
  rintro ⟨k, hk⟩
  rw [hsent] at hk
  obtain rfl : 65 = k := by simpa using congrArg List.length hk
  exact absurd hk (by decide)

end

end NexusAgent.Rest
