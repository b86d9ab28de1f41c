import NexusAgent.EventLog.Event
import NexusAgent.Lib.Machine

/-!
# Scheduled runs

The scheduler surface (`internal/surfaces/cron/scheduler.go`, `postgres/schedules.go`). A process
polls a tenant's schedules for the rows that are due, and then fires them one after another: in one
transaction a session is created and the schedule is moved to its next run. What a row is due for
is its tick, the time that `next_run_at` holds when it is read, or its first run if it holds none.

`Due` and `Fire` are two transactions, and `Fire` writes the row without looking at it again. Its
next run is counted from the clock of the process, while `Due` compares with that of the database.
-/

namespace NexusAgent.Cron

/-- A time, in microseconds from the epoch. -/
abbrev Time := ℤ

/-- The zero time of the source language. -/
def zeroTime : Time := -62135596800000000

/-- `robfig/cron`: an expression is parsed to the function that says when it is next activated.
There is no such time for a day that no calendar has. -/
structure CronParser where
  parseStandard : String → Except String (Time → Option Time)
  later : ∀ {expr : String} {next : Time → Option Time} {t u : Time},
    parseStandard expr = .ok next → next t = some u → t < u

/-- `Schedule`: what the scheduler reads of a row. -/
structure Schedule where
  id : UUID
  userID : UUID
  cronExpr : String
  input : String
  autonomyLevel : String

structure Row where
  tenantID : UUID
  schedule : Schedule
  enabled : Bool := true
  lastRunAt : Option Time := none
  nextRunAt : Option Time := none

/-- `Firing`: the session that is to be created for a schedule, and the times that move it. -/
structure Firing where
  tenantID : UUID
  schedule : Schedule
  sessionID : UUID
  autonomy : String
  ranAt : Time
  nextRunAt : Time

/-- A session that was created for a tick. -/
structure Session where
  sessionID : UUID
  tenantID : UUID
  userID : UUID
  autonomyLevel : String
  scheduleID : UUID
  /-- What the schedule was due for when it was read. -/
  tick : Option Time

/-- A schedule that a process has read as due and not come to yet. -/
structure Pending where
  tenantID : UUID
  schedule : Schedule
  /-- What its row was due for. The process itself does not keep it. -/
  tick : Option Time

/-! ### The store -/

/-- The test of `Due`, at the clock of the database. -/
def Row.isDue (now : Time) (tenantID : UUID) (r : Row) : Bool :=
  r.tenantID = tenantID ∧ r.enabled ∧ r.nextRunAt.all (· ≤ now)

def due (now : Time) (tenantID : UUID) (rows : List Row) : List Pending :=
  (rows.filter (·.isDue now tenantID)).map fun r => ⟨r.tenantID, r.schedule, r.nextRunAt⟩

def disable (scheduleID : UUID) (rows : List Row) : List Row :=
  rows.map fun r => if r.schedule.id = scheduleID then { r with enabled := false } else r

/-- The update of `Fire`. -/
def advance (f : Firing) (rows : List Row) : List Row :=
  rows.map fun r =>
    if r.schedule.id = f.schedule.id then
      { r with lastRunAt := some f.ranAt, nextRunAt := some f.nextRunAt }
    else r

lemma mem_disable {scheduleID : UUID} {rows : List Row} {r' : Row}
    (h : r' ∈ disable scheduleID rows) :
    ∃ r ∈ rows, r'.schedule = r.schedule ∧ r'.nextRunAt = r.nextRunAt := by
  obtain ⟨r, hr, rfl⟩ := List.mem_map.1 h
  refine ⟨r, hr, ?_⟩
  split <;> exact ⟨rfl, rfl⟩

lemma mem_advance {f : Firing} {rows : List Row} {r' : Row} (h : r' ∈ advance f rows) :
    ∃ r ∈ rows, r'.schedule = r.schedule ∧
      r'.nextRunAt = if r.schedule.id = f.schedule.id then some f.nextRunAt else r.nextRunAt := by
  obtain ⟨r, hr, rfl⟩ := List.mem_map.1 h
  refine ⟨r, hr, ?_⟩
  split <;> exact ⟨rfl, rfl⟩

/-- What the scheduler decides about a schedule that is due. -/
def firing (p : Pending) (next : Time → Option Time) (clock : Time) (sessionID : UUID) :
    Firing where
  tenantID := p.tenantID
  schedule := p.schedule
  sessionID
  autonomy := if p.schedule.autonomyLevel = "" then "supervised" else p.schedule.autonomyLevel
  ranAt := clock
  nextRunAt := (next clock).getD zeroTime

def Firing.session (f : Firing) (tick : Option Time) : Session where
  sessionID := f.sessionID
  tenantID := f.tenantID
  userID := f.schedule.userID
  autonomyLevel := f.autonomy
  scheduleID := f.schedule.id
  tick

/-! ### Any number of processes -/

/-- The database and the processes that poll it. -/
structure System where
  /-- The clock of the database. -/
  now : Time
  rows : List Row
  /-- What each process has left of its last poll. -/
  processes : ℕ → List Pending := fun _ => []
  /-- The sessions that have been created for schedules. -/
  sessions : List Session := []

inductive Action
  | wait (d : ℕ)
  /-- A process reads the due schedules of a tenant. -/
  | due (i : ℕ) (tenantID : UUID)
  /-- A process comes to the first schedule it has left, at its own clock; `committed` says whether
  the transaction it makes is. -/
  | fire (i : ℕ) (clock : Time) (sessionID : UUID) (committed : Bool)
  | stop (i : ℕ)

/-- `fire`: a schedule whose expression does not parse is disabled. -/
def System.fire (lib : CronParser) (s : System) (p : Pending) (clock : Time) (sessionID : UUID) :
    System :=
  match lib.parseStandard p.schedule.cronExpr with
  | .error _ => { s with rows := disable p.schedule.id s.rows }
  | .ok next =>
    let f := firing p next clock sessionID
    { s with rows := advance f s.rows, sessions := s.sessions ++ [f.session p.tick] }

/-- Any number of schedulers on one database, under every interleaving. -/
def schedulers (lib : CronParser) : Machine System Action where
  step s
    | .wait d => some { s with now := s.now + d }
    | .due i tenantID =>
      if s.processes i = [] then
        some { s with processes := Function.update s.processes i (Cron.due s.now tenantID s.rows) }
      else none
    | .fire i clock sessionID committed =>
      match s.processes i with
      | [] => none
      | p :: rest =>
        let s' := { s with processes := Function.update s.processes i rest }
        some (if committed then s'.fire lib p clock sessionID else s')
    | .stop i => some { s with processes := Function.update s.processes i [] }

def AtMostOnce (s : System) : Prop :=
  (s.sessions.map fun x => (x.scheduleID, x.tick)).Nodup

instance (s : System) : Decidable (AtMostOnce s) := inferInstanceAs (Decidable (List.Nodup _))

/-- A schedule is fired while it still has the tick that the process has read, at a clock that has
reached the tick, and its expression has a time after that. Nothing is asked of a schedule that is
disabled. -/
def Timely (lib : CronParser) (s : System) : Action → Prop
  | .fire i clock _ true => ∀ p ∈ (s.processes i).head?,
    ∀ next ∈ (lib.parseStandard p.schedule.cronExpr).toOption,
      (∀ r ∈ s.rows, r.schedule.id = p.schedule.id → r.nextRunAt = p.tick) ∧
        (∀ t ∈ p.tick, t ≤ clock) ∧ (next clock).isSome
  | _ => True

/-! ### Each firing moves its schedule on -/

/-- `b` is a time, and later than `a` if `a` is one. -/
def Before (a b : Option Time) : Prop := ∃ u, b = some u ∧ ∀ t ∈ a, t < u

lemma Before.ne {a b : Option Time} (h : Before a b) : a ≠ b := by
  obtain ⟨u, rfl, hlt⟩ := h
  rintro rfl
  exact Int.lt_irrefl u (hlt u rfl)

/-- A firing at a clock that has reached the tick sets a later one. -/
lemma before_firing {lib : CronParser} {p : Pending} {next : Time → Option Time} {clock : Time}
    (hparse : lib.parseStandard p.schedule.cronExpr = .ok next) (hsome : (next clock).isSome)
    (sessionID : UUID) {a : Option Time} (ha : ∀ t ∈ a, t ≤ clock) :
    Before a (some (firing p next clock sessionID).nextRunAt) := by
  obtain ⟨u, hu⟩ := Option.isSome_iff_exists.1 hsome
  refine ⟨u, by simp [firing, hu], fun t ht => ?_⟩
  exact Int.lt_of_le_of_lt (ha t ht) (lib.later hparse hu)

structure Ordered (s : System) : Prop where
  before : ∀ r ∈ s.rows, ∀ x ∈ s.sessions, x.scheduleID = r.schedule.id →
    Before x.tick r.nextRunAt
  exist : ∀ i, ∀ p ∈ s.processes i, ∃ r ∈ s.rows, r.schedule.id = p.schedule.id
  once : AtMostOnce s

namespace Ordered

variable {lib : CronParser} {s : System}

lemma initial (now : Time) (rows : List Row) : Ordered { now, rows } where
  before _ _ _ hx := nomatch hx
  exist _ _ hp := nomatch hp
  once := List.nodup_nil

variable (h : Ordered s)
include h

/-- A process drops some of what it has left, or has read rows anew. -/
lemma poll (i : ℕ) {ps : List Pending}
    (hps : ∀ p ∈ ps, ∃ r ∈ s.rows, r.schedule.id = p.schedule.id) :
    Ordered { s with processes := Function.update s.processes i ps } where
  before := h.before
  exist j p hp := by
    by_cases hj : j = i
    · subst hj
      exact hps p (by simpa using hp)
    · exact h.exist j p (by simpa [hj] using hp)
  once := h.once

lemma disable (scheduleID : UUID) :
    Ordered { s with rows := Cron.disable scheduleID s.rows } where
  before r hr x hx hid := by
    obtain ⟨r₀, hr₀, hschedule, hnext⟩ := mem_disable hr
    rw [hschedule] at hid
    exact hnext ▸ h.before r₀ hr₀ x hx hid
  exist i p hp := by
    obtain ⟨r, hr, hid⟩ := h.exist i p hp
    refine ⟨_, List.mem_map_of_mem hr, ?_⟩
    split <;> exact hid
  once := h.once

/-- The step of the argument: the tick that is fired has no session yet, since those that have one
are before it, and the next tick is after it. -/
lemma advance {p : Pending} {next : Time → Option Time} {clock : Time}
    (sessionID : UUID) (hparse : lib.parseStandard p.schedule.cronExpr = .ok next)
    (hexist : ∃ r ∈ s.rows, r.schedule.id = p.schedule.id)
    (htick : ∀ r ∈ s.rows, r.schedule.id = p.schedule.id → r.nextRunAt = p.tick)
    (hclock : ∀ t ∈ p.tick, t ≤ clock) (hsome : (next clock).isSome) :
    Ordered { s with
      rows := Cron.advance (firing p next clock sessionID) s.rows
      sessions := s.sessions ++ [(firing p next clock sessionID).session p.tick] } := by
  have hold (x : Session) (hx : x ∈ s.sessions) (hid : x.scheduleID = p.schedule.id) :
      Before x.tick p.tick := by
    obtain ⟨r, hr, hr'⟩ := hexist
    exact htick r hr hr' ▸ h.before r hr x hx (hid.trans hr'.symm)
  have hnext {a : Option Time} := before_firing hparse hsome sessionID (a := a)
  refine ⟨fun r' hr' x hx hid => ?_, fun i q hq => ?_, ?_⟩
  · obtain ⟨r, hr, hschedule, hnextRunAt⟩ := mem_advance hr'
    rw [hschedule] at hid
    rw [hnextRunAt]
    obtain hx | hx := List.mem_append.1 hx
    · split
      next hmoved =>
        -- an older tick is before the one that is fired
        obtain ⟨u, hu, hlt⟩ := hold x hx (hid.trans hmoved)
        exact hnext fun t ht => Int.le_of_lt (Int.lt_of_lt_of_le (hlt t ht) (hclock u hu))
      next => exact h.before r hr x hx hid
    · rw [List.mem_singleton.1 hx] at hid ⊢
      split
      next => exact hnext hclock
      next hother => exact absurd hid.symm hother
  · obtain ⟨r, hr, hid⟩ := h.exist i q hq
    refine ⟨_, List.mem_map_of_mem hr, ?_⟩
    split <;> exact hid
  · show (List.map _ (s.sessions ++ _)).Nodup
    rw [List.map_append]
    refine List.Nodup.append h.once (List.nodup_singleton _) ?_
    rw [List.map_singleton, List.disjoint_singleton]
    intro hmem
    obtain ⟨x, hx, heq⟩ := List.mem_map.1 hmem
    obtain ⟨hid, htick⟩ := Prod.mk.inj heq
    exact (hold x hx hid).ne htick

lemma fire {p : Pending} {clock : Time} (sessionID : UUID)
    (hexist : ∃ r ∈ s.rows, r.schedule.id = p.schedule.id)
    (htimely : ∀ next ∈ (lib.parseStandard p.schedule.cronExpr).toOption,
      (∀ r ∈ s.rows, r.schedule.id = p.schedule.id → r.nextRunAt = p.tick) ∧
        (∀ t ∈ p.tick, t ≤ clock) ∧ (next clock).isSome) :
    Ordered (s.fire lib p clock sessionID) := by
  unfold System.fire
  split
  next => exact h.disable p.schedule.id
  next next hparse =>
    obtain ⟨htick, hclock, hsome⟩ := htimely next (by rw [hparse]; rfl)
    exact h.advance sessionID hparse hexist htick hclock hsome

lemma step {s' : System} {a : Action} (ha : Timely lib s a)
    (hst : (schedulers lib).step s a = some s') : Ordered s' := by
  cases a with
  | wait d =>
    cases hst
    exact ⟨h.before, h.exist, h.once⟩
  | due i tenantID =>
    obtain ⟨-, hst⟩ := Option.ite_none_right_eq_some.1 hst
    cases hst
    refine h.poll i fun p hp => ?_
    obtain ⟨r, hr, rfl⟩ := List.mem_map.1 hp
    exact ⟨r, List.mem_of_mem_filter hr, rfl⟩
  | fire i clock sessionID committed =>
    simp only [schedulers] at hst
    split at hst
    · nomatch hst
    next p rest hp =>
    cases hst
    have hexist := h.exist i
    rw [hp] at hexist
    have hrest := h.poll i fun q hq => hexist q (List.mem_cons_of_mem p hq)
    split
    next hcommitted =>
      rw [hcommitted] at ha
      exact hrest.fire sessionID (hexist p List.mem_cons_self) (ha p (by rw [hp]; rfl))
    next => exact hrest
  | stop i =>
    cases hst
    exact h.poll i fun p hp => nomatch hp

end Ordered

/-- For every number of schedulers and every interleaving of their polls and firings: as long as
each firing is timely, every tick of a schedule has at most one session. -/
theorem ticks_atMostOnce {lib : CronParser} {now : Time} {rows : List Row} {s : System}
    (h : (schedulers lib).ReachesBy (Timely lib) { now, rows } s) : AtMostOnce s :=
  (h.invariant (Ordered.initial now rows) fun _ _ _ hs ha => hs.step ha).once

/-! ### Runs -/

/-- A parser that knows one expression, for every full minute. -/
def everyMinute : CronParser where
  parseStandard expr :=
    if expr = "* * * * *" then .ok fun t => some ((t / 60000000 + 1) * 60000000)
    else .error "unknown expression"
  later {expr next t u} hparse hnext := by
    split at hparse
    · obtain rfl := Except.ok.inj hparse
      cases hnext
      exact Int.lt_ediv_add_one_mul_self t (by decide)
    · nomatch hparse

/-- A schedule that is due at the full minute 5. -/
def minutely : Row where
  tenantID := 7
  schedule := { id := 1, userID := 2, cronExpr := "* * * * *", input := "report"
                autonomyLevel := "" }
  nextRunAt := some 300000000

instance (s : System) (a : Action) : Decidable (Timely everyMinute s a) := by
  unfold Timely
  split <;> infer_instance

/-- Two processes poll one after the other, and there are two ticks with a session each. -/
theorem polls_inTurn :
    ∃ s, (schedulers everyMinute).ReachesBy (Timely everyMinute)
      { now := 300000000, rows := [minutely] } s ∧ s.sessions.length = 2 ∧ AtMostOnce s := by
  refine Machine.ReachesBy.exists_of_runBy_imp
    [.due 0 7, .fire 0 300000010 11 true, .wait 60000000, .due 1 7, .fire 1 360000005 12 true]
    (fun s => s.sessions.length = 2) ?_ fun s hreach hlength =>
      ⟨hlength, ticks_atMostOnce hreach⟩
  decide +kernel

/-- Two processes read the tick as due before either fires it, and each creates a session. -/
theorem racingPolls_fireTwice :
    ∃ s, (schedulers everyMinute).Reaches { now := 300000000, rows := [minutely] } s ∧
      ¬ AtMostOnce s := by
  apply Machine.Reaches.exists_of_run
    [.due 0 7, .due 1 7, .fire 0 300000010 11 true, .fire 1 300000020 12 true]
  decide +kernel

/-- A single process whose clock is behind that of the database sets the tick that it fires once
more. -/
example : ∃ s, (schedulers everyMinute).Reaches { now := 300000000, rows := [minutely] } s ∧
      ¬ AtMostOnce s := by
  apply Machine.Reaches.exists_of_run
    [.due 0 7, .fire 0 299999990 11 true, .due 0 7, .fire 0 300000005 12 true]
  decide +kernel

end NexusAgent.Cron
