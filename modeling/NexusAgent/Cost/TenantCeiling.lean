import NexusAgent.Cost.Reconcile
import NexusAgent.Lib.Lists
import NexusAgent.Lib.Machine

/-!
# The tenant ceiling

Any number of processes reserve against one tenant budget in one epoch, arm its counter and
reconcile what they reserved. A call is a sequence of steps: reading the sum of the cost
records, arming the counter, reserving at it, recording the decision, giving the amount back
when that fails, recording the usage and releasing what was not used. Calls interleave at
these steps, and a counter call may fail before or after the script has run.

A reservation is outstanding from the script that takes it out of the counter until the
script that gives it back, whatever its caller has been told in between; it is charged when
the release of its reconciliation has run.

- `Inv.step`: the counter is the armed baseline with the outstanding and the charged amounts.
-/

namespace NexusAgent.Cost.Tenant

/-! ### One call -/

/-- What happens to a call of the counters. Its script runs at most once: that the client sends it
again by itself is left out. -/
inductive Reply
  /-- The script runs and its answer arrives. -/
  | answered
  /-- The script runs, but the caller sees an error. -/
  | lost
  /-- The script does not run. -/
  | unsent
  deriving DecidableEq

/-- What a call has taken out of the counter. -/
inductive Account
  | untouched
  | outstanding (amount : ℤ)
  | charged (amount actual : ℤ)
  /-- The amount was reserved and has been given back. -/
  | returned (amount : ℤ)
  deriving DecidableEq

namespace Account

/-- What an account adds to the outstanding reservations. -/
def reserved : Account → ℤ
  | outstanding amount => amount
  | _ => 0

/-- What an account adds to the charged actuals. -/
def actual : Account → ℤ
  | charged _ actual => actual
  | _ => 0

/-- A charge is at most its reservation. -/
def WithinReservation : Account → Prop
  | charged amount actual => actual ≤ amount
  | _ => True

instance (a : Account) : Decidable a.WithinReservation := by
  cases a <;> unfold WithinReservation <;> infer_instance

end Account

/-- Where a call stands. -/
inductive Stage
  /-- About to sum the cost records, to arm the counter. -/
  | summing
  | arming (baseline : Int64)
  | reserving
  | recording
  /-- About to give the amount back. -/
  | rollingBack
  | held (id : UUID)
  /-- About to release what was not used. -/
  | settling (actual delta : Int64)
  /-- Nothing more is done at the counter. -/
  | ended
  deriving DecidableEq

/-- A reservation of some process. -/
structure Call where
  cfg : GateConfig
  job : Job
  stage : Stage
  account : Account

/-- The next step of a call, with what its surroundings answer. -/
inductive Move
  | sum (answer : Except String Int64)
  | arm (reply : Reply)
  | reserve (reply : Reply)
  | record (id : UUID) (recorded : Bool)
  | rollBack (reply : Reply)
  | reconcile (g : Gate) (answer : Except String PriceBook) (now : ℤ) (usage : Usage)
      (reported recorded : Bool)
  | release (reply : Reply)

/-- Whether the script of a release has subtracted its amount. -/
def subtracted : Except String ℤ → Bool
  | .ok n => n == 1
  | .error _ => false

/-- The store after a release, and whether the amount was subtracted. -/
def giveBack (b : Budget) (r : Redis) (delta : Int64) (reply : Reply) : Redis × Bool :=
  if reply = .unsent then (r, false)
  else
    let (answer, r') := r.luaRelease b.id b.epoch delta
    (r', subtracted answer)

/-- What a reservation takes, for the counter's answer. -/
def taken (amount : Int64) : Except String (ReserveOutcome × Int64) → Account
  | .ok (.ok, _) => .outstanding amount.toInt
  | _ => .untouched

/-- The actual charge of a reconciliation and what it releases, or `none` when it returns an
error before that. `recorded` is whether the records could be written. -/
def reconciled (g : Gate) (answer : Except String PriceBook) (now : ℤ) (res : Reservation)
    (usage : Usage) (reported recorded : Bool) : Option (Int64 × Int64) :=
  match g.price answer now res usage reported with
  | (.error _, _) => none
  | (.ok (records, actual), g') =>
    if !records.isEmpty && !recorded then none
    else match (g'.finishReconcile res actual).1 with
      | .ok (some delta) => some (actual.micros, delta)
      | _ => none

namespace Call

/-- A call that has moved on to another stage. -/
def goto (c : Call) (stage : Stage) : Call := { c with stage := stage }

/-- A call whose account has changed. -/
def book (c : Call) (account : Account) : Call := { c with account := account }

/-- A call that has crossed a soft threshold, or has not. -/
def soften (c : Call) (soft : Bool) : Call := { c with job := c.job.soften soft }

/-- A call that enters the tenant part of `Reserve`. -/
def start (g : Gate) (b : Budget) (job : Job) : Call where
  cfg := g.cfg
  job := job
  stage := if g.armed b.id then .reserving else .summing
  account := .untouched

/-- One step of a call. A failed release is only logged, and a reconciliation that returns
an error leaves the reservation as it is. -/
def step (b : Budget) (r : Redis) (c : Call) : Move → Option (Redis × Call)
  | .sum answer =>
    match c.stage, answer with
    | .summing, .ok baseline => some (r, c.goto (.arming baseline))
    | .summing, .error _ => some (r, c.goto .ended)
    | _, _ => none
  | .arm reply =>
    match c.stage with
    | .arming baseline =>
      let (answer, r') := r.arm b.id b.epoch baseline
      match reply, answer with
      | .unsent, _ => some (r, c.goto .ended)
      | .answered, .ok _ => some (r', c.goto .reserving)
      | _, _ => some (r', c.goto .ended)
    | _ => none
  | .reserve reply =>
    match c.stage with
    | .reserving =>
      let amount := c.job.worst.micros
      let (answer, r') := r.reserve b.id b.epoch amount b.ceiling.micros
      match reply, admitTenant c.cfg b answer with
      | .unsent, _ => some (r, c.goto .ended)
      | .answered, .ok soft =>
        some (r', ((c.soften soft).book (taken amount answer)).goto .recording)
      | _, _ => some (r', (c.book (taken amount answer)).goto .ended)
    | _ => none
  | .record id recorded =>
    match c.stage with
    | .recording => some (r, c.goto (if recorded then .held id else .rollingBack))
    | _ => none
  | .rollBack reply =>
    match c.stage with
    | .rollingBack =>
      let (r', gone) := giveBack b r c.job.worst.micros reply
      some (r', (if gone then c.book (.returned c.account.reserved) else c).goto .ended)
    | _ => none
  | .reconcile g answer now usage reported recorded =>
    match c.stage with
    | .held id =>
      match reconciled g answer now (c.job.reservation id) usage reported recorded with
      | some (actual, delta) => some (r, c.goto (.settling actual delta))
      | none => some (r, c)
    | _ => none
  | .release reply =>
    match c.stage with
    | .settling actual delta =>
      let (r', gone) := giveBack b r delta reply
      let account := Account.charged c.account.reserved actual.toInt
      some (r', (if gone then c.book account else c).goto .ended)
    | _ => none

end Call

/-! ### Every process -/

/-- The store, the calls of all processes, and what the runs so far have done. -/
structure System where
  redis : Redis
  calls : List Call
  /-- What the counter was armed with. -/
  baseline : Option ℤ
  /-- The counter right after each reservation it granted. -/
  grants : List ℤ

namespace System

def outstanding (s : System) : ℤ := (s.calls.map fun c => c.account.reserved).sum

def charged (s : System) : ℤ := (s.calls.map fun c => c.account.actual).sum

/-- A store in which the budget has not been armed, and no call. -/
def initial (r : Redis) : System := { redis := r, calls := [], baseline := none, grants := [] }

end System

/-- A step of some process. The gate of a call is the state of its process. -/
inductive Action
  | reserve (g : Gate) (a : ReserveAnswers) (req : ReserveRequest)
  | move (i : ℕ) (m : Move)

/-- The baseline of a store whose epoch has just been set is what its counter holds. -/
def baselineOf (b : Budget) (baseline : Option ℤ) (r : Redis) : Option ℤ :=
  match baseline, r.epoch b.id with
  | none, some _ => some (r.counter b.id b.epoch)
  | _, _ => baseline

/-- The totals at which reservations were granted, after a step of a call. -/
def grantsOf (b : Budget) (before after : Account) (r : Redis) : List ℤ :=
  match before, after with
  | .untouched, .outstanding _ => [r.counter b.id b.epoch]
  | _, _ => []

/-- Calls on the tenant budget `b`, under every interleaving. A call that is refused before
the counter, or is not about this budget, does nothing here. -/
def counterMachine (b : Budget) : Machine System Action where
  step s
    | .reserve g a req =>
      match (g.prepare a req).1 with
      | .proceed job =>
        if job.tenBudget = some b ∧ g.counters then
          some { s with calls := s.calls ++ [Call.start g b job] }
        else some s
      | _ => some s
    | .move i m =>
      match s.calls[i]? with
      | none => none
      | some c =>
        (c.step b s.redis m).map fun (r', c') =>
          { redis := r', calls := s.calls.set i c'
            baseline := baselineOf b s.baseline r'
            grants := s.grants ++ grantsOf b c.account c'.account r' }

/-! ### What a step does to the counter -/

/-- Where a call stands fits what it has taken: an amount that is not negative, and a release
that leaves a charge that is not negative. -/
structure Call.Ok (c : Call) : Prop where
  nonneg : 0 ≤ c.job.worst.micros.toInt
  account : match c.stage with
    | .summing | .arming _ | .reserving => c.account = .untouched
    | .recording | .rollingBack | .held _ => c.account = .outstanding c.job.worst.micros.toInt
    | .settling actual delta => c.account = .outstanding c.job.worst.micros.toInt ∧
        0 ≤ actual.toInt ∧ delta.toInt = c.job.worst.micros.toInt - actual.toInt
    | .ended => True

/-- What a step of a call does to the counter of `b` and to the account of the call. -/
inductive Effect (b : Budget) (r : Redis) (before : Account) (r' : Redis) (after : Account) :
    Prop
  | quiet (hw : r.Written b.id b.epoch (r.counter b.id b.epoch) r') (ha : after = before)
  | armed (hnone : r.epoch b.id = none) (hsome : r'.epoch b.id = some b.epoch)
      (ha : after = before)
  | taken (amount : ℤ) (hnonneg : 0 ≤ amount) (hsome : r.epoch b.id = some b.epoch)
      (hw : r.Written b.id b.epoch (r.counter b.id b.epoch + amount) r')
      (hle : Binary64.ofInt (r.counter b.id b.epoch + amount)
        ≤ Binary64.ofInt b.ceiling.micros.toInt)
      (hb : before = .untouched) (ha : after = .outstanding amount)
  | returned (amount : ℤ) (hnonneg : 0 ≤ amount)
      (hw : r.Written b.id b.epoch (r.counter b.id b.epoch - amount) r')
      (hb : before = .outstanding amount) (ha : after = .returned amount)
  | charged (amount actual : ℤ)
      (hw : r.Written b.id b.epoch (r.counter b.id b.epoch - (amount - actual)) r')
      (hb : before = .outstanding amount) (ha : after = .charged amount actual)

/-- A release subtracts its amount or leaves the counter alone. -/
lemma giveBack_cases (b : Budget) (r : Redis) (delta : Int64) (reply : Reply) :
    (r.Written b.id b.epoch (r.counter b.id b.epoch) (giveBack b r delta reply).1 ∧
      (giveBack b r delta reply).2 = false) ∨
    (r.Written b.id b.epoch (r.counter b.id b.epoch - delta.toInt)
        (giveBack b r delta reply).1 ∧ (giveBack b r delta reply).2 = true) := by
  unfold giveBack
  by_cases hunsent : reply = .unsent
  · rw [if_pos hunsent]
    exact .inl ⟨Redis.Written.refl r _ _, rfl⟩
  · rw [if_neg hunsent]
    rcases r.luaRelease_cases b.id b.epoch delta with ⟨hw, hans⟩ | ⟨hw, hans⟩
    · refine .inl ⟨hw, ?_⟩
      cases hscript : (r.luaRelease b.id b.epoch delta).1 with
      | error err => simp [subtracted, hscript]
      | ok n =>
        have hne : n ≠ 1 := fun h => hans (by rw [hscript, h])
        simp [subtracted, hscript, hne]
    · exact .inr ⟨hw, by simp [subtracted, hans]⟩

lemma reconciled_bounds {g : Gate} {answer : Except String PriceBook} {now Q : ℤ}
    {res : Reservation} {usage : Usage} {reported recorded : Bool} {actual delta : Int64}
    (h : reconciled g answer now res usage reported recorded = some (actual, delta))
    (hreserved : 0 ≤ res.decision.reserved.micros.toInt) (husage : usage.Within Q)
    (hbook : g.BookFits res.tenantID answer Q) :
    0 ≤ actual.toInt ∧ delta.toInt = res.decision.reserved.micros.toInt - actual.toInt := by
  unfold reconciled at h
  rcases hprice : g.price answer now res usage reported with ⟨err | ⟨records, charge⟩, g'⟩
  · simp [hprice] at h
  have hcharge : 0 ≤ charge.micros.toInt :=
    (Gate.price_spec (by rw [hprice]) husage fun _ => hbook.fits).1 hreserved
  simp only [hprice] at h
  split_ifs at h with hrecord
  cases hfinish : (g'.finishReconcile res charge).1 with
  | error err => simp [hfinish] at h
  | ok release =>
    cases release with
    | none => simp [hfinish] at h
    | some d =>
      simp only [hfinish, Option.some.injEq, Prod.mk.injEq] at h
      obtain ⟨rfl, rfl⟩ := h
      have hhi := Int64.toInt_lt res.decision.reserved.micros
      have hhi' := Int64.toInt_lt charge.micros
      refine ⟨hcharge, ?_⟩
      rw [Gate.finishReconcile_release hfinish]
      exact toInt_sub_of_lt (by omega) (by omega)

/-- The prices and quantities a step computes with fit the bound `Q`. -/
def Move.Fits (Q : ℤ) (tenantID : UUID) : Move → Prop
  | .reconcile g answer _ usage _ _ => usage.Within Q ∧ g.BookFits tenantID answer Q
  | _ => True

instance (Q : ℤ) (tenantID : UUID) (m : Move) : Decidable (m.Fits Q tenantID) := by
  cases m <;> unfold Move.Fits <;> infer_instance

lemma taken_of_ne {amount : Int64} {answer : Except String (ReserveOutcome × Int64)}
    (h : ∀ t, answer ≠ .ok (.ok, t)) : taken amount answer = .untouched := by
  unfold taken
  split
  · next t => exact absurd rfl (h t)
  · rfl

/-- Only a grant of the counter is admitted. -/
lemma admitTenant_ok {cfg : GateConfig} {b : Budget}
    {answer : Except String (ReserveOutcome × Int64)} {soft : Bool}
    (h : admitTenant cfg b answer = .ok soft) : ∃ t, answer = .ok (.ok, t) := by
  rcases answer with err | ⟨outcome, t⟩
  · simp [admitTenant] at h
  · cases outcome with
    | ok => exact ⟨t, rfl⟩
    | _ => simp [admitTenant] at h

/-- Arming sets the counter once. -/
lemma arm_effect (b : Budget) (r : Redis) (baseline : Int64) (account : Account) :
    Effect b r account (r.arm b.id b.epoch baseline).2 account := by
  have hstore : (r.arm b.id b.epoch baseline).2 = (r.luaArm b.id b.epoch baseline).2 := by
    unfold Redis.arm
    rcases r.luaArm b.id b.epoch baseline with ⟨err | n, r'⟩ <;> rfl
  rw [hstore]
  cases hepoch : r.epoch b.id with
  | none => exact .armed hepoch (Redis.luaArm_of_none hepoch b.epoch baseline).1 rfl
  | some e =>
    have hsame : r.luaArm b.id b.epoch baseline = (.ok 0, r) := by simp [Redis.luaArm, hepoch]
    rw [hsame]
    exact .quiet (Redis.Written.refl r _ _) rfl

/-- A reservation takes its amount or leaves the counter alone. -/
lemma reserve_effect (b : Budget) (r : Redis) {amount : Int64} (hnonneg : 0 ≤ amount.toInt) :
    Effect b r .untouched (r.reserve b.id b.epoch amount b.ceiling.micros).2
      (taken amount (r.reserve b.id b.epoch amount b.ceiling.micros).1) := by
  rcases r.reserve_cases b.id b.epoch b.ceiling.micros hnonneg with
    ⟨hw, hanswer⟩ | ⟨hepoch, hw, hle, t, hanswer⟩
  · exact .quiet hw (taken_of_ne hanswer)
  · rw [hanswer]
    exact .taken amount.toInt hnonneg hepoch hw hle rfl rfl

/-- A step of a call whose prices fit keeps the call's stage and account in line, and does
one thing to the counter. -/
theorem Call.step_effect {b : Budget} {r r' : Redis} {c c' : Call} {m : Move} {Q : ℤ}
    (h : c.step b r m = some (r', c')) (hok : c.Ok)
    (hfits : m.Fits Q c.job.req.tenantID) :
    c'.Ok ∧ Effect b r c.account r' c'.account := by
  obtain ⟨cfg, job, stage, account⟩ := c
  obtain ⟨hnonneg, haccount⟩ := hok
  have hquiet : Effect b r account r account := .quiet (Redis.Written.refl r _ _) rfl
  -- every move is made at one stage only
  cases m <;> cases stage
  all_goals try (simp [Call.step] at h; done)
  case sum.summing answer =>
    cases answer with
    | ok baseline =>
      cases h
      exact ⟨⟨hnonneg, haccount⟩, hquiet⟩
    | error err =>
      cases h
      exact ⟨⟨hnonneg, trivial⟩, hquiet⟩
  case arm.arming reply baseline =>
    -- whatever the caller sees, the store is as it was or as the script leaves it
    have harm := arm_effect b r baseline account
    simp only [Call.step] at h
    split at h <;> cases h
    · exact ⟨⟨hnonneg, trivial⟩, hquiet⟩
    · exact ⟨⟨hnonneg, haccount⟩, harm⟩
    · exact ⟨⟨hnonneg, trivial⟩, harm⟩
  case reserve.reserving reply =>
    obtain rfl : account = .untouched := haccount
    have hreserve := reserve_effect b r hnonneg
    simp only [Call.step] at h
    split at h
    · cases h
      exact ⟨⟨hnonneg, trivial⟩, hquiet⟩
    · next soft hadmit =>
      cases h
      obtain ⟨t, ht⟩ := admitTenant_ok hadmit
      refine ⟨⟨hnonneg, ?_⟩, hreserve⟩
      show taken job.worst.micros _ = .outstanding job.worst.micros.toInt
      rw [ht]
      rfl
    · cases h
      exact ⟨⟨hnonneg, trivial⟩, hreserve⟩
  case record.recording id recorded =>
    cases h
    cases recorded <;> exact ⟨⟨hnonneg, haccount⟩, hquiet⟩
  case rollBack.rollingBack reply =>
    obtain rfl : account = .outstanding job.worst.micros.toInt := haccount
    simp only [Call.step, Option.some.injEq, Prod.mk.injEq] at h
    obtain ⟨rfl, rfl⟩ := h
    rcases giveBack_cases b r job.worst.micros reply with ⟨hw, hgone⟩ | ⟨hw, hgone⟩ <;> rw [hgone]
    · exact ⟨⟨hnonneg, trivial⟩, .quiet hw rfl⟩
    · exact ⟨⟨hnonneg, trivial⟩, .returned _ hnonneg hw rfl rfl⟩
  case reconcile.held g answer now usage reported recorded id =>
    simp only [Call.step] at h
    split at h
    · next actual delta hrec =>
      cases h
      obtain ⟨hactual, hdelta⟩ := reconciled_bounds hrec hnonneg hfits.1 hfits.2
      exact ⟨⟨hnonneg, haccount, hactual, hdelta⟩, hquiet⟩
    · cases h
      exact ⟨⟨hnonneg, haccount⟩, hquiet⟩
  case release.settling reply actual delta =>
    obtain ⟨haccount, hactual, hdelta⟩ := haccount
    obtain rfl : account = .outstanding job.worst.micros.toInt := haccount
    simp only [Call.step, Option.some.injEq, Prod.mk.injEq] at h
    obtain ⟨rfl, rfl⟩ := h
    rcases giveBack_cases b r delta reply with ⟨hw, hgone⟩ | ⟨hw, hgone⟩ <;> rw [hgone]
    · exact ⟨⟨hnonneg, trivial⟩, .quiet hw rfl⟩
    · rw [hdelta] at hw
      exact ⟨⟨hnonneg, trivial⟩, .charged _ _ hw rfl rfl⟩

/-! ### What the effects have in common once the counter is armed -/

section Effects

variable {b : Budget} {r r' : Redis} {before after : Account} (h : Effect b r before r' after)
include h

/-- A charge that is in order now was in order before. -/
lemma Effect.within (hafter : after.WithinReservation) : before.WithinReservation := by
  cases h with
  | armed _ _ ha | quiet _ ha => rwa [ha] at hafter
  | taken _ _ _ _ _ hb | returned _ _ _ hb | charged _ _ _ hb => rw [hb]; trivial

variable (hepoch : r.epoch b.id = some b.epoch)
include hepoch

lemma Effect.epoch_eq : r'.epoch b.id = some b.epoch := by
  cases h with
  | armed _ hsome _ => exact hsome
  | quiet hw | taken _ _ _ hw | returned _ _ hw | charged _ _ hw => rw [hw.epoch_eq, hepoch]

/-- The counter moves with the account. -/
lemma Effect.counter_eq :
    r'.counter b.id b.epoch = r.counter b.id b.epoch
      + (after.reserved - before.reserved) + (after.actual - before.actual) := by
  cases h with
  | armed hnone _ _ => rw [hepoch] at hnone; nomatch hnone
  | quiet hw ha =>
    rw [hw.counter_eq, ha]
    ring
  | taken amount _ _ hw _ hb ha =>
    rw [hw.counter_eq, ha, hb]
    simp [Account.reserved, Account.actual]
  | returned _ _ hw hb ha | charged _ _ hw hb ha =>
    rw [hw.counter_eq, ha, hb]
    simp only [Account.reserved, Account.actual]
    ring

lemma Effect.granted (hexact : Exact b.ceiling.micros.toInt) :
    ∀ total ∈ grantsOf b before after r', total ≤ b.ceiling.micros.toInt := by
  intro total htotal
  cases h with
  | armed hnone _ _ => rw [hepoch] at hnone; nomatch hnone
  | quiet hw ha =>
    rw [ha] at htotal
    cases before <;> simp [grantsOf] at htotal
  | taken amount _ _ hw hle hb ha =>
    rw [ha, hb, grantsOf, List.mem_singleton, hw.counter_eq] at htotal
    rw [htotal]
    exact granted_le_ceiling hexact hle
  | returned _ _ _ hb ha | charged _ _ _ hb ha => simp [ha, hb, grantsOf] at htotal

lemma Effect.counter_le (hexact : Exact b.ceiling.micros.toInt) (hafter : after.WithinReservation) :
    r'.counter b.id b.epoch ≤ max (r.counter b.id b.epoch) b.ceiling.micros.toInt := by
  cases h with
  | armed hnone _ _ => rw [hepoch] at hnone; nomatch hnone
  | quiet hw _ => rw [hw.counter_eq]; exact le_max_left _ _
  | taken amount _ _ hw hle _ _ =>
    rw [hw.counter_eq]
    exact le_max_of_le_right (granted_le_ceiling hexact hle)
  | returned amount hnonneg hw _ _ =>
    rw [hw.counter_eq]
    exact le_max_of_le_left (by omega)
  | charged amount actual hw _ ha =>
    have hcharge : actual ≤ amount := by rwa [ha] at hafter
    rw [hw.counter_eq]
    exact le_max_of_le_left (by omega)

end Effects

/-! ### The laws of the counter -/

/-- The laws of the tenant counter: it is the armed baseline with the outstanding and the
charged amounts; reservations are granted at totals up to the ceiling; and while no charge
exceeds its reservation it stays at or below the baseline or the ceiling. -/
structure Lawful (b : Budget) (s : System) : Prop where
  unarmed : s.baseline = none → s.outstanding = 0 ∧ s.charged = 0 ∧ s.grants = []
  conserved : ∀ β, s.baseline = some β →
    s.redis.counter b.id b.epoch = β + s.outstanding + s.charged
  granted : ∀ total ∈ s.grants, total ≤ b.ceiling.micros.toInt
  bounded : ∀ β, s.baseline = some β → (∀ c ∈ s.calls, c.account.WithinReservation) →
    s.redis.counter b.id b.epoch ≤ max β b.ceiling.micros.toInt

/-- What every step keeps: the laws, and what they rest on. -/
structure Inv (b : Budget) (s : System) : Prop extends Lawful b s where
  calls : ∀ c ∈ s.calls, c.Ok
  untouched : s.baseline = none →
    s.redis.epoch b.id = none ∧ ∀ c ∈ s.calls, c.account = .untouched
  armed : ∀ β, s.baseline = some β → s.redis.epoch b.id = some b.epoch

/-- Accounts that have not been touched hold nothing. -/
lemma sums_eq_zero {s : System} (h : ∀ c ∈ s.calls, c.account = .untouched) :
    s.outstanding = 0 ∧ s.charged = 0 := by
  constructor
  all_goals
    refine List.sum_eq_zero fun x hx => ?_
    obtain ⟨c, hc, rfl⟩ := List.mem_map.1 hx
    rw [h c hc]
    rfl

lemma inv_initial (b : Budget) {r : Redis} (h : r.epoch b.id = none) :
    Inv b (System.initial r) where
  unarmed _ := ⟨rfl, rfl, rfl⟩
  conserved := by simp [System.initial]
  granted := by simp [System.initial]
  bounded := by simp [System.initial]
  calls := by simp [System.initial]
  untouched _ := ⟨h, by simp [System.initial]⟩
  armed := by simp [System.initial]

/-- A new call is in line with its account. -/
lemma Call.ok_start {g : Gate} {b : Budget} {job : Job} (hjob : 0 ≤ job.worst.micros.toInt) :
    (Call.start g b job).Ok := by
  refine ⟨hjob, ?_⟩
  by_cases harmed : g.armed b.id = true <;> simp [Call.start, harmed]

/-- A new call has taken nothing. -/
lemma Inv.spawn {b : Budget} {s : System} {g : Gate} {job : Job} (hinv : Inv b s)
    (hjob : 0 ≤ job.worst.micros.toInt) :
    Inv b { s with calls := s.calls ++ [Call.start g b job] } := by
  have hout : (System.outstanding { s with calls := s.calls ++ [Call.start g b job] })
      = s.outstanding := by
    simp [System.outstanding, Call.start, Account.reserved]
  have hcharged : (System.charged { s with calls := s.calls ++ [Call.start g b job] })
      = s.charged := by
    simp [System.charged, Call.start, Account.actual]
  refine ⟨⟨?_, ?_, hinv.granted, ?_⟩, ?_, ?_, hinv.armed⟩
  · rw [hout, hcharged]
    exact hinv.unarmed
  · rw [hout, hcharged]
    exact hinv.conserved
  · intro β hβ hwithin
    exact hinv.bounded β hβ fun c hc => hwithin c (List.mem_append_left _ hc)
  · exact List.forall_mem_snoc hinv.calls (Call.ok_start hjob)
  · intro hnone
    obtain ⟨hepoch, haccounts⟩ := hinv.untouched hnone
    exact ⟨hepoch, List.forall_mem_snoc haccounts rfl⟩

def System.moved (b : Budget) (s : System) (i : ℕ) (c c' : Call) (r' : Redis) : System where
  redis := r'
  calls := s.calls.set i c'
  baseline := baselineOf b s.baseline r'
  grants := s.grants ++ grantsOf b c.account c'.account r'

section Move

variable {b : Budget} {s : System} {i : ℕ} {c c' : Call} {r' : Redis}

/-- The calls stay in line. -/
lemma calls_moved (hcalls : ∀ d ∈ s.calls, d.Ok) (hok : c'.Ok) :
    ∀ d ∈ (s.moved b i c c' r').calls, d.Ok := by
  intro d hd
  rcases List.mem_or_eq_of_mem_set hd with hd | rfl
  · exact hcalls d hd
  · exact hok

/-- A step before the counter is armed, or the one that arms it. -/
lemma Inv.move_unarmed (hinv : Inv b s) (hnone : s.baseline = none)
    (hi : s.calls[i]? = some c) (hok : c'.Ok)
    (heffect : Effect b s.redis c.account r' c'.account) : Inv b (s.moved b i c c' r') := by
  obtain ⟨hepoch, haccounts⟩ := hinv.untouched hnone
  have hc : c.account = .untouched := haccounts c (List.mem_of_getElem? hi)
  -- nothing can be taken or given back yet
  have hkept : c'.account = .untouched := by
    cases heffect with
    | quiet _ ha | armed _ _ ha => rw [ha, hc]
    | taken amount _ hsome => rw [hepoch] at hsome; nomatch hsome
    | returned _ _ _ hb | charged _ _ _ hb => rw [hc] at hb; nomatch hb
  have hcalls : ∀ d ∈ (s.moved b i c c' r').calls, d.account = .untouched := by
    intro d hd
    rcases List.mem_or_eq_of_mem_set hd with hd | rfl
    · exact haccounts d hd
    · exact hkept
  have hgrants : (s.moved b i c c' r').grants = [] := by
    simp [System.moved, hc, hkept, grantsOf, (hinv.unarmed hnone).2.2]
  obtain ⟨hout, hcharged⟩ := sums_eq_zero hcalls
  have hcallsOk : ∀ d ∈ (s.moved b i c c' r').calls, d.Ok := calls_moved hinv.calls hok
  cases hafter : r'.epoch b.id with
  | none =>
    have hbaseline : (s.moved b i c c' r').baseline = none := by
      simp [System.moved, baselineOf, hnone, hafter]
    exact ⟨⟨fun _ => ⟨hout, hcharged, hgrants⟩, by simp [hbaseline], by simp [hgrants],
      by simp [hbaseline]⟩, hcallsOk, fun _ => ⟨hafter, hcalls⟩, by simp [hbaseline]⟩
  | some e =>
    have hbaseline : (s.moved b i c c' r').baseline = some (r'.counter b.id b.epoch) := by
      simp [System.moved, baselineOf, hnone, hafter]
    have he : r'.epoch b.id = some b.epoch := by
      cases heffect with
      | armed _ hsome _ => exact hsome
      | taken amount _ hsome => rw [hepoch] at hsome; nomatch hsome
      | quiet hw | returned _ _ hw | charged _ _ hw =>
        rw [hw.epoch_eq, hepoch] at hafter
        nomatch hafter
    refine ⟨⟨by simp [hbaseline], fun β hβ => ?_, by simp [hgrants], fun β hβ _ => ?_⟩,
      hcallsOk, by simp [hbaseline], fun _ _ => he⟩
    all_goals obtain rfl := Option.mem_unique hbaseline hβ
    · rw [hout, hcharged]
      simp [System.moved]
    · exact le_max_left _ _

/-- A step once the counter is armed. -/
lemma Inv.move_armed {β : ℤ} (hinv : Inv b s) (hβ : s.baseline = some β)
    (hexact : Exact b.ceiling.micros.toInt) (hi : s.calls[i]? = some c) (hok : c'.Ok)
    (heffect : Effect b s.redis c.account r' c'.account) : Inv b (s.moved b i c c' r') := by
  have hepoch := hinv.armed β hβ
  have hout : (s.moved b i c c' r').outstanding =
      s.outstanding - c.account.reserved + c'.account.reserved := List.sum_map_set hi c' _
  have hcharged : (s.moved b i c c' r').charged =
      s.charged - c.account.actual + c'.account.actual := List.sum_map_set hi c' _
  have hbaseline : (s.moved b i c c' r').baseline = some β := by
    simp [System.moved, baselineOf, hβ]
  refine ⟨⟨by simp [hbaseline], fun β' hβ' => ?_,
    List.forall_mem_append.2 ⟨hinv.granted, heffect.granted hepoch hexact⟩,
    fun β' hβ' hwithin => ?_⟩, calls_moved hinv.calls hok, by simp [hbaseline],
    fun _ _ => heffect.epoch_eq hepoch⟩ <;> obtain rfl := Option.mem_unique hbaseline hβ'
  · have hcounter : (s.moved b i c c' r').redis.counter b.id b.epoch = _ :=
      heffect.counter_eq hepoch
    rw [hcounter, hinv.conserved β hβ, hout, hcharged]
    ring
  · have hc' : c'.account.WithinReservation :=
      hwithin c' (List.mem_set (List.getElem?_eq_some_iff.1 hi).1 c')
    have hbefore : ∀ d ∈ s.calls, d.account.WithinReservation := by
      intro d hd
      obtain ⟨j, hj⟩ := List.getElem?_of_mem hd
      by_cases hij : j = i
      · -- the call that moved
        obtain rfl : c = d := Option.some.inj (by rw [← hi, ← hj, hij])
        exact heffect.within hc'
      · refine hwithin d (List.mem_of_getElem? (i := j) ?_)
        show (s.calls.set i c')[j]? = some d
        rw [List.getElem?_set_ne (Ne.symm hij), hj]
    have hle := hinv.bounded β hβ hbefore
    have hstep : (s.moved b i c c' r').redis.counter b.id b.epoch ≤ _ :=
      heffect.counter_le hepoch hexact hc'
    omega

end Move

/-- The prices a step computes with are not negative and do not overflow for the token
counts they are multiplied with, which are between zero and `Q`. -/
def PricesFit (Q : ℤ) (s : System) : Action → Prop
  | .reserve g a req => g.cfg.EstimatesWithin Q ∧ g.BookFits req.tenantID a.priceBook Q
  | .move i m => ∀ c ∈ s.calls[i]?, m.Fits Q c.job.req.tenantID

instance (Q : ℤ) (s : System) (act : Action) : Decidable (PricesFit Q s act) := by
  cases act <;> unfold PricesFit <;> infer_instance

theorem Inv.step {b : Budget} {s s' : System} {act : Action} {Q : ℤ} (hinv : Inv b s)
    (hexact : Exact b.ceiling.micros.toInt) (hfits : PricesFit Q s act)
    (h : (counterMachine b).step s act = some s') : Inv b s' := by
  cases act with
  | reserve g a req =>
    simp only [counterMachine] at h
    split at h
    · next job hjob =>
      split_ifs at h <;> cases h
      · obtain ⟨pb, hpb, hworst⟩ := ((Gate.prepare_spec g a req).2 job hjob).priced
        have hbounds := worstCaseCost_bounds hworst hfits.1 (hfits.2.fits hpb)
        exact hinv.spawn hbounds.1
      · exact hinv
    · cases h
      exact hinv
  | move i m =>
    simp only [counterMachine] at h
    cases hi : s.calls[i]? with
    | none => simp [hi] at h
    | some c =>
      simp only [hi, Option.map_eq_some_iff] at h
      obtain ⟨⟨r', c'⟩, hstep, rfl⟩ := h
      obtain ⟨hok, heffect⟩ :=
        Call.step_effect hstep (hinv.calls c (List.mem_of_getElem? hi)) (hfits c hi)
      cases hβ : s.baseline with
      | none => simpa [System.moved, hβ] using hinv.move_unarmed hβ hi hok heffect
      | some β => simpa [System.moved, hβ] using hinv.move_armed hβ hexact hi hok heffect

/-- Whatever processes arm, reserve, roll back, reconcile and release in whatever order, and
whichever counter calls fail, the counter of a budget keeps its laws as long as the ceiling
is below `2 ^ 53` micros and prices are not negative and do not overflow. -/
theorem tenant_ceiling_holds (b : Budget) (Q : ℤ) (r : Redis) (s : System)
    (hlo : 0 ≤ b.ceiling.micros.toInt) (hhi : b.ceiling.micros.toInt < 2 ^ 53)
    (hcold : r.epoch b.id = none)
    (h : (counterMachine b).ReachesBy (PricesFit Q) (System.initial r) s) : Lawful b s := by
  have hinv : Inv b s :=
    h.invariant (inv_initial b hcold) fun _ _ _ hinv hfits hstep =>
      hinv.step ⟨hlo, hhi⟩ hfits hstep
  exact hinv.toLawful

def tenantBudget (ceiling : Int64) : Budget :=
  { id := 7, scope := .tenant, scopeRef := none
    ceiling := { micros := ceiling, currency := "USD" }, epoch := 1 }

/-- A call in a new process, up to its grant: the counter is armed with the sum of the
records, the amount reserved and the decision recorded. -/
def reserveRun (price ceiling sum : Int64) : List Action :=
  [.reserve (newGate true defaultMeters {})
      { priceBook := .ok (flatBook price), sessionBudget := .ok none
        tenantBudget := .ok (some (tenantBudget ceiling)), now := 1 }
      { tenantID := 1, sessionID := 2, modelID := "", purpose := .turn },
    .move 0 (.sum (.ok sum)), .move 0 (.arm .answered), .move 0 (.reserve .answered),
    .move 0 (.record 9 true)]

/-- A call that is granted, used in part and released. -/
def settledRun : List Action :=
  reserveRun 3000000 1000000 500000 ++
    [.move 0 (.reconcile (newGate true defaultMeters {}) (.ok (flatBook 3000000)) 2
        (.tokens 1000 0 0 100) true true),
      .move 0 (.release .answered)]

theorem settledRun_lawful :
    ∃ s, (counterMachine (tenantBudget 1000000)).runBy
        (fun s act => decide (PricesFit 10000 s act)) (System.initial Redis.empty) settledRun
          = some s ∧
      s.grants = [536288] ∧ s.charged = 3300 ∧ s.redis.counter 7 1 = 503300 ∧
      Lawful (tenantBudget 1000000) s := by
  obtain ⟨s, hrun, hgrants, hcharged, hcounter⟩ : ∃ s, (counterMachine (tenantBudget 1000000)).runBy
      (fun s act => decide (PricesFit 10000 s act)) (System.initial Redis.empty) settledRun
        = some s ∧
      s.grants = [536288] ∧ s.charged = 3300 ∧ s.redis.counter 7 1 = 503300 := by
    apply Machine.exists_runBy
    decide +kernel
  have hreach := Machine.ReachesBy.of_runBy settledRun hrun
  exact ⟨s, hrun, hgrants, hcharged, hcounter, tenant_ceiling_holds (tenantBudget 1000000) 10000
    Redis.empty s (by decide) (by decide) rfl hreach⟩

/-- A ceiling of `2 ^ 53` micros that is spent already: the script reads a total of
`2 ^ 53 + 1` as `2 ^ 53` and grants one more micro. -/
theorem roundedTotal_over_ceiling :
    ∃ s, (counterMachine (tenantBudget 9007199254740992)).run (System.initial Redis.empty)
        (reserveRun 63 9007199254740992 9007199254740992) = some s ∧
      s.grants = [9007199254740993] ∧
      (tenantBudget 9007199254740992).ceiling.micros.toInt = 9007199254740992 ∧
      ¬ Lawful (tenantBudget 9007199254740992) s := by
  obtain ⟨s, hrun, hgrants⟩ : ∃ s, (counterMachine (tenantBudget 9007199254740992)).run
      (System.initial Redis.empty) (reserveRun 63 9007199254740992 9007199254740992) = some s ∧
      s.grants = [9007199254740993] := by
    apply Machine.exists_run
    decide +kernel
  refine ⟨s, hrun, hgrants, rfl, fun hlawful => ?_⟩
  have hle := hlawful.granted 9007199254740993 (hgrants ▸ List.mem_singleton.2 rfl)
  exact absurd hle (by decide)

end NexusAgent.Cost.Tenant
