import Mathlib.Algebra.Order.BigOperators.Group.List
import NexusAgent.Cost.TenantCeiling

/-!
# Losing the tenant counter

The store of the counters can lose its keys. A process that has not armed the budget before then
arms it again with the sum of the cost records (`ensureArmed` in `internal/cost/gate_helpers.go`).
That sum has nothing of the reservations that are outstanding, and what they later give back
(`finishReconcile` in `internal/cost/reconcile.go`) is subtracted from a counter that never held
them.

A reservation is outstanding from its grant until its usage is recorded or it is rolled back. The
load is what the records say together with what the calls under way will still take off the
counter.

- `Call.step_load`: while the counter is armed, a step raises it by at least as much as the load.
-/

namespace NexusAgent.Cost.Tenant

/-! ### What a call holds -/

namespace Call

/-- What is reserved by a call and neither recorded as used nor given back. -/
def unsettled (c : Call) : ℤ :=
  match c.stage with
  | .recording | .rollingBack | .held _ => c.account.reserved
  | _ => 0

/-- What a call may still take off the counter. -/
def pending (c : Call) : ℤ :=
  match c.stage with
  | .settling _ delta => delta.toInt
  | _ => c.unsettled

/-- Whether a call has a reservation that it has not settled with the counter. -/
def underWay (c : Call) : Bool :=
  match c.stage with
  | .recording | .rollingBack | .held _ | .settling .. => true
  | _ => false

/-- What a step of a call adds to the cost records. -/
def written (c : Call) : Move → ℤ
  | .reconcile g answer now usage reported recorded =>
    match c.stage with
    | .held id =>
      match (g.price answer now (c.job.reservation id) usage reported).1 with
      | .ok (records, _) => if recorded then totalCost records else 0
      | .error _ => 0
    | _ => 0
  | _ => 0

end Call

/-! ### Every process, with losses -/

/-- The store, the calls of all processes and the cost records of the tenant. -/
structure Spending where
  redis : Redis
  calls : List Call
  /-- The sum of the cost records. -/
  recorded : ℤ
  /-- The recorded spend and the outstanding reservations, right after each grant of the counter
  and right after each reservation that was returned. -/
  grants : List ℤ

namespace Spending

def outstanding (s : Spending) : ℤ := (s.calls.map Call.unsettled).sum

/-- The records and what the calls under way may still take off the counter. -/
def load (s : Spending) : ℤ := s.recorded + (s.calls.map Call.pending).sum

/-- A store in which the budget has not been armed, and no call. -/
def initial (r : Redis) (recorded : ℤ) : Spending :=
  { redis := r, calls := [], recorded, grants := [] }

end Spending

/-- A step of some process, or the loss of all keys. -/
inductive Incident
  | reserve (g : Gate) (a : ReserveAnswers) (req : ReserveRequest)
  | move (i : ℕ) (m : Move)
  | lose

/-- A sum of the records is what they hold at that time. -/
def Move.Reads (recorded : ℤ) : Move → Prop
  | .sum (.ok baseline) => baseline.toInt = recorded
  | _ => True

instance (recorded : ℤ) (m : Move) : Decidable (m.Reads recorded) := by
  unfold Move.Reads
  split <;> infer_instance

/-- Whether a step grants a reservation: at the counter, or to the caller. -/
def Call.granted (before after : Call) : Bool :=
  match before.stage, after.stage with
  | .reserving, .recording | .recording, .held _ => true
  | _, _ => false

/-- The system after a step of one of its calls. -/
def Spending.moved (s : Spending) (i : ℕ) (c c' : Call) (r' : Redis) (written : ℤ) : Spending :=
  let after := { s with redis := r', calls := s.calls.set i c', recorded := s.recorded + written }
  if c.granted c' then { after with grants := s.grants ++ [after.recorded + after.outstanding] }
  else after

/-- Calls on the tenant budget `b` and losses of the keys, under every interleaving. -/
def lossMachine (b : Budget) : Machine Spending Incident where
  step s
    | .reserve g a req =>
      match (g.prepare a req).1 with
      | .proceed job =>
        if job.tenBudget = some b ∧ g.counters then
          some { s with calls := s.calls ++ [Call.start g b job] }
        else some s
      | _ => some s
    | .move i m =>
      match s.calls[i]? with
      | none => none
      | some c =>
        if m.Reads s.recorded then
          (c.step b s.redis m).map fun r => s.moved i c r.2 r.1 (c.written m)
        else none
    | .lose => some { s with redis := Redis.empty }

/-! ### Conditions on a run -/

/-- A reconciliation charges in the currency of the reservation, and no more than it. -/
def Call.Covers (currency : String) (c : Call) : Move → Prop
  | .reconcile g answer now usage reported recorded =>
    (g.cfg.currency = currency ∧ c.job.worst.currency = currency ∧
      (match (g.priceBookFor c.job.req.tenantID answer).1 with
        | .ok pb => pb.InCurrency currency
        | .error _ => True)) ∧
    c.written (.reconcile g answer now usage reported recorded) ≤ c.job.worst.micros.toInt
  | _ => True

instance (currency : String) (c : Call) (m : Move) : Decidable (c.Covers currency m) := by
  match m with
  | .reconcile g answer .. =>
    refine @instDecidableAnd _ _ (@instDecidableAnd _ _ _ (@instDecidableAnd _ _ _ ?_)) _
    match (g.priceBookFor c.job.req.tenantID answer).1 with
    | .ok pb => exact inferInstanceAs (Decidable (pb.InCurrency currency))
    | .error _ => exact .isTrue trivial
  | .sum _ | .arm _ | .reserve _ | .record .. | .rollBack _ | .release _ => exact .isTrue trivial

/-- Where the keys are missing, the counter is armed while no reservation is under way, and with
what the records hold then. -/
def Spending.Rearms (b : Budget) (s : Spending) (c : Call) : Move → Prop
  | .arm _ =>
    match c.stage with
    | .arming baseline => s.redis.epoch b.id = none →
      (∀ d ∈ s.calls, d.underWay = false) ∧ baseline.toInt = s.recorded
    | _ => True
  | _ => True

instance (b : Budget) (s : Spending) (c : Call) (m : Move) : Decidable (s.Rearms b c m) := by
  match m with
  | .arm _ =>
    dsimp only [Spending.Rearms]
    split <;> infer_instance
  | .sum _ | .reserve _ | .record .. | .rollBack _ | .reconcile .. | .release _ =>
    exact .isTrue trivial

/-- The prices of a step fit and are in one currency, charges are covered by their reservations,
and the counter is armed only while no reservation is under way. -/
def Safe (b : Budget) (Q : ℤ) (currency : String) (s : Spending) : Incident → Prop
  | .reserve g a req => g.cfg.EstimatesWithin Q ∧ g.BookFits req.tenantID a.priceBook Q
  | .move i m =>
    ∀ c ∈ s.calls[i]?, m.Fits Q c.job.req.tenantID ∧ c.Covers currency m ∧ s.Rearms b c m
  | .lose => True

instance (b : Budget) (Q : ℤ) (currency : String) (s : Spending) (a : Incident) :
    Decidable (Safe b Q currency s a) := by
  cases a <;> unfold Safe <;> infer_instance

/-! ### What a step does to the load -/

lemma cfg_price (g : Gate) (answer : Except String PriceBook) (now : ℤ) (res : Reservation)
    (usage : Usage) (reported : Bool) :
    (g.price answer now res usage reported).2.cfg = g.cfg := by
  rcases g.price_gate answer now res usage reported with h | h
  · rw [h]
  · rw [h, Gate.cfg_priceBookFor]

variable {Q : ℤ} {currency : String} {r : Redis} {m : Move}

lemma written_reconcile {c : Call} {b : Budget} {id : UUID} {g : Gate}
    {answer : Except String PriceBook} {now : ℤ} {usage : Usage} {reported recorded : Bool}
    (hstage : c.stage = .held id) (hten : c.job.tenBudget = some b)
    (hfits : (Move.reconcile g answer now usage reported recorded).Fits Q c.job.req.tenantID)
    (hcovers : c.Covers currency (.reconcile g answer now usage reported recorded)) :
    (reconciled g answer now (c.job.reservation id) usage reported recorded = none ∧
      c.written (.reconcile g answer now usage reported recorded) = 0) ∨
    ∃ actual delta, reconciled g answer now (c.job.reservation id) usage reported recorded =
        some (actual, delta) ∧
      c.written (.reconcile g answer now usage reported recorded) = actual.toInt := by
  obtain ⟨⟨hcfg, hworst, hbook⟩, -⟩ := hcovers
  subst hcfg
  have hgate := cfg_price g answer now (c.job.reservation id) usage reported
  simp only [Call.written, hstage]
  unfold reconciled
  rcases hprice : g.price answer now (c.job.reservation id) usage reported with
    ⟨err | ⟨records, actual⟩, g'⟩
  · exact .inl ⟨rfl, rfl⟩
  rw [hprice] at hgate
  obtain ⟨hcur, htotal⟩ := (Gate.price_spec (by rw [hprice]) hfits.1 fun _ => hfits.2.fits).2 hworst
    fun pb (hpb : (g.priceBookFor c.job.req.tenantID answer).1 = .ok pb) => by rwa [hpb] at hbook
  have hfinish : (g'.finishReconcile (c.job.reservation id) actual).1 =
      .ok (some (c.job.worst.micros - actual.micros)) := by
    have hsame : (g'.reservedOf (c.job.reservation id)).currency = actual.currency := by
      unfold Gate.reservedOf
      split_ifs
      · exact (congrArg GateConfig.currency hgate).trans hcur.symm
      · exact hworst.trans hcur.symm
    have hkind : ¬ ((c.job.reservation id).decision.kind = .skip ∨
        (c.job.reservation id).decision.kind = .refuseCeiling) := by
      show ¬ (c.job.decision.kind = .skip ∨ c.job.decision.kind = .refuseCeiling)
      rcases c.job.decision_kind with h | h <;> simp [h]
    unfold Gate.finishReconcile
    rw [if_neg hkind, Money.sub_of_eq hsame]
    simp [Job.reservation, Job.decision, hten]
  simp only [hfinish]
  cases recorded with
  | true =>
    exact .inr ⟨actual.micros, c.job.worst.micros - actual.micros, by simp, by simp [htotal]⟩
  | false =>
    -- without records there is nothing to write, and nothing is charged
    cases records with
    | nil =>
      exact .inr ⟨actual.micros, c.job.worst.micros - actual.micros, by simp,
        by simp [htotal, totalCost]⟩
    | cons record rest => exact .inl ⟨by simp, by simp⟩

/-- A call on the budget whose stage and account fit, and that gives back nothing negative. -/
structure Call.Sound (b : Budget) (c : Call) : Prop extends c.Ok where
  budget : c.job.tenBudget = some b
  returns : ∀ actual delta, c.stage = .settling actual delta → 0 ≤ delta.toInt

/-- What a step of a call does to the load, beside what it does to its account. -/
structure LoadStep (c c' : Call) (written : ℤ) : Prop where
  /-- The account grows by at least as much as the load. -/
  covered : written + c'.pending - c.pending ≤
    c'.account.reserved - c.account.reserved + (c'.account.actual - c.account.actual)
  /-- Only a grant of the counter raises the load. -/
  raised : c'.stage ≠ .recording → written + c'.pending ≤ c.pending
  reserved : c'.stage = .recording → c.stage = .reserving

/-- A step that leaves nothing to be given back, and did not before. -/
lemma LoadStep.idle {c c' : Call} (hbefore : c.pending = 0) (hafter : c'.pending = 0)
    (hstage : c'.stage ≠ .recording)
    (haccount : 0 ≤ c'.account.reserved - c.account.reserved +
      (c'.account.actual - c.account.actual)) : LoadStep c c' 0 where
  covered := by omega
  raised _ := by omega
  reserved h := absurd h hstage

lemma taken_nonneg {amount : Int64} (h : 0 ≤ amount.toInt)
    (answer : Except String (ReserveOutcome × Int64)) :
    0 ≤ (taken amount answer).reserved ∧ (taken amount answer).actual = 0 := by
  unfold taken
  split
  · exact ⟨h, rfl⟩
  · exact ⟨le_rfl, rfl⟩

theorem Call.step_load {b : Budget} {r' : Redis} {c c' : Call} (h : c.step b r m = some (r', c'))
    (hc : c.Sound b)
    (hfits : m.Fits Q c.job.req.tenantID) (hcovers : c.Covers currency m) :
    c'.Sound b ∧ LoadStep c c' (c.written m) := by
  have hok' := (Call.step_effect h hc.toOk hfits).1
  obtain ⟨cfg, job, stage, account⟩ := c
  obtain ⟨⟨hnonneg, haccount⟩, hbudget, hreturns⟩ := hc
  replace hnonneg : 0 ≤ job.worst.micros.toInt := hnonneg
  have hsound {c' : Call} (hok : c'.Ok) (hjob : c'.job.tenBudget = job.tenBudget)
      (hstage : ∀ actual delta, c'.stage ≠ .settling actual delta) : c'.Sound b :=
    ⟨hok, hjob.trans hbudget, fun actual delta hs => absurd hs (hstage actual delta)⟩
  -- every move is made at one stage only
  cases m <;> cases stage
  all_goals try (simp [Call.step] at h; done)
  case sum.summing answer =>
    cases answer
    all_goals
      cases h
      exact ⟨hsound hok' rfl (by simp [goto]), .idle rfl rfl (by simp [goto]) (by simp [goto])⟩
  case arm.arming reply baseline =>
    -- whatever the caller sees, its own account is as it was
    simp only [Call.step] at h
    split at h
    all_goals
      cases h
      exact ⟨hsound hok' rfl (by simp [goto]), .idle rfl rfl (by simp [goto]) (by simp [goto])⟩
  case reserve.reserving reply =>
    obtain rfl : account = .untouched := haccount
    let account :=
      taken job.worst.micros (r.reserve b.id b.epoch job.worst.micros b.ceiling.micros).1
    obtain ⟨hreserved, hactual⟩ : 0 ≤ account.reserved ∧ account.actual = 0 :=
      taken_nonneg hnonneg _
    simp only [Call.step] at h
    split at h <;> cases h
    · exact ⟨hsound hok' rfl (by simp [goto]), .idle rfl rfl (by simp [goto]) (by simp [goto])⟩
    · refine ⟨hsound hok' rfl (by simp [goto]), ?_, fun hne => absurd rfl hne, fun _ => rfl⟩
      -- what may be given back is what the account holds
      show 0 + account.reserved - 0 ≤ account.reserved - 0 + (account.actual - 0)
      omega
    · refine ⟨hsound hok' rfl (by simp [goto]), .idle rfl rfl (by simp [goto]) ?_⟩
      show 0 ≤ account.reserved - 0 + (account.actual - 0)
      omega
  case record.recording id recorded =>
    cases h
    cases recorded
    all_goals exact ⟨hsound hok' rfl (by simp [goto]), by simp [goto, pending, unsettled, written],
      fun _ => by simp [goto, pending, unsettled, written], by simp [goto]⟩
  case rollBack.rollingBack reply =>
    obtain rfl : account = .outstanding job.worst.micros.toInt := haccount
    simp only [Call.step, Option.some.injEq, Prod.mk.injEq] at h
    obtain ⟨rfl, rfl⟩ := h
    generalize (giveBack b r job.worst.micros reply).2 = gone at hok' ⊢
    cases gone with
    | true =>
      exact ⟨hsound hok' rfl (by simp [goto]),
        by simp [goto, book, pending, unsettled, written, Account.reserved, Account.actual],
        fun _ => by simpa [goto, pending, unsettled, written, Account.reserved] using hnonneg,
        by simp [goto]⟩
    | false =>
      refine ⟨hsound hok' rfl (by simp [goto]), ?_, fun _ => ?_, by simp [goto]⟩
      all_goals simpa [goto, pending, unsettled, written, Account.reserved] using hnonneg
  case reconcile.held g answer now usage reported recorded id =>
    obtain rfl : account = .outstanding job.worst.micros.toInt := haccount
    simp only [Call.step] at h
    rcases written_reconcile rfl hbudget hfits hcovers with
      ⟨hnone, hwritten⟩ | ⟨actual, delta, hsome, hwritten⟩
    · rw [hwritten]
      simp only [hnone] at h
      cases h
      exact ⟨hsound hok' rfl (by simp), by simp, fun _ => by simp, by simp⟩
    · simp only [hsome] at h
      cases h
      obtain ⟨-, -, hdelta⟩ := hok'.account
      have hle := hcovers.2
      rw [hwritten] at hle ⊢
      replace hle : actual.toInt ≤ job.worst.micros.toInt := hle
      replace hdelta : delta.toInt = job.worst.micros.toInt - actual.toInt := hdelta
      -- what was used moves from the reservation to the records
      have hpending : actual.toInt + delta.toInt = job.worst.micros.toInt := by omega
      refine ⟨⟨hok', hbudget, ?_⟩, ?_, fun _ => hpending.le, by simp [goto]⟩
      · rintro actual' delta' ⟨⟩
        omega
      · show actual.toInt + delta.toInt - job.worst.micros.toInt ≤ _
        simp [goto, hpending]
  case release.settling reply actual delta =>
    obtain ⟨haccount, hactual, hdelta⟩ := haccount
    obtain rfl : account = .outstanding job.worst.micros.toInt := haccount
    replace hdelta : delta.toInt = job.worst.micros.toInt - actual.toInt := hdelta
    have hback := hreturns actual delta rfl
    simp only [Call.step, Option.some.injEq, Prod.mk.injEq] at h
    obtain ⟨rfl, rfl⟩ := h
    generalize (giveBack b r delta reply).2 = gone at hok' ⊢
    cases gone with
    | true =>
      refine ⟨hsound hok' rfl (by simp [goto]), ?_, fun _ => ?_, by simp [goto]⟩
      · show 0 + 0 - delta.toInt ≤ 0 - job.worst.micros.toInt + (actual.toInt - 0)
        omega
      · simpa [goto, pending, unsettled, written] using hback
    | false =>
      refine ⟨hsound hok' rfl (by simp [goto]), ?_, fun _ => ?_, by simp [goto]⟩
      all_goals simpa [goto, pending, unsettled, written] using hback

/-! ### Whole runs -/

/-- What every step keeps: the counter covers the load wherever it is armed. -/
structure Backed (b : Budget) (s : Spending) : Prop where
  calls : ∀ c ∈ s.calls, c.Sound b
  armed : ∀ e, s.redis.epoch b.id = some e →
    e = b.epoch ∧ s.load ≤ s.redis.counter b.id b.epoch
  /-- Between the grant of the counter and the end of the reservation the load is within the
  ceiling. -/
  recording : ∀ c ∈ s.calls, c.stage = .recording → s.load ≤ b.ceiling.micros.toInt
  grants : ∀ total ∈ s.grants, total ≤ b.ceiling.micros.toInt

lemma backed_initial (b : Budget) (h : r.epoch b.id = none) (recorded : ℤ) :
    Backed b (.initial r recorded) where
  calls := by simp [Spending.initial]
  armed e he := nomatch h.symm.trans he
  recording := by simp [Spending.initial]
  grants := by simp [Spending.initial]

section

variable {b : Budget} {s : Spending} {i : ℕ} {c c' : Call} {r' : Redis} {written : ℤ}

/-- A call gives back at least what is outstanding of it. -/
lemma Call.Sound.unsettled_le (h : c.Sound b) : c.unsettled ≤ c.pending := by
  obtain ⟨cfg, job, stage, account⟩ := c
  cases stage with
  | settling actual delta => exact h.returns actual delta rfl
  | _ => exact le_rfl

lemma exposure_le_load (h : ∀ c ∈ s.calls, c.Sound b) : s.recorded + s.outstanding ≤ s.load := by
  have hsum := List.sum_le_sum fun c hc => (h c hc).unsettled_le
  unfold Spending.load Spending.outstanding
  omega

lemma load_set (hi : s.calls[i]? = some c) (grants : List ℤ) :
    Spending.load ⟨r', s.calls.set i c', s.recorded + written, grants⟩ =
      s.load + (written + c'.pending - c.pending) := by
  simp only [Spending.load, List.sum_map_set hi c' Call.pending]
  ring

/-- A call that is not under way gives nothing back. -/
lemma pending_of_not_underWay (h : c.underWay = false) : c.pending = 0 := by
  obtain ⟨cfg, job, stage, account⟩ := c
  cases stage <;> first | rfl | nomatch h

lemma recording_of_granted (h : c.granted c' = true)
    (hnot : c'.stage ≠ .recording) : c.stage = .recording := by
  unfold Call.granted at h
  split at h
  next hstage => exact absurd hstage hnot
  next hstage _ => exact hstage
  next => nomatch h

/-- The laws after a step of a call that keeps the load covered. -/
lemma Backed.moved (h : Backed b s) (hi : s.calls[i]? = some c) (hc' : c'.Sound b)
    (hload : LoadStep c c' written)
    (harmed : ∀ e, r'.epoch b.id = some e → e = b.epoch ∧
      s.load + (written + c'.pending - c.pending) ≤ r'.counter b.id b.epoch)
    (hgranted : c'.stage = .recording →
      s.load + (written + c'.pending - c.pending) ≤ b.ceiling.micros.toInt) :
    Backed b (s.moved i c c' r' written) := by
  have hcalls : ∀ d ∈ s.calls.set i c', d.Sound b := by
    intro d hd
    rcases List.mem_or_eq_of_mem_set hd with hd | rfl
    · exact h.calls d hd
    · exact hc'
  have hle (hnot : c'.stage ≠ .recording) : written + c'.pending - c.pending ≤ 0 := by
    have := hload.raised hnot
    omega
  have hrecording : ∀ d ∈ s.calls.set i c', d.stage = .recording →
      s.load + (written + c'.pending - c.pending) ≤ b.ceiling.micros.toInt := by
    intro d hd hstage
    by_cases hnew : c'.stage = .recording
    · exact hgranted hnew
    · rcases List.mem_or_eq_of_mem_set hd with hd | rfl
      · have hold := h.recording d hd hstage
        have := hle hnew
        omega
      · exact absurd hstage hnew
  -- the state without the new entry of the grants
  have hafter : Backed b ⟨r', s.calls.set i c', s.recorded + written, s.grants⟩ := by
    refine ⟨hcalls, fun e he => ?_, fun d hd hstage => ?_, h.grants⟩ <;> rw [load_set hi]
    · exact harmed e he
    · exact hrecording d hd hstage
  unfold Spending.moved
  split_ifs with hgrant
  · refine ⟨hafter.calls, hafter.armed, hafter.recording,
      List.forall_mem_snoc h.grants ?_⟩
    refine (exposure_le_load hcalls).trans ?_
    rw [load_set hi]
    by_cases hrec : c'.stage = .recording
    · exact hgranted hrec
    · have hbefore := h.recording c (List.mem_of_getElem? hi) (recording_of_granted hgrant hrec)
      have := hle hrec
      omega
  · exact hafter

/-- Without keys only arming sets the epoch. -/
lemma Call.step_arms {e : Int64} (h : c.step b r m = some (r', c'))
    (hnone : r.epoch b.id = none) (hsome : r'.epoch b.id = some e) :
    ∃ baseline reply, m = .arm reply ∧ c.stage = .arming baseline ∧ e = b.epoch ∧
      r'.counter b.id b.epoch = baseline.toInt ∧ c'.pending = 0 := by
  have hkept (heq : r' = r) : False := by
    rw [heq, hnone] at hsome
    nomatch hsome
  have hgiveBack (delta : Int64) (reply : Reply) : (giveBack b r delta reply).1 = r := by
    unfold giveBack
    split_ifs
    · rfl
    · simp [Redis.luaRelease, hnone]
  have hreserve (amount : Int64) :
      (r.reserve b.id b.epoch amount b.ceiling.micros).2 = r := by
    simp [Redis.reserve, Redis.luaReserve, hnone]
  obtain ⟨cfg, job, stage, account⟩ := c
  cases m with
  | arm reply =>
    cases stage with
    | arming baseline =>
      have harmed := Redis.luaArm_of_none hnone b.epoch baseline
      simp only [Call.step] at h
      split at h
      · exact (hkept (Prod.mk.inj (Option.some.inj h)).1.symm).elim
      -- the keys are set, whatever the caller sees
      all_goals
        cases h
        have hstore : (r.arm b.id b.epoch baseline).2 = (r.luaArm b.id b.epoch baseline).2 := by
          simp [Redis.arm, Redis.luaArm, hnone]
        rw [hstore] at hsome ⊢
        exact ⟨baseline, _, rfl, rfl, Option.mem_unique hsome harmed.1, harmed.2, rfl⟩
    | _ => simp [Call.step] at h
  | sum _ | reserve _ | record _ _ | rollBack _ | reconcile _ _ _ _ _ _ | release _ =>
    -- nothing else touches a store without keys
    refine (hkept ?_).elim
    simp only [Call.step, hreserve, hgiveBack] at h
    repeat' split at h
    all_goals first
      | exact (Prod.mk.inj (Option.some.inj h)).1.symm
      | cases h

/-- A step of a call keeps the laws. -/
lemma Backed.move (h : Backed b s) (hexact : Exact b.ceiling.micros.toInt)
    (hi : s.calls[i]? = some c) (hst : c.step b s.redis m = some (r', c'))
    (hfits : m.Fits Q c.job.req.tenantID) (hcovers : c.Covers currency m)
    (hrearms : s.Rearms b c m) : Backed b (s.moved i c c' r' (c.written m)) := by
  have hc := h.calls c (List.mem_of_getElem? hi)
  obtain ⟨hc', hload⟩ := Call.step_load hst hc hfits hcovers
  obtain ⟨-, heffect⟩ := Call.step_effect hst hc.toOk hfits
  have harmed (e : Int64) (he : r'.epoch b.id = some e) : e = b.epoch ∧
      s.load + (c.written m + c'.pending - c.pending) ≤ r'.counter b.id b.epoch := by
    cases hepoch : s.redis.epoch b.id with
    | none =>
      -- the counter has just been armed, and no reservation is under way
      obtain ⟨baseline, reply, rfl, hstage, rfl, hcounter, hpending⟩ :=
        Call.step_arms hst hepoch he
      unfold Spending.Rearms at hrearms
      simp only [hstage] at hrearms
      obtain ⟨hidle, hbaseline⟩ := hrearms hepoch
      have hsum : (s.calls.map Call.pending).sum = 0 := by
        refine List.sum_eq_zero fun x hx => ?_
        obtain ⟨d, hd, rfl⟩ := List.mem_map.1 hx
        exact pending_of_not_underWay (hidle d hd)
      have hbefore := pending_of_not_underWay (hidle c (List.mem_of_getElem? hi))
      refine ⟨rfl, ?_⟩
      rw [hcounter, hbaseline, hpending, hbefore, Spending.load, hsum]
      simp [Call.written]
    | some e₀ =>
      obtain ⟨rfl, hle⟩ := h.armed e₀ hepoch
      have hcounter := heffect.counter_eq hepoch
      have hcovered := hload.covered
      refine ⟨Option.some.inj (he.symm.trans (heffect.epoch_eq hepoch)), ?_⟩
      omega
  refine h.moved hi hc' hload harmed fun hrec => ?_
  -- a grant of the counter passed the comparison with the ceiling
  have hbefore : c.account = .untouched := by
    have := hc.account
    rwa [hload.reserved hrec] at this
  have hafter : c'.account = .outstanding c'.job.worst.micros.toInt := by
    have := hc'.account
    rwa [hrec] at this
  cases heffect with
  | taken amount _ hsome hw hle hb ha =>
    have hepoch : r'.epoch b.id = some b.epoch := by rw [hw.epoch_eq, hsome]
    refine (harmed b.epoch hepoch).2.trans ?_
    rw [hw.counter_eq]
    exact granted_le_ceiling hexact hle
  | quiet _ ha | armed _ _ ha => simp [hbefore, hafter] at ha
  | returned _ _ _ hb | charged _ _ _ hb => simp [hbefore] at hb

end

/-- A new call has taken nothing. -/
lemma Backed.spawn {b : Budget} {s : Spending} {g : Gate} {job : Job} (h : Backed b s)
    (hjob : 0 ≤ job.worst.micros.toInt) (hbudget : job.tenBudget = some b) :
    Backed b { s with calls := s.calls ++ [Call.start g b job] } := by
  have hstage :
      (Call.start g b job).stage = .reserving ∨ (Call.start g b job).stage = .summing := by
    unfold Call.start
    split_ifs
    · exact .inl rfl
    · exact .inr rfl
  have hsound : (Call.start g b job).Sound b := by
    refine ⟨Call.ok_start hjob, hbudget, fun actual delta hs => ?_⟩
    rcases hstage with hs' | hs' <;> nomatch hs'.symm.trans hs
  have hload : Spending.load { s with calls := s.calls ++ [Call.start g b job] } = s.load := by
    have hpending : (Call.start g b job).pending = 0 := by
      rcases hstage with hs | hs <;> simp [Call.pending, Call.unsettled, hs]
    simp [Spending.load, hpending]
  refine ⟨List.forall_mem_snoc h.calls hsound,
    fun e he => ?_, ?_, h.grants⟩ <;> rw [hload]
  · exact h.armed e he
  · refine List.forall_mem_snoc h.recording fun hrec => ?_
    rcases hstage with hs | hs <;> nomatch hs.symm.trans hrec

lemma Backed.step {b : Budget} {s s' : Spending} {a : Incident} (h : Backed b s)
    (hexact : Exact b.ceiling.micros.toInt) (hsafe : Safe b Q currency s a)
    (hst : (lossMachine b).step s a = some s') : Backed b s' := by
  cases a with
  | reserve g a req =>
    simp only [lossMachine] at hst
    split at hst
    · next job hjob =>
      split_ifs at hst with hbudget <;> cases hst
      · obtain ⟨pb, hpb, hworst⟩ := ((Gate.prepare_spec g a req).2 job hjob).priced
        have hbounds := worstCaseCost_bounds hworst hsafe.1 (hsafe.2.fits hpb)
        exact h.spawn hbounds.1 hbudget.1
      · exact h
    · cases hst
      exact h
  | move i m =>
    simp only [lossMachine] at hst
    cases hi : s.calls[i]? with
    | none => simp [hi] at hst
    | some c =>
      simp only [hi] at hst
      obtain ⟨-, hmap⟩ := Option.ite_none_right_eq_some.1 hst
      obtain ⟨⟨r', c'⟩, hstep, rfl⟩ := Option.map_eq_some_iff.1 hmap
      obtain ⟨hfits, hcovers, hrearms⟩ := hsafe c hi
      exact h.move hexact hi hstep hfits hcovers hrearms
  | lose =>
    cases hst
    exact ⟨h.calls, nofun, h.recording, h.grants⟩

/-- Whatever processes reserve, reconcile, lose and arm again in whatever order, whenever a
reservation is granted the recorded spend and the outstanding reservations are within the ceiling,
in every run in which charges stay within their reservations and the counter is armed only while
no reservation is under way. -/
theorem grants_within (b : Budget) (Q : ℤ) (currency : String) (r : Redis) (recorded : ℤ)
    (s : Spending) (hlo : 0 ≤ b.ceiling.micros.toInt) (hhi : b.ceiling.micros.toInt < 2 ^ 53)
    (hcold : r.epoch b.id = none)
    (h : (lossMachine b).ReachesBy (Safe b Q currency) (.initial r recorded) s) :
    ∀ total ∈ s.grants, total ≤ b.ceiling.micros.toInt := by
  have hinv : Backed b s :=
    h.invariant (backed_initial b hcold recorded) fun _ _ _ hinv hsafe hst =>
      hinv.step ⟨hlo, hhi⟩ hsafe hst
  exact hinv.grants

def grantedRun (ceiling : Int64) (i : ℕ) (sum : Int64) : List Incident :=
  [.reserve (newGate true defaultMeters {})
      { priceBook := .ok (flatBook 3000000), sessionBudget := .ok none
        tenantBudget := .ok (some (tenantBudget ceiling)), now := 1 }
      { tenantID := 1, sessionID := 2, modelID := "", purpose := .turn },
    .move i (.sum (.ok sum)), .move i (.arm .answered), .move i (.reserve .answered),
    .move i (.record 9 true)]

/-- The keys are lost when the only reservation has been settled. -/
def settledLossRun : List Incident :=
  grantedRun 50000 0 0 ++
    [.move 0 (.reconcile (newGate true defaultMeters {}) (.ok (flatBook 3000000)) 2
        (.tokens 1000 0 0 100) true true),
      .move 0 (.release .answered), .lose] ++ grantedRun 50000 1 3300

theorem settledLoss_within :
    ∃ s, (lossMachine (tenantBudget 50000)).ReachesBy (Safe (tenantBudget 50000) 10000 "USD")
        (.initial Redis.empty 0) s ∧
      s.grants = [36288, 36288, 39588, 39588] ∧ ∀ total ∈ s.grants, total ≤ 50000 := by
  refine Machine.ReachesBy.exists_of_runBy_imp settledLossRun
    (fun s => s.grants = [36288, 36288, 39588, 39588]) ?_ fun s hs hgrants => ⟨hgrants,
      grants_within (tenantBudget 50000) 10000 "USD" Redis.empty 0 s (by decide) (by decide) rfl hs⟩
  decide +kernel

/-- The keys are lost while a reservation is outstanding. The counter is armed with the recorded
spend, which is nothing yet, and a second process is granted the same room. -/
theorem lostCounter_overGrants :
    ∃ s, (lossMachine (tenantBudget 50000)).Reaches (.initial Redis.empty 0) s ∧
      s.grants = [36288, 36288, 72576, 72576] ∧ s.recorded = 0 ∧ s.outstanding = 72576 := by
  apply Machine.Reaches.exists_of_run (grantedRun 50000 0 0 ++ [.lose] ++ grantedRun 50000 1 0)
  decide +kernel

end NexusAgent.Cost.Tenant
