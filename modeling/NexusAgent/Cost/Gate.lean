import NexusAgent.Cost.Counters

/-!
# The budget gate

`Gate.Reserve` and `Gate.Reconcile` (`internal/cost/gate.go`, `reserve.go`, `reconcile.go`,
`gate_helpers.go`). A gate belongs to one process and caches what it has read from the
ledger; the ledger and the shared counters are outside of it, so that a call is cut where it
talks to them: `Gate.prepare` is `Reserve` up to the tenant counter, `admitTenant` reads the
counter's answer, `Gate.grant` is what follows the recorded decision. `Gate.reserve` puts the
parts together for a caller who is alone. What the ledger answers in a call is an argument of
the call.

- `Gate.prepare_spec`: what a call that gets as far as the tenant counter has read, priced and
  checked.
-/

namespace NexusAgent.Cost

/-- What a budget applies to. -/
inductive BudgetScope
  | tenant
  | session
  deriving DecidableEq

/-- A ceiling for a tenant or a session. -/
structure Budget where
  id : UUID
  scope : BudgetScope
  /-- The session of a session budget. -/
  scopeRef : Option UUID
  ceiling : Money
  /-- The generation of the tenant counter. -/
  epoch : Int64
  deriving DecidableEq

/-- Why a model call is made. -/
inductive Purpose
  | turn
  | compaction
  | safetyModel
  | hookPrompt
  | judge
  | title
  | embedding
  deriving DecidableEq

structure ReserveRequest where
  tenantID : UUID
  sessionID : UUID
  modelID : String
  purpose : Purpose

/-- How a reservation is resolved. -/
inductive DecisionKind
  | allow
  | refuseCeiling
  | degrade
  | skip
  deriving DecidableEq

/-- A resolution with its reason. -/
structure Decision where
  kind : DecisionKind
  reason : String
  budgetID : Option UUID := none
  /-- The worst-case amount that is reserved; zero for a skip or a refusal. -/
  reserved : Money

/-- What `Reserve` returns and `Reconcile` takes. -/
structure Reservation where
  id : UUID
  tenantID : UUID
  sessionID : UUID
  modelID : String
  decision : Decision
  sessionBudget : Option Budget := none
  tenantBudget : Option Budget := none
  tenantEpoch : Int64 := 0

/-- One row of the durable spend. -/
structure CostRecord where
  reservationID : Option UUID
  meter : MeterID
  quantity : Int64
  unit : String
  cost : Money
  modelID : String
  /-- Whether this is a reserved worst case and not measured usage. -/
  unreported : Bool := false
  deriving DecidableEq

/-- A registered meter. -/
structure Meter where
  unit : String
  /-- Whether it is reserved against ahead of time. -/
  reservable : Bool

/-- The registry a gate is given by default. -/
def defaultMeters : MeterID → Option Meter
  | .inputUncached => some { unit := "tokens", reservable := true }
  | .inputCacheRead => some { unit := "tokens", reservable := true }
  | .inputCacheWrite => some { unit := "tokens", reservable := true }
  | .output => some { unit := "tokens", reservable := true }
  | .embeddingTokens => some { unit := "tokens", reservable := true }
  | .sandboxSeconds => some { unit := "seconds", reservable := false }
  | .toolInvocations => some { unit := "count", reservable := false }
  | .unreportedReservation => none

/-- The tuning of a gate. -/
structure GateConfig where
  currency : String := ""
  maxInputTokenEstimate : Int64 := 0
  maxOutputTokenEstimate : Int64 := 0
  maxEmbeddingTokenEstimate : Int64 := 0
  degradeThresholdPercent : Int64 := 0
  deriving DecidableEq

/-- The tuning with its defaults filled in. -/
def GateConfig.withDefaults (c : GateConfig) : GateConfig where
  currency := if c.currency = "" then "USD" else c.currency
  maxInputTokenEstimate :=
    if c.maxInputTokenEstimate ≤ 0 then 8000 else c.maxInputTokenEstimate
  maxOutputTokenEstimate :=
    if c.maxOutputTokenEstimate ≤ 0 then 4096 else c.maxOutputTokenEstimate
  maxEmbeddingTokenEstimate :=
    if c.maxEmbeddingTokenEstimate ≤ 0 then 8000 else c.maxEmbeddingTokenEstimate
  degradeThresholdPercent :=
    if c.degradeThresholdPercent ≤ 0 then 80 else c.degradeThresholdPercent

/-- What a gate knows of a session: its budget and its running spend. -/
structure SessionCeilState where
  /-- The budget, or `none` when the session has none. -/
  budget : Option Budget
  /-- What this gate has reserved and charged for the session. -/
  spent : Money := {}

/-- The gate of one process. -/
structure Gate where
  cfg : GateConfig
  /-- Whether it has counters for tenant budgets. -/
  counters : Bool
  meters : MeterID → Option Meter
  priceBooks : UUID → Option PriceBook
  sessionState : UUID → Option SessionCeilState
  tenantCache : UUID → Option (Option Budget)
  armed : UUID → Bool

/-- A new gate: nothing is cached. -/
def newGate (counters : Bool) (meters : MeterID → Option Meter) (cfg : GateConfig) : Gate where
  cfg := cfg.withDefaults
  counters := counters
  meters := meters
  priceBooks := fun _ => none
  sessionState := fun _ => none
  tenantCache := fun _ => none
  armed := fun _ => false

/-- What the ledger answers while a reservation is prepared, and the time of the call. -/
structure ReserveAnswers where
  priceBook : Except String PriceBook
  sessionBudget : Except String (Option Budget)
  tenantBudget : Except String (Option Budget)
  now : ℤ

/-- A reservation on its way to the tenant counter. -/
structure Job where
  req : ReserveRequest
  worst : Money
  sessBudget : Option Budget
  tenBudget : Option Budget
  tentativeSessionSpent : Money
  /-- Whether a soft threshold has been crossed. -/
  softHit : Bool

/-- How far a reservation gets before the tenant counter. -/
inductive Prepared
  | refused (budgetID : Option UUID) (reserved : Money) (reason : String)
  /-- There is no budget to check against. -/
  | skip
  | proceed (job : Job)

def subjectOf (modelID : String) : String := if modelID = "" then wildcardSubject else modelID

def worstCaseCost (cfg : GateConfig) (pb : PriceBook) (modelID : String) (purpose : Purpose)
    (now : ℤ) : Except String Money :=
  let subject := subjectOf modelID
  if purpose = .embedding then
    pb.cost .embeddingTokens subject cfg.maxEmbeddingTokenEstimate now
  else do
    let input ← pb.cost .inputUncached subject cfg.maxInputTokenEstimate now
    let output ← pb.cost .output subject cfg.maxOutputTokenEstimate now
    input.add output

/-- The check of the session ceiling: the running spend with the reservation and whether
the soft threshold is crossed, or the reason of the refusal. -/
def checkSession (cfg : GateConfig) (spent worst : Money) :
    Option Budget → Except String (Money × Bool)
  | none => .ok ({}, false)
  | some b =>
    let current := if spent.currency = "" then Money.zero b.ceiling.currency else spent
    let tentative := Money.orZero (current.add worst)
    if b.ceiling.micros < tentative.micros then
      .error ("session budget ceiling " ++ b.ceiling.string
        ++ " exceeded (this reservation would reach " ++ tentative.string ++ ")")
    else
      let softHit := decide
        (b.ceiling.micros * cfg.degradeThresholdPercent ≤ tentative.micros * 100)
      .ok (tentative, softHit)

namespace Gate

/-- The price book of a tenant, cached after the first load. -/
def priceBookFor (g : Gate) (tenantID : UUID) (answer : Except String PriceBook) :
    Except String PriceBook × Gate :=
  match g.priceBooks tenantID, answer with
  | some pb, _ => (.ok pb, g)
  | none, .error err => (.error err, g)
  | none, .ok pb =>
    (.ok pb, { g with priceBooks := Function.update g.priceBooks tenantID (some pb) })

/-- The budget of a session, cached after the first lookup. -/
def sessionBudgetFor (g : Gate) (sessionID : UUID) (answer : Except String (Option Budget)) :
    Except String (Option Budget) × Gate :=
  match g.sessionState sessionID, answer with
  | some st, _ => (.ok st.budget, g)
  | none, .error err => (.error err, g)
  | none, .ok found =>
    let st : SessionCeilState := { budget := found }
    (.ok found, { g with sessionState := Function.update g.sessionState sessionID (some st) })

/-- The budget of a tenant, cached after the first lookup. -/
def tenantBudgetFor (g : Gate) (tenantID : UUID) (answer : Except String (Option Budget)) :
    Except String (Option Budget) × Gate :=
  match g.tenantCache tenantID, answer with
  | some b, _ => (.ok b, g)
  | none, .error err => (.error err, g)
  | none, .ok found =>
    (.ok found, { g with tenantCache := Function.update g.tenantCache tenantID (some found) })

/-- The running spend of a session; a session the gate has not seen has spent nothing, in
no currency. -/
def spentOf (g : Gate) (sessionID : UUID) : Money :=
  match g.sessionState sessionID with
  | some st => st.spent
  | none => {}

/-- `Reserve` up to the tenant counter. -/
def prepare (g : Gate) (a : ReserveAnswers) (req : ReserveRequest) : Prepared × Gate :=
  let zero := Money.zero g.cfg.currency
  match g.priceBookFor req.tenantID a.priceBook with
  | (.error err, g) =>
    (.refused none zero ("price book unavailable (fail closed): " ++ err), g)
  | (.ok pb, g) =>
    match worstCaseCost g.cfg pb req.modelID req.purpose a.now with
    | .error err =>
      (.refused none zero ("cannot price a worst-case reservation (fail closed): " ++ err), g)
    | .ok worst =>
      match g.sessionBudgetFor req.sessionID a.sessionBudget with
      | (.error err, g) =>
        (.refused none worst ("session budget lookup failed (fail closed): " ++ err), g)
      | (.ok sessBudget, g) =>
        match g.tenantBudgetFor req.tenantID a.tenantBudget with
        | (.error err, g) =>
          (.refused none worst ("tenant budget lookup failed (fail closed): " ++ err), g)
        | (.ok tenBudget, g) =>
          if sessBudget.isNone && tenBudget.isNone then (.skip, g)
          else
            match checkSession g.cfg (g.spentOf req.sessionID) worst sessBudget with
            | .error reason => (.refused (sessBudget.map Budget.id) worst reason, g)
            | .ok (tentative, softHit) =>
              let job : Job :=
                { req := req, worst := worst, sessBudget := sessBudget, tenBudget := tenBudget,
                  tentativeSessionSpent := tentative, softHit := softHit }
              (.proceed job, g)

end Gate

/-- The reading of the tenant counter's answer: whether the soft threshold is crossed, or the
reason of the refusal. -/
def admitTenant (cfg : GateConfig) (b : Budget) :
    Except String (ReserveOutcome × Int64) → Except String Bool
  | .error err => .error ("tenant budget check failed (fail closed): " ++ err)
  | .ok (.unavailable, _) =>
    .error "tenant budget epoch unavailable (fail closed, never assumed zero spend)"
  | .ok (.staleEpoch, _) =>
    .error "tenant budget epoch changed since last check (fail closed)"
  | .ok (.overCeiling, total) =>
    .error ("tenant budget ceiling " ++ b.ceiling.string ++ " exceeded (already at "
      ++ Money.string { micros := total, currency := b.ceiling.currency } ++ ")")
  | .ok (.ok, total) =>
    .ok (decide (b.ceiling.micros * cfg.degradeThresholdPercent ≤ total * 100))

def decisionReason (kind : DecisionKind) (sessBudget tenBudget : Option Budget) : String :=
  if kind = .degrade then
    "reservation fit but crossed the soft threshold toward a configured ceiling"
  else
    let session := if sessBudget.isSome then ["session ceiling has room"] else []
    let tenant := if tenBudget.isSome then ["tenant ceiling has room"] else []
    "; ".intercalate (session ++ tenant)

namespace Job

/-- A job after one more look at a soft threshold. -/
def soften (job : Job) (soft : Bool) : Job := { job with softHit := job.softHit || soft }

def decision (job : Job) : Decision :=
  let kind := if job.softHit then DecisionKind.degrade else .allow
  { kind := kind, reason := decisionReason kind job.sessBudget job.tenBudget,
    budgetID := (job.sessBudget.or job.tenBudget).map Budget.id, reserved := job.worst }

/-- The granted reservation. -/
def reservation (job : Job) (id : UUID) : Reservation :=
  { id := id, tenantID := job.req.tenantID, sessionID := job.req.sessionID,
    modelID := job.req.modelID, decision := job.decision, sessionBudget := job.sessBudget,
    tenantBudget := job.tenBudget,
    tenantEpoch := match job.tenBudget with
      | some b => b.epoch
      | none => 0 }

end Job

def refusal (req : ReserveRequest) (id : UUID) (budgetID : Option UUID) (reserved : Money)
    (reason : String) : Reservation :=
  { id := id, tenantID := req.tenantID, sessionID := req.sessionID, modelID := req.modelID,
    decision := { kind := .refuseCeiling, reason := reason, budgetID := budgetID,
                  reserved := Money.zero reserved.currency } }

def skipped (cfg : GateConfig) (req : ReserveRequest) (id : UUID) : Reservation :=
  { id := id, tenantID := req.tenantID, sessionID := req.sessionID, modelID := req.modelID,
    decision := { kind := .skip, reason := "no session- or tenant-scoped budget configured",
                  reserved := Money.zero cfg.currency } }

/-- What the counters answer in a reservation. -/
structure TenantAnswers where
  /-- Why arming the counter failed: the sum of the records or the call itself. -/
  arm : Option String := none
  reserve : Except String (ReserveOutcome × Int64)

namespace Gate

/-- The session's running spend is set once the decision is recorded. -/
def grant (g : Gate) (job : Job) : Gate :=
  match job.sessBudget with
  | none => g
  | some b =>
    let st : SessionCeilState := { budget := some b, spent := job.tentativeSessionSpent }
    { g with sessionState := Function.update g.sessionState job.req.sessionID (some st) }

/-- The tenant part of `Reserve`, for the answers of the counters. -/
def tenantStage (g : Gate) (job : Job) (t : TenantAnswers) : Except String Job × Gate :=
  match job.tenBudget with
  | none => (.ok job, g)
  | some b =>
    if !g.counters then
      (.error "tenant budget configured but no counter is wired (fail closed)", g)
    else
      match g.armed b.id, t.arm with
      | false, some err =>
        (.error ("tenant budget epoch unavailable (fail closed): " ++ err), g)
      | _, _ =>
        let g := { g with armed := Function.update g.armed b.id true }
        match admitTenant g.cfg b t.reserve with
        | .error reason => (.error reason, g)
        | .ok soft => (.ok (job.soften soft), g)

/-- `Gate.Reserve` of a caller who is alone: the reservation, the error of a refusal, and
the gate afterwards. `persist` is why recording the decision failed. -/
def reserve (g : Gate) (a : ReserveAnswers) (t : TenantAnswers) (persist : Option String)
    (id : UUID) (req : ReserveRequest) : (Reservation × Option String) × Gate :=
  let refuse (budgetID : Option UUID) (reserved : Money) (reason : String) :=
    (refusal req id budgetID reserved reason, some ("cost: " ++ reason))
  match g.prepare a req with
  | (.refused budgetID reserved reason, g) => (refuse budgetID reserved reason, g)
  | (.skip, g) => ((skipped g.cfg req id, none), g)
  | (.proceed job, g) =>
    match g.tenantStage job t with
    | (.error reason, g) => (refuse (job.tenBudget.map Budget.id) job.worst reason, g)
    | (.ok job, g) =>
      match persist with
      | some err =>
        (refuse job.decision.budgetID job.worst
          ("failed to record budget decision (fail closed): " ++ err), g)
      | none => ((job.reservation id, none), g.grant job)

/-! ### Prices that fit -/

end Gate

/-- The estimates of a gate's worst case are between zero and `Q` tokens. -/
structure GateConfig.EstimatesWithin (c : GateConfig) (Q : ℤ) : Prop where
  input : 0 ≤ c.maxInputTokenEstimate.toInt ∧ c.maxInputTokenEstimate.toInt ≤ Q
  output : 0 ≤ c.maxOutputTokenEstimate.toInt ∧ c.maxOutputTokenEstimate.toInt ≤ Q
  embedding : 0 ≤ c.maxEmbeddingTokenEstimate.toInt ∧ c.maxEmbeddingTokenEstimate.toInt ≤ Q

instance (c : GateConfig) (Q : ℤ) : Decidable (c.EstimatesWithin Q) :=
  decidable_of_iff
    ((0 ≤ c.maxInputTokenEstimate.toInt ∧ c.maxInputTokenEstimate.toInt ≤ Q) ∧
      (0 ≤ c.maxOutputTokenEstimate.toInt ∧ c.maxOutputTokenEstimate.toInt ≤ Q) ∧
      0 ≤ c.maxEmbeddingTokenEstimate.toInt ∧ c.maxEmbeddingTokenEstimate.toInt ≤ Q)
    ⟨fun h => ⟨h.1, h.2.1, h.2.2⟩, fun h => ⟨h.input, h.output, h.embedding⟩⟩

variable {cfg : GateConfig} {worst : Money} {pb : PriceBook} {purpose : Purpose} {modelID : String}
  {now : ℤ}

section

variable (h : worstCaseCost cfg pb modelID purpose now = .ok worst)
include h

lemma worstCaseCost_ok :
    pb.cost .embeddingTokens (subjectOf modelID) cfg.maxEmbeddingTokenEstimate now = .ok worst ∨
      ∃ input output,
        pb.cost .inputUncached (subjectOf modelID) cfg.maxInputTokenEstimate now = .ok input ∧
        pb.cost .output (subjectOf modelID) cfg.maxOutputTokenEstimate now = .ok output ∧
        worst = { micros := input.micros + output.micros, currency := input.currency } := by
  simp only [worstCaseCost] at h
  split_ifs at h with hpurpose
  · exact .inl h
  · cases hin : pb.cost .inputUncached (subjectOf modelID) cfg.maxInputTokenEstimate now with
    | error e => simp [hin, bind, Except.bind] at h
    | ok input =>
      cases hout : pb.cost .output (subjectOf modelID) cfg.maxOutputTokenEstimate now with
      | error e => simp [hin, hout, bind, Except.bind] at h
      | ok output =>
        simp only [hin, hout, bind, Except.bind] at h
        by_cases hcur : input.currency = output.currency
        · rw [Money.add_of_eq hcur] at h
          exact .inr ⟨input, output, rfl, rfl, (Except.ok.inj h).symm⟩
        · obtain ⟨e, he⟩ := Money.add_of_ne hcur
          rw [he] at h
          simp at h

theorem worstCaseCost_bounds {Q : ℤ} (hcfg : cfg.EstimatesWithin Q) (hfits : pb.Fits Q) :
    0 ≤ worst.micros.toInt ∧ worst.micros.toInt < 2 ^ 45 := by
  have hbounds {meter : MeterID} {q : Int64} {c : Money} (hq : 0 ≤ q.toInt ∧ q.toInt ≤ Q)
      (hc : pb.cost meter (subjectOf modelID) q now = .ok c) :
      0 ≤ c.micros.toInt ∧ c.micros.toInt < 2 ^ 44 :=
    PriceBook.cost_bounds hc hq.1 (hfits.mono hq.2)
  rcases worstCaseCost_ok h with hemb | ⟨input, output, hin, hout, rfl⟩
  · have hworst := hbounds hcfg.embedding hemb
    omega
  · have hinput := hbounds hcfg.input hin
    have houtput := hbounds hcfg.output hout
    have hsum : (input.micros + output.micros).toInt
        = input.micros.toInt + output.micros.toInt :=
      toInt_add_of_lt (by omega) (by omega)
    simp only [hsum]
    omega

lemma worstCaseCost_currency {currency : String} (hcur : pb.InCurrency currency) :
    worst.currency = currency := by
  rcases worstCaseCost_ok h with hemb | ⟨input, output, hin, hout, rfl⟩
  · exact PriceBook.cost_currency hemb hcur
  · show input.currency = currency
    exact PriceBook.cost_currency hin hcur

end

namespace Gate

/-- The price book a call of a tenant computes with fits the quantity `Q`. -/
def BookFits (g : Gate) (tenantID : UUID) (answer : Except String PriceBook) (Q : ℤ) : Prop :=
  match (g.priceBookFor tenantID answer).1 with
  | .ok pb => pb.Fits Q
  | .error _ => True

instance (g : Gate) (tenantID : UUID) (answer : Except String PriceBook) (Q : ℤ) :
    Decidable (g.BookFits tenantID answer Q) := by
  unfold BookFits
  split <;> infer_instance

lemma BookFits.fits {g : Gate} {tenantID : UUID} {answer : Except String PriceBook} {Q : ℤ}
    {pb : PriceBook} (h : g.BookFits tenantID answer Q)
    (hpb : (g.priceBookFor tenantID answer).1 = .ok pb) : pb.Fits Q := by
  unfold BookFits at h
  rwa [hpb] at h

/-! ### What a prepared reservation has gone through -/

/-- A call that goes on to the tenant counter has priced the worst case with the tenant's
price book and passed the check of the session ceiling. -/
structure Proceeds (g : Gate) (a : ReserveAnswers) (req : ReserveRequest) (job : Job) :
    Prop where
  req_eq : job.req = req
  priced : ∃ pb, (g.priceBookFor req.tenantID a.priceBook).1 = .ok pb ∧
    worstCaseCost g.cfg pb req.modelID req.purpose a.now = .ok job.worst
  session : (g.sessionBudgetFor req.sessionID a.sessionBudget).1 = .ok job.sessBudget
  tenant : (g.tenantBudgetFor req.tenantID a.tenantBudget).1 = .ok job.tenBudget
  checked : checkSession g.cfg (g.spentOf req.sessionID) job.worst job.sessBudget
    = .ok (job.tentativeSessionSpent, job.softHit)

/-- What reading the ledger changes in a gate: the caches are filled from the answers, and
nothing is spent. -/
structure Loaded (g : Gate) (a : ReserveAnswers) (req : ReserveRequest) (g' : Gate) :
    Prop where
  cfg_eq : g'.cfg = g.cfg
  /-- A price book that is cached now was cached before or has just been read. -/
  priceBooks : ∀ t pb, g'.priceBooks t = some pb → g.priceBooks t = some pb ∨
    a.priceBook = .ok pb
  /-- A session that is cached now was cached before or has just been read. -/
  sessions : ∀ sid st, g'.sessionState sid = some st → g.sessionState sid = some st ∨
    a.sessionBudget = .ok st.budget
  kept : ∀ sid, g.sessionState sid ≠ none → g'.sessionState sid = g.sessionState sid
  spent_eq : ∀ sid, g'.spentOf sid = g.spentOf sid

variable {g g₁ g₂ : Gate} {a : ReserveAnswers} {req : ReserveRequest}

lemma Loaded.refl : g.Loaded a req g :=
  ⟨rfl, fun _ _ => .inl, fun _ _ => .inl, fun _ _ => rfl, fun _ => rfl⟩

lemma Loaded.trans (h₁ : g.Loaded a req g₁) (h₂ : g₁.Loaded a req g₂) : g.Loaded a req g₂ where
  cfg_eq := h₂.cfg_eq.trans h₁.cfg_eq
  priceBooks t pb h := by
    rcases h₂.priceBooks t pb h with h | h
    · exact h₁.priceBooks t pb h
    · exact .inr h
  sessions sid st h := by
    rcases h₂.sessions sid st h with h | h
    · exact h₁.sessions sid st h
    · exact .inr h
  kept sid h := by
    have h' := h₁.kept sid h
    rw [h₂.kept sid (by rwa [h']), h']
  spent_eq sid := (h₂.spent_eq sid).trans (h₁.spent_eq sid)

lemma loaded_priceBookFor (g : Gate) (a : ReserveAnswers) (req : ReserveRequest) :
    g.Loaded a req (g.priceBookFor req.tenantID a.priceBook).2 := by
  unfold priceBookFor
  split
  · exact Loaded.refl
  · exact Loaded.refl
  · next pb hnone hanswer =>
    refine ⟨rfl, fun t pb' h => ?_, fun _ _ => .inl, fun _ _ => rfl, fun _ => rfl⟩
    by_cases ht : t = req.tenantID
    · subst ht
      simp only [Function.update_self] at h
      rw [← Option.some.inj h]
      exact .inr hanswer
    · simp only [Function.update_of_ne ht] at h
      exact .inl h

/-- Looking a session budget up fills the cache of sessions, with nothing spent. -/
lemma loaded_sessionBudgetFor (g : Gate) (a : ReserveAnswers) (req : ReserveRequest) :
    g.Loaded a req (g.sessionBudgetFor req.sessionID a.sessionBudget).2 := by
  unfold sessionBudgetFor
  split
  · exact Loaded.refl
  · exact Loaded.refl
  · next found hnone hanswer =>
    refine ⟨rfl, fun _ _ => .inl, fun sid st h => ?_, fun sid h => ?_, fun sid => ?_⟩
    · by_cases hs : sid = req.sessionID
      · subst hs
        simp only [Function.update_self] at h
        rw [← Option.some.inj h]
        exact .inr hanswer
      · simp only [Function.update_of_ne hs] at h
        exact .inl h
    · have hs : sid ≠ req.sessionID := fun hs => h (hs ▸ hnone)
      simp only [Function.update_of_ne hs]
    · by_cases hs : sid = req.sessionID
      · subst hs
        simp [spentOf, hnone]
      · simp [spentOf, Function.update_of_ne hs]

lemma loaded_tenantBudgetFor (g : Gate) (a : ReserveAnswers) (req : ReserveRequest) :
    g.Loaded a req (g.tenantBudgetFor req.tenantID a.tenantBudget).2 := by
  unfold tenantBudgetFor
  split
  · exact Loaded.refl
  · exact Loaded.refl
  · exact ⟨rfl, fun _ _ => .inl, fun _ _ => .inl, fun _ _ => rfl, fun _ => rfl⟩

/-- A price book is loaded without a change of the tuning. -/
lemma cfg_priceBookFor (g : Gate) (t : UUID) (answer : Except String PriceBook) :
    (g.priceBookFor t answer).2.cfg = g.cfg := by
  unfold priceBookFor
  split <;> rfl

lemma priceBookFor_frame (g : Gate) (t : UUID) (answer : Except String PriceBook) :
    (g.priceBookFor t answer).2.sessionState = g.sessionState ∧
      (g.priceBookFor t answer).2.tenantCache = g.tenantCache := by
  unfold priceBookFor
  split <;> exact ⟨rfl, rfl⟩

lemma sessionBudgetFor_frame (g : Gate) (sid : UUID) (answer : Except String (Option Budget)) :
    (g.sessionBudgetFor sid answer).2.tenantCache = g.tenantCache := by
  unfold sessionBudgetFor
  split <;> rfl

/-- What a session lookup finds depends on the cached sessions only. -/
lemma sessionBudgetFor_congr (h : g₁.sessionState = g.sessionState) (sid : UUID)
    (answer : Except String (Option Budget)) :
    (g₁.sessionBudgetFor sid answer).1 = (g.sessionBudgetFor sid answer).1 := by
  unfold sessionBudgetFor
  rw [h]
  split <;> rfl

lemma tenantBudgetFor_congr (h : g₁.tenantCache = g.tenantCache) (t : UUID)
    (answer : Except String (Option Budget)) :
    (g₁.tenantBudgetFor t answer).1 = (g.tenantBudgetFor t answer).1 := by
  unfold tenantBudgetFor
  rw [h]
  split <;> rfl

/-- Preparing a reservation fills the caches, and a reservation that goes on has been priced
and checked. -/
lemma prepare_spec (g : Gate) (a : ReserveAnswers) (req : ReserveRequest) :
    g.Loaded a req (g.prepare a req).2 ∧
      ∀ job, (g.prepare a req).1 = .proceed job → g.Proceeds a req job := by
  unfold prepare
  have hload₁ := loaded_priceBookFor g a req
  have hframe₁ := priceBookFor_frame g req.tenantID a.priceBook
  rcases hbook : g.priceBookFor req.tenantID a.priceBook with ⟨err | pb, g₁⟩
  · rw [hbook] at hload₁
    exact ⟨hload₁, by simp⟩
  rw [hbook] at hload₁ hframe₁
  dsimp only
  cases hworst : worstCaseCost g₁.cfg pb req.modelID req.purpose a.now with
  | error err => exact ⟨hload₁, by simp⟩
  | ok worst =>
    have hload₂ := hload₁.trans (loaded_sessionBudgetFor g₁ a req)
    have hframe₂ := sessionBudgetFor_frame g₁ req.sessionID a.sessionBudget
    have hsess := sessionBudgetFor_congr hframe₁.1 req.sessionID a.sessionBudget
    rcases hsession : g₁.sessionBudgetFor req.sessionID a.sessionBudget with ⟨err | sess, g₂⟩
    · rw [hsession] at hload₂
      exact ⟨hload₂, by simp⟩
    rw [hsession] at hload₂ hframe₂ hsess
    dsimp only at hframe₂ hsess ⊢
    have hload₃ := hload₂.trans (loaded_tenantBudgetFor g₂ a req)
    have hten := tenantBudgetFor_congr (hframe₂.trans hframe₁.2) req.tenantID a.tenantBudget
    rcases htenant : g₂.tenantBudgetFor req.tenantID a.tenantBudget with ⟨err | ten, g₃⟩
    · rw [htenant] at hload₃
      exact ⟨hload₃, by simp⟩
    rw [htenant] at hload₃ hten
    dsimp only at hten ⊢
    by_cases hskip : (sess.isNone && ten.isNone) = true
    · rw [if_pos hskip]
      exact ⟨hload₃, by simp⟩
    rw [if_neg hskip]
    cases hcheck : checkSession g₃.cfg (g₃.spentOf req.sessionID) worst sess with
    | error reason => exact ⟨hload₃, by simp⟩
    | ok res =>
      refine ⟨hload₃, fun job hjob => ?_⟩
      obtain rfl := Prepared.proceed.inj hjob
      rw [hload₃.cfg_eq, hload₃.spent_eq] at hcheck
      rw [hload₁.cfg_eq] at hworst
      exact ⟨rfl, ⟨pb, by rw [hbook], hworst⟩, hsess.symm, hten.symm, hcheck⟩

/-! ### What a reservation does -/

/-- The tenant part of a reservation leaves the caches alone, and changes a job only by the
soft threshold. -/
lemma tenantStage_spec (g : Gate) (job : Job) (t : TenantAnswers) (a : ReserveAnswers)
    (req : ReserveRequest) :
    g.Loaded a req (g.tenantStage job t).2 ∧
      ∀ job', (g.tenantStage job t).1 = .ok job' → ∃ soft, job' = job.soften soft := by
  have harmed (f : UUID → Bool) : g.Loaded a req { g with armed := f } :=
    ⟨rfl, fun _ _ => .inl, fun _ _ => .inl, fun _ _ => rfl, fun _ => rfl⟩
  unfold tenantStage
  cases job.tenBudget with
  | none =>
    have hsame : job.soften false = job := by simp [Job.soften]
    exact ⟨Loaded.refl, fun job' h => ⟨false, by rw [hsame]; exact (Except.ok.inj h).symm⟩⟩
  | some b =>
    dsimp only
    by_cases hwired : (!g.counters) = true
    · rw [if_pos hwired]
      exact ⟨Loaded.refl, fun job' h => nomatch h⟩
    rw [if_neg hwired]
    split
    · exact ⟨Loaded.refl, fun job' h => nomatch h⟩
    · cases hadmit : admitTenant g.cfg b t.reserve with
      | error reason => exact ⟨harmed _, fun job' h => nomatch h⟩
      | ok soft => exact ⟨harmed _, fun job' h => ⟨_, (Except.ok.inj h).symm⟩⟩

/-- A reservation that is granted has been priced and checked and its amount is added to the
session's running spend; one that is not granted adds nothing. -/
lemma reserve_spec (g : Gate) (a : ReserveAnswers) (t : TenantAnswers) (persist : Option String)
    (id : UUID) (req : ReserveRequest) :
    (g.Loaded a req (g.reserve a t persist id req).2 ∧
      ((g.reserve a t persist id req).1.1.decision.kind = .refuseCeiling ∨
        (g.reserve a t persist id req).1.1.decision.kind = .skip)) ∨
    ∃ g' job soft, g.Loaded a req g' ∧ g.Proceeds a req job ∧
      (g.reserve a t persist id req).1.1 = (job.soften soft).reservation id ∧
      (g.reserve a t persist id req).2 = g'.grant job := by
  obtain ⟨hload, hproceeds⟩ := prepare_spec g a req
  unfold reserve
  rcases hprep : g.prepare a req with ⟨budgetID | _ | job, g₁⟩ <;> rw [hprep] at hload
  · exact .inl ⟨hload, .inl rfl⟩
  · exact .inl ⟨hload, .inr rfl⟩
  dsimp only
  obtain ⟨hload', hjob⟩ := tenantStage_spec g₁ job t a req
  rcases hten : g₁.tenantStage job t with ⟨reason | job', g₂⟩ <;> rw [hten] at hload' hjob
  · exact .inl ⟨hload.trans hload', .inl rfl⟩
  obtain ⟨soft, rfl⟩ := hjob job' rfl
  cases persist with
  | some err => exact .inl ⟨hload.trans hload', .inl rfl⟩
  | none =>
    exact .inr ⟨g₂, job, soft, hload.trans hload', hproceeds job (by rw [hprep]), rfl, rfl⟩

end Gate

lemma Job.decision_kind (job : Job) :
    job.decision.kind = .allow ∨ job.decision.kind = .degrade := by
  cases h : job.softHit with
  | true => exact .inr (by simp [Job.decision, h])
  | false => exact .inl (by simp [Job.decision, h])

/-- `Reserve` changes the running spend of its own session only, and of that one only if it grants
the reservation and the ceiling covers the new spend. -/
theorem Gate.spentOf_reserve (g : Gate) (a : ReserveAnswers) (t : TenantAnswers)
    (persist : Option String) (id : UUID) (req : ReserveRequest) (sid : UUID) :
    let r := g.reserve a t persist id req
    r.2.spentOf sid = g.spentOf sid ∨
      sid = req.sessionID ∧ (r.1.1.decision.kind = .allow ∨ r.1.1.decision.kind = .degrade) ∧
        ∃ b ∈ r.1.1.sessionBudget, (r.2.spentOf sid).micros ≤ b.ceiling.micros := by
  dsimp only
  obtain ⟨hload, -⟩ | ⟨g', job, soft, hload, hjob, hres, hgate⟩ := g.reserve_spec a t persist id req
  · exact .inl (hload.spent_eq sid)
  have hchecked := hjob.checked
  rw [hres, hgate, grant]
  cases hb : job.sessBudget with
  | none => exact .inl (hload.spent_eq sid)
  | some b =>
    by_cases hsid : sid = job.req.sessionID
    · refine .inr ⟨hjob.req_eq ▸ hsid, (job.soften soft).decision_kind, b, hb, ?_⟩
      -- the check let the reservation through, so the new spend is within the ceiling
      rw [hb] at hchecked
      obtain ⟨-, h⟩ | ⟨hover, h⟩ := ite_eq_iff.1 hchecked
      · cases h
      · have hspent := (Prod.mk.inj (Except.ok.inj h)).1
        simpa [spentOf, hsid, ← hspent] using hover
    · exact .inl (by simpa [spentOf, Function.update_of_ne hsid] using hload.spent_eq sid)

end NexusAgent.Cost
