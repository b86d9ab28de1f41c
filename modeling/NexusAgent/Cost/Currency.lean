import NexusAgent.Cost.Gate

/-!
# Currencies in a reservation

`Reserve` (`internal/cost/reserve.go`) compares amounts. The currency of the worst case is looked
at only where it is added to the running spend of the session, and the error of that sum is
dropped: the running spend is then nothing in no currency. The tenant counter is given an amount
without a currency.
-/

namespace NexusAgent.Cost

/-! ### The checks of a reservation -/

/-- What the session's running spend would be in micros, as `Reserve` computes it. -/
def tentativeMicros (spent worst ceiling : Money) : Int64 :=
  if (if spent.currency = "" then ceiling.currency else spent.currency) = worst.currency then
    (if spent.currency = "" then 0 else spent.micros) + worst.micros
  else 0

/-- A sum whose error is dropped: nothing where the currencies differ. -/
lemma Money.micros_orZero_add (m c : Money) :
    (Money.orZero (m.add c)).micros =
      if m.currency = c.currency then m.micros + c.micros else 0 := by
  split_ifs with hsame
  · rw [Money.add_of_eq hsame]
    rfl
  · obtain ⟨err, herr⟩ := Money.add_of_ne hsame
    rw [herr]
    rfl

/-- The session check refuses a reservation by its amount only. -/
lemma checkSession_error_iff (cfg : GateConfig) (spent worst : Money) (b : Budget) :
    (∃ reason, checkSession cfg spent worst (some b) = .error reason) ↔
      b.ceiling.micros < tentativeMicros spent worst b.ceiling := by
  have htentative : (Money.orZero ((if spent.currency = "" then Money.zero b.ceiling.currency
      else spent).add worst)).micros = tentativeMicros spent worst b.ceiling := by
    rw [Money.micros_orZero_add, tentativeMicros]
    by_cases hnone : spent.currency = "" <;> simp [hnone, Money.zero]
  simp only [checkSession, htentative]
  by_cases hover : b.ceiling.micros < tentativeMicros spent worst b.ceiling <;> simp [hover]

namespace Gate

/-- The tenant counter is not wired, cannot be armed or does not grant the reservation. -/
def TenantRefuses (g : Gate) (t : TenantAnswers) (b : Budget) : Prop :=
  g.counters = false ∨ (g.armed b.id = false ∧ t.arm.isSome) ∨
    ∀ total, t.reserve ≠ .ok (.ok, total)

/-- A counter's answer is admitted when it is a grant. -/
lemma admitTenant_error_iff (cfg : GateConfig) (b : Budget)
    (answer : Except String (ReserveOutcome × Int64)) :
    (∃ reason, admitTenant cfg b answer = .error reason) ↔ ∀ total, answer ≠ .ok (.ok, total) := by
  rcases answer with err | ⟨outcome, total⟩
  · simp [admitTenant]
  · cases outcome <;> simp [admitTenant]

/-- The tenant part of a reservation refuses it by the counter's answers only. -/
lemma tenantStage_error_iff (g : Gate) (job : Job) (t : TenantAnswers) :
    (∃ reason, (g.tenantStage job t).1 = .error reason) ↔
      ∃ b ∈ job.tenBudget, g.TenantRefuses t b := by
  unfold tenantStage
  cases job.tenBudget with
  | none => simp
  | some b =>
    simp only [Option.mem_def, Option.some.injEq, exists_eq_left', TenantRefuses]
    rw [← admitTenant_error_iff g.cfg b]
    by_cases hwired : g.counters = false
    · simp [hwired]
    rw [if_neg (by simpa using hwired)]
    simp only [hwired]
    split
    next harmed harm => simp [harmed, harm]
    next hopen =>
      -- the counter is armed or could be
      have harm : ¬ (g.armed b.id = false ∧ t.arm.isSome) := by
        rintro ⟨harmed, hsome⟩
        obtain ⟨err, herr⟩ := Option.isSome_iff_exists.1 hsome
        exact hopen err harmed herr
      simp only [harm, false_or]
      cases admitTenant g.cfg b t.reserve <;> simp

/-! ### Reservations -/

structure Found (g : Gate) (a : ReserveAnswers) (req : ReserveRequest) (worst : Money)
    (sess ten : Option Budget) : Prop where
  priced : ∃ pb, (g.priceBookFor req.tenantID a.priceBook).1 = .ok pb ∧
    worstCaseCost g.cfg pb req.modelID req.purpose a.now = .ok worst
  session : (g.sessionBudgetFor req.sessionID a.sessionBudget).1 = .ok sess
  tenant : (g.tenantBudgetFor req.tenantID a.tenantBudget).1 = .ok ten

section

variable {g : Gate} {a : ReserveAnswers} {req : ReserveRequest} {worst : Money}
  {sess ten : Option Budget}

lemma lookups_frame (g : Gate) (a : ReserveAnswers) (req : ReserveRequest) :
    ((g.priceBookFor req.tenantID a.priceBook).2.counters = g.counters ∧
      (g.priceBookFor req.tenantID a.priceBook).2.armed = g.armed) ∧
    ((g.sessionBudgetFor req.sessionID a.sessionBudget).2.counters = g.counters ∧
      (g.sessionBudgetFor req.sessionID a.sessionBudget).2.armed = g.armed) ∧
    (g.tenantBudgetFor req.tenantID a.tenantBudget).2.counters = g.counters ∧
      (g.tenantBudgetFor req.tenantID a.tenantBudget).2.armed = g.armed := by
  unfold priceBookFor sessionBudgetFor tenantBudgetFor
  refine ⟨?_, ?_, ?_⟩ <;> split <;> exact ⟨rfl, rfl⟩

/-- A reservation with a budget is refused by the session check or goes on to the tenant's. -/
lemma prepare_of_found (h : g.Found a req worst sess ten)
    (hbudget : (sess.isNone && ten.isNone) = false) :
    ∃ g', g.prepare a req = (match checkSession g.cfg (g.spentOf req.sessionID) worst sess with
        | .error reason => .refused (sess.map Budget.id) worst reason
        | .ok (tentative, softHit) => .proceed
            { req, worst, sessBudget := sess, tenBudget := ten
              tentativeSessionSpent := tentative, softHit }, g') ∧
      g'.counters = g.counters ∧ g'.armed = g.armed := by
  obtain ⟨⟨pb, hpb, hworst⟩, hsess, hten⟩ := h
  have hload₁ := loaded_priceBookFor g a req
  have hframe₁ := priceBookFor_frame g req.tenantID a.priceBook
  have hkept₁ := (lookups_frame g a req).1
  unfold prepare
  rcases hbook : g.priceBookFor req.tenantID a.priceBook with ⟨found, g₁⟩
  rw [hbook] at hpb hload₁ hframe₁ hkept₁
  obtain rfl : found = .ok pb := hpb
  rw [← sessionBudgetFor_congr hframe₁.1] at hsess
  rw [← hload₁.cfg_eq] at hworst
  simp only [hworst]
  have hload₂ := hload₁.trans (loaded_sessionBudgetFor g₁ a req)
  have hframe₂ := sessionBudgetFor_frame g₁ req.sessionID a.sessionBudget
  have hkept₂ := (lookups_frame g₁ a req).2.1
  rcases hsession : g₁.sessionBudgetFor req.sessionID a.sessionBudget with ⟨found, g₂⟩
  rw [hsession] at hsess hload₂ hframe₂ hkept₂
  obtain rfl : found = .ok sess := hsess
  rw [← tenantBudgetFor_congr (hframe₂.trans hframe₁.2)] at hten
  have hload₃ := hload₂.trans (loaded_tenantBudgetFor g₂ a req)
  have hkept₃ := (lookups_frame g₂ a req).2.2
  simp only
  rcases htenant : g₂.tenantBudgetFor req.tenantID a.tenantBudget with ⟨found, g₃⟩
  rw [htenant] at hten hload₃ hkept₃
  obtain rfl : found = .ok ten := hten
  rw [← hload₃.cfg_eq, ← hload₃.spent_eq]
  refine ⟨g₃, ?_, hkept₃.1.trans (hkept₂.1.trans hkept₁.1),
    hkept₃.2.trans (hkept₂.2.trans hkept₁.2)⟩
  simp only [hbudget, Bool.false_eq_true, if_false]
  rcases checkSession g₃.cfg (g₃.spentOf req.sessionID) worst sess with reason | ⟨tentative, soft⟩
  all_goals rfl

/-- One of the checks refuses a reservation: its amount is over the session ceiling, the tenant
counter does not grant it, or the decision cannot be recorded. -/
def Refuses (g : Gate) (req : ReserveRequest) (worst : Money) (sess ten : Option Budget)
    (t : TenantAnswers) (persist : Option String) : Prop :=
  (∃ b ∈ sess, b.ceiling.micros < tentativeMicros (g.spentOf req.sessionID) worst b.ceiling) ∨
    (∃ b ∈ ten, g.TenantRefuses t b) ∨ persist.isSome

/-- A reservation with a budget returns an error exactly when one of the checks refuses it. -/
theorem reserve_refused_iff (h : g.Found a req worst sess ten)
    (hbudget : (sess.isNone && ten.isNone) = false) (t : TenantAnswers) (persist : Option String)
    (id : UUID) :
    (g.reserve a t persist id req).1.2.isSome ↔ g.Refuses req worst sess ten t persist := by
  obtain ⟨g', hprep, hcounters, harmed⟩ := prepare_of_found h hbudget
  have hsession : (∃ reason, checkSession g.cfg (g.spentOf req.sessionID) worst sess =
      .error reason) ↔ ∃ b ∈ sess, b.ceiling.micros <
        tentativeMicros (g.spentOf req.sessionID) worst b.ceiling := by
    cases sess with
    | none => simp [checkSession]
    | some b => simp [checkSession_error_iff]
  unfold reserve Refuses
  rw [hprep, ← hsession]
  rcases hcheck : checkSession g.cfg (g.spentOf req.sessionID) worst sess with
    reason | ⟨tentative, softHit⟩
  · simp
  · dsimp only
    generalize hjob : Job.mk req worst sess ten tentative softHit = job
    have hstage := tenantStage_error_iff g' job t
    have hten : job.tenBudget = ten := by rw [← hjob]
    -- the gate has filled its caches, which the counters do not look at
    have hsame : (∃ b ∈ ten, g'.TenantRefuses t b) ↔ ∃ b ∈ ten, g.TenantRefuses t b := by
      simp [TenantRefuses, hcounters, harmed]
    rw [hten, hsame] at hstage
    rw [← hstage]
    rcases g'.tenantStage job t with ⟨reason | job', g''⟩
    · simp
    · cases persist <;> simp

end

/-! ### Other currencies -/

/-- The currency of the worst case differs from that of a ceiling. -/
def Mismatch (worst : Money) (sess ten : Option Budget) : Prop :=
  ∃ b, (b ∈ sess ∨ b ∈ ten) ∧ b.ceiling.currency ≠ worst.currency

/-- `Reserve` returns a refusal and leaves the running spend of the session as it was. -/
def FailsClosed (g : Gate) (a : ReserveAnswers) (t : TenantAnswers) (persist : Option String)
    (id : UUID) (req : ReserveRequest) : Prop :=
  (g.reserve a t persist id req).1.2.isSome ∧
    (g.reserve a t persist id req).1.1.decision.kind = .refuseCeiling ∧
    (g.reserve a t persist id req).2.spentOf req.sessionID = g.spentOf req.sessionID

/-- A reservation that returns an error is refused, and nothing is spent. -/
lemma failsClosed_of_isSome {g : Gate} {a : ReserveAnswers} {t : TenantAnswers}
    {persist : Option String} {id : UUID} {req : ReserveRequest}
    (h : (g.reserve a t persist id req).1.2.isSome) : g.FailsClosed a t persist id req := by
  refine ⟨h, ?_⟩
  have hload := (prepare_spec g a req).1
  unfold reserve at h ⊢
  generalize g.prepare a req = prepared at hload h ⊢
  obtain ⟨_ | _ | job, g₁⟩ := prepared
  · exact ⟨rfl, hload.spent_eq req.sessionID⟩
  · nomatch h
  have hload' := hload.trans (tenantStage_spec g₁ job t a req).1
  dsimp only at h ⊢
  generalize g₁.tenantStage job t = stage at hload' h ⊢
  obtain ⟨reason | job', g₂⟩ := stage
  · exact ⟨rfl, hload'.spent_eq req.sessionID⟩
  cases persist with
  | none => nomatch h
  | some err => exact ⟨rfl, hload'.spent_eq req.sessionID⟩

/-- A reservation whose currency differs from that of a ceiling is refused exactly when one of the
checks of the amounts refuses it. -/
theorem mismatch_failsClosed_iff (g : Gate) (a : ReserveAnswers) (t : TenantAnswers)
    (persist : Option String) (id : UUID) (req : ReserveRequest) (worst : Money)
    (sess ten : Option Budget) (h : g.Found a req worst sess ten)
    (hmismatch : Mismatch worst sess ten) :
    g.FailsClosed a t persist id req ↔ g.Refuses req worst sess ten t persist := by
  have hbudget : (sess.isNone && ten.isNone) = false := by
    obtain ⟨b, hb | hb, -⟩ := hmismatch <;> simp [Option.mem_def.1 hb]
  rw [← reserve_refused_iff h hbudget t persist id]
  exact ⟨fun hclosed => hclosed.1, failsClosed_of_isSome⟩

/-- A session that has spent 900000 of a ceiling of 1000000 micros, in dollars. -/
def spentGate : Gate :=
  { newGate false defaultMeters {} with
    sessionState := fun _ => some
      { budget := some { id := 3, scope := .session, scopeRef := some 2
                         ceiling := { micros := 1000000, currency := "USD" }, epoch := 1 }
        spent := { micros := 900000, currency := "USD" } } }

def euroBook : PriceBook where
  entries := (flatBook 3000000).entries.map fun e => { e with currency := "EUR" }

def foreignTurn : ReserveAnswers × ReserveRequest :=
  ({ priceBook := .ok euroBook, sessionBudget := .ok none, tenantBudget := .ok none, now := 1 },
    { tenantID := 1, sessionID := 2, modelID := "", purpose := .turn })

/-- The decision of the turn cannot be recorded, so it is refused. -/
theorem foreignPrice_unrecorded :
    spentGate.FailsClosed foreignTurn.1 { reserve := .error "" } (some "down") 9 foreignTurn.2 :=
  (mismatch_failsClosed_iff spentGate foreignTurn.1 { reserve := .error "" } (some "down") 9
    foreignTurn.2 { micros := 36288, currency := "EUR" }
    (spentGate.sessionState 2 |>.bind (·.budget)) none
    ⟨⟨euroBook, rfl, by decide +kernel⟩, rfl, rfl⟩ ⟨_, .inl rfl, by decide⟩).2 (.inr (.inr rfl))

/-- The turn is granted, and the running spend of the session is gone. -/
theorem foreignPrice_granted :
    (spentGate.reserve foreignTurn.1 { reserve := .error "" } none 9 foreignTurn.2).1.2 = none ∧
      (spentGate.reserve foreignTurn.1 { reserve := .error "" } none 9
        foreignTurn.2).1.1.decision.reserved = { micros := 36288, currency := "EUR" } ∧
      spentGate.spentOf 2 = { micros := 900000, currency := "USD" } ∧
      (spentGate.reserve foreignTurn.1 { reserve := .error "" } none 9 foreignTurn.2).2.spentOf 2 =
        {} := by
  decide +kernel

end Gate

end NexusAgent.Cost
