import NexusAgent.Cost.Gate

/-!
# Reconciling a reservation

`Gate.Reconcile` and `Gate.ReconcileEmbedding` (`internal/cost/reconcile.go`): the real usage
is priced and recorded, and the unused part of the reservation is given back to the budgets
it was taken from. As in `Reserve`, a call is cut where it talks to the ledger and the
counters: `Gate.price` computes the records, which are then written in one unit of work, and
`Gate.finishReconcile` adjusts the session's running spend and says what to release at the
tenant counter.
-/

namespace NexusAgent.Cost

/-- The real usage of a call. -/
inductive Usage
  /-- The four classes of tokens of a model call. -/
  | tokens (inputUncached inputCacheRead inputCacheWrite outputTokens : Int64)
  | embedding (tokensUsed : Int64)

namespace Gate

def reservedOf (g : Gate) (res : Reservation) : Money :=
  if res.decision.reserved.currency = "" then
    { res.decision.reserved with currency := g.cfg.currency }
  else res.decision.reserved

/-- The record of a reservation whose usage is not known: its full worst case. -/
def unreportedRecord (g : Gate) (res : Reservation) : CostRecord × Money :=
  let actual := g.reservedOf res
  ({ reservationID := some res.id, meter := .unreportedReservation, quantity := 1,
     unit := "reservation", cost := actual, modelID := res.modelID, unreported := true },
    actual)

/-- The loop over the token classes of a call: a class without tokens has no record, and an
amount in another currency than the sum makes the sum nothing in no currency. -/
def priceTokens (g : Gate) (pb : PriceBook) (res : Reservation) (now : ℤ) :
    List (MeterID × Int64) → List CostRecord → Money → Except String (List CostRecord × Money)
  | [], records, actual => .ok (records, actual)
  | (meter, qty) :: rest, records, actual =>
    if qty = 0 then g.priceTokens pb res now rest records actual
    else
      match g.meters meter with
      | none =>
        .error ("cost: reconcile: cost: unknown meter " ++ Go.quote meter.string)
      | some m =>
        match pb.cost meter (subjectOf res.modelID) qty now with
        | .error err => .error ("cost: reconcile: " ++ err)
        | .ok c =>
          let record : CostRecord :=
            { reservationID := some res.id, meter := meter, quantity := qty, unit := m.unit,
              cost := c, modelID := res.modelID }
          g.priceTokens pb res now rest (records ++ [record]) (Money.orZero (actual.add c))

/-- The token classes of a model call, in the order they are priced. -/
def tokenClasses (inputUncached inputCacheRead inputCacheWrite outputTokens : Int64) :
    List (MeterID × Int64) :=
  [(.inputUncached, inputUncached), (.inputCacheRead, inputCacheRead),
    (.inputCacheWrite, inputCacheWrite), (.output, outputTokens)]

/-- The records of a reconciliation and the actual charge. `reported` is whether the usage
is known. -/
def price (g : Gate) (answer : Except String PriceBook) (now : ℤ) (res : Reservation)
    (usage : Usage) (reported : Bool) : Except String (List CostRecord × Money) × Gate :=
  if !reported then
    let (record, actual) := g.unreportedRecord res
    (.ok ([record], actual), g)
  else
    match usage with
    | .tokens inputUncached inputCacheRead inputCacheWrite outputTokens =>
      match g.priceBookFor res.tenantID answer with
      | (.error err, g) => (.error ("cost: reconcile: price book unavailable: " ++ err), g)
      | (.ok pb, g) =>
        (g.priceTokens pb res now
          (tokenClasses inputUncached inputCacheRead inputCacheWrite outputTokens) []
          (Money.zero g.cfg.currency), g)
    | .embedding tokensUsed =>
      if tokensUsed ≤ 0 then (.ok ([], Money.zero g.cfg.currency), g)
      else
        match g.priceBookFor res.tenantID answer with
        | (.error err, g) =>
          (.error ("cost: reconcile embedding: price book unavailable: " ++ err), g)
        | (.ok pb, g) =>
          match pb.cost .embeddingTokens (subjectOf res.modelID) tokensUsed now with
          | .error err => (.error ("cost: reconcile embedding: " ++ err), g)
          | .ok c =>
            (.ok ([{ reservationID := some res.id, meter := .embeddingTokens,
                     quantity := tokensUsed, unit := "tokens", cost := c,
                     modelID := res.modelID }], c), g)

/-- The session's running spend without the unused part of a reservation; an amount of
another currency is not taken off. -/
def adjustSession (g : Gate) (sessionID : UUID) (delta : Money) : Gate :=
  let st := (g.sessionState sessionID).getD { budget := none }
  match st.spent.sub delta with
  | .error _ => g
  | .ok adjusted =>
    let st' := { st with spent := adjusted }
    { g with sessionState := Function.update g.sessionState sessionID (some st') }

/-- The tail of a reconciliation: the amount to release at the tenant counter, if any, and
the gate with the session's running spend adjusted. -/
def finishReconcile (g : Gate) (res : Reservation) (actual : Money) :
    Except String (Option Int64) × Gate :=
  if res.decision.kind = .skip ∨ res.decision.kind = .refuseCeiling then (.ok none, g)
  else
    match (g.reservedOf res).sub actual with
    | .error err => (.error ("cost: reconcile: " ++ err), g)
    | .ok delta =>
      (.ok (res.tenantBudget.map fun _ => delta.micros),
        if res.sessionBudget.isNone then g else g.adjustSession res.sessionID delta)

end Gate

/-! ### Charges of prices that fit -/

def Usage.quantities : Usage → List Int64
  | .tokens inputUncached inputCacheRead inputCacheWrite outputTokens =>
    [inputUncached, inputCacheRead, inputCacheWrite, outputTokens]
  | .embedding tokensUsed => [tokensUsed]

/-- A usage reports between zero and `Q` tokens of each class. -/
def Usage.Within (u : Usage) (Q : ℤ) : Prop :=
  ∀ q ∈ u.quantities, 0 ≤ q.toInt ∧ q.toInt ≤ Q

instance (u : Usage) (Q : ℤ) : Decidable (u.Within Q) :=
  -- over the list, and not over all the values an `Int64` has
  List.decidableBAll _ u.quantities

def totalCost (records : List CostRecord) : ℤ :=
  (records.map fun r => r.cost.micros.toInt).sum

lemma totalCost_append (records records' : List CostRecord) :
    totalCost (records ++ records') = totalCost records + totalCost records' := by
  simp [totalCost]

namespace Gate

variable {g : Gate} {pb : PriceBook} {res : Reservation} {now Q : ℤ}

/-- An amount added to a sum, whatever the currencies: the sum grows by the amount or starts
again from nothing. -/
private lemma orZero_add_bounds {m c : Money} (hm : 0 ≤ m.micros.toInt)
    (hc : 0 ≤ c.micros.toInt ∧ c.micros.toInt < 2 ^ 44) (hsum : m.micros.toInt + 2 ^ 44 ≤ 2 ^ 63) :
    0 ≤ (Money.orZero (m.add c)).micros.toInt ∧
      (Money.orZero (m.add c)).micros.toInt < m.micros.toInt + 2 ^ 44 := by
  by_cases hcur : m.currency = c.currency
  · have hadd : (m.micros + c.micros).toInt = m.micros.toInt + c.micros.toInt :=
      toInt_add_of_lt (by omega) (by omega)
    rw [Money.add_of_eq hcur]
    simp only [Money.orZero, hadd]
    omega
  · obtain ⟨e, he⟩ := Money.add_of_ne hcur
    have hzero : (0 : Int64).toInt = 0 := by decide
    rw [he]
    simp only [Money.orZero, hzero]
    omega

variable {records : List CostRecord} {actual : Money}

/-- The loop adds amounts that are not negative and are too small to wrap; in one currency their
sum is the charge. -/
lemma priceTokens_spec {qs : List (MeterID × Int64)} {records' : List CostRecord} {actual' : Money}
    (h : g.priceTokens pb res now qs records actual = .ok (records', actual'))
    (hqs : ∀ q ∈ qs, 0 ≤ q.2.toInt ∧ q.2.toInt ≤ Q) (hfits : pb.Fits Q)
    (hactual : 0 ≤ actual.micros.toInt)
    (hroom : actual.micros.toInt + qs.length * 2 ^ 44 ≤ 2 ^ 63) :
    0 ≤ actual'.micros.toInt ∧ (pb.InCurrency actual.currency →
      actual.micros.toInt = totalCost records →
      actual'.currency = actual.currency ∧ actual'.micros.toInt = totalCost records') := by
  induction qs generalizing records actual with
  | nil =>
    cases h
    exact ⟨hactual, fun _ htotal => ⟨rfl, htotal⟩⟩
  | cons q qs ih =>
    obtain ⟨meter, qty⟩ := q
    rw [List.length_cons] at hroom
    push_cast at hroom
    have hrest : ∀ q ∈ qs, 0 ≤ q.2.toInt ∧ q.2.toInt ≤ Q :=
      fun q hq => hqs q (List.mem_cons_of_mem _ hq)
    have hqty := hqs (meter, qty) List.mem_cons_self
    simp only [priceTokens] at h
    split_ifs at h with hzero
    · exact ih h hrest hactual (by omega)
    · split at h
      · simp at h
      · split at h
        · simp at h
        · next c hcost =>
          have hc := PriceBook.cost_bounds hcost hqty.1 (hfits.mono hqty.2)
          have hsum := orZero_add_bounds hactual hc (by omega)
          obtain ⟨hnonneg, hcharged⟩ := ih h hrest hsum.1 (by omega)
          refine ⟨hnonneg, fun hcur htotal => ?_⟩
          have hadd : (actual.micros + c.micros).toInt
              = actual.micros.toInt + c.micros.toInt :=
            toInt_add_of_lt (by omega) (by omega)
          rw [Money.add_of_eq (PriceBook.cost_currency hcost hcur).symm] at hcharged
          refine hcharged hcur ?_
          simp only [Money.orZero, hadd, totalCost_append, htotal]
          simp [totalCost]

/-- The currency of a reservation does not change its amount. -/
@[simp] theorem micros_reservedOf (g : Gate) (res : Reservation) :
    (g.reservedOf res).micros = res.decision.reserved.micros := by
  unfold reservedOf
  split_ifs <;> rfl

private lemma tokenClasses_within {inputUncached inputCacheRead inputCacheWrite
    outputTokens : Int64}
    (h : (Usage.tokens inputUncached inputCacheRead inputCacheWrite outputTokens).Within Q) :
    ∀ q ∈ tokenClasses inputUncached inputCacheRead inputCacheWrite outputTokens,
      0 ≤ q.2.toInt ∧ q.2.toInt ≤ Q := by
  intro q hq
  apply h
  simp only [tokenClasses, List.mem_cons, List.not_mem_nil, or_false] at hq
  simp only [Usage.quantities, List.mem_cons, List.not_mem_nil, or_false]
  rcases hq with rfl | rfl | rfl | rfl <;> simp

/-- The charge of a reconciliation with prices that fit is not negative, and in one currency it is
what the records say. -/
theorem price_spec {answer : Except String PriceBook} {usage : Usage} {reported : Bool}
    (h : (g.price answer now res usage reported).1 = .ok (records, actual))
    (husage : usage.Within Q)
    (hfits : ∀ pb, (g.priceBookFor res.tenantID answer).1 = .ok pb → pb.Fits Q) :
    (0 ≤ res.decision.reserved.micros.toInt → 0 ≤ actual.micros.toInt) ∧
      (res.decision.reserved.currency = g.cfg.currency →
        (∀ pb, (g.priceBookFor res.tenantID answer).1 = .ok pb → pb.InCurrency g.cfg.currency) →
        actual.currency = g.cfg.currency ∧ actual.micros.toInt = totalCost records) := by
  have hzero : (0 : Int64).toInt = 0 := by decide
  cases reported with
  | false =>
    -- the worst case stands in for the usage
    cases h
    refine ⟨fun hreserved => by rwa [micros_reservedOf], fun hcur _ => ⟨?_, by simp [totalCost]⟩⟩
    unfold reservedOf
    split_ifs
    · rfl
    · exact hcur
  | true =>
    have hload := cfg_priceBookFor g res.tenantID answer
    simp only [price, Bool.not_true, Bool.false_eq_true, if_false] at h
    cases usage with
    | tokens i r w o =>
      rcases hpb : g.priceBookFor res.tenantID answer with ⟨err | pb, g'⟩
      · simp [hpb] at h
      · rw [hpb] at hload
        simp only [hpb] at h
        obtain ⟨hnonneg, hcharged⟩ := priceTokens_spec h (tokenClasses_within husage)
          (hfits pb (by rw [hpb])) (by simp [Money.zero, hzero])
          (by simp [Money.zero, hzero, tokenClasses])
        refine ⟨fun _ => hnonneg, fun _ hcur => ?_⟩
        rw [← hload] at hcur ⊢
        exact hcharged (hcur pb rfl) (by simp [Money.zero, hzero, totalCost])
    | embedding n =>
      dsimp only at h
      split_ifs at h with hpos
      · cases h
        simp [Money.zero, hzero, totalCost]
      · rcases hpb : g.priceBookFor res.tenantID answer with ⟨err | pb, g'⟩
        · simp [hpb] at h
        · simp only [hpb] at h
          split at h
          · simp at h
          · next c hcost =>
            cases h
            have hn := husage n (by simp [Usage.quantities])
            have hbounds := PriceBook.cost_bounds hcost hn.1 ((hfits pb (by rw [hpb])).mono hn.2)
            exact ⟨fun _ => hbounds.1, fun _ hcur =>
              ⟨PriceBook.cost_currency hcost (hcur pb rfl), by simp [totalCost]⟩⟩

/-- What is released at the tenant counter is the reserved amount without the actual one. -/
lemma finishReconcile_release {delta : Int64}
    (h : (g.finishReconcile res actual).1 = .ok (some delta)) :
    delta = res.decision.reserved.micros - actual.micros := by
  unfold finishReconcile at h
  by_cases hkind : res.decision.kind = .skip ∨ res.decision.kind = .refuseCeiling
  · simp [hkind] at h
  rw [if_neg hkind] at h
  split at h
  · simp at h
  · next d hsub =>
    obtain ⟨-, rfl⟩ := Money.sub_ok hsub
    cases hten : res.tenantBudget with
    | none => simp [hten] at h
    | some b =>
      simp only [hten, Option.map_some, Except.ok.injEq, Option.some.injEq] at h
      rw [← h, micros_reservedOf]

lemma price_gate (g : Gate) (answer : Except String PriceBook) (now : ℤ) (res : Reservation)
    (usage : Usage) (reported : Bool) :
    (g.price answer now res usage reported).2 = g ∨
      (g.price answer now res usage reported).2 = (g.priceBookFor res.tenantID answer).2 := by
  cases reported with
  | false => exact .inl rfl
  | true =>
    simp only [price, Bool.not_true, Bool.false_eq_true, if_false]
    cases usage with
    | tokens i r w o =>
      rcases hpb : g.priceBookFor res.tenantID answer with ⟨err | pb, g'⟩ <;> exact .inr rfl
    | embedding n =>
      dsimp only
      split_ifs
      · exact .inl rfl
      · rcases hpb : g.priceBookFor res.tenantID answer with ⟨err | pb, g'⟩
        · exact .inr rfl
        · dsimp only
          split <;> exact .inr rfl

/-- A reconciliation of a granted reservation in one currency takes the unused part off the
session's running spend. -/
lemma finishReconcile_gate (hkind : res.decision.kind = .allow ∨ res.decision.kind = .degrade)
    (hbudget : res.sessionBudget.isNone = false)
    (hcur : (g.reservedOf res).currency = actual.currency) :
    (g.finishReconcile res actual).2 = g.adjustSession res.sessionID
      { micros := res.decision.reserved.micros - actual.micros
        currency := (g.reservedOf res).currency } := by
  have hgranted : ¬ (res.decision.kind = .skip ∨ res.decision.kind = .refuseCeiling) := by
    rcases hkind with h | h <;> simp [h]
  unfold finishReconcile
  rw [if_neg hgranted, Money.sub_of_eq hcur]
  simp [hbudget]

end Gate

end NexusAgent.Cost
