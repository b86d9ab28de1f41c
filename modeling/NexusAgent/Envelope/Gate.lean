import NexusAgent.Cost.Reconcile
import NexusAgent.Plan.Schema

/-!
# Envelopes

A fan-out step and a team have one budget for all their members: a row with a ceiling and what
remains of it (`internal/delegate/envelope.go`, `internal/teams/envelope.go` and the statements
on `fanout_envelopes` and `team_envelopes`). A member's model call draws a fixed share of the
ceiling before it is made, and what it did not use is returned afterwards. The two packages have
the same code with different texts.

The columns are `bigint`; the conditions that the table checks are part of the type of its rows.
-/

namespace NexusAgent.Envelopes

open Cost

/-- A row of `fanout_envelopes` or `team_envelopes`. -/
structure Envelope where
  currency : String
  ceiling : Int64
  remaining : ℤ
  /-- `child_count` or `member_count`. -/
  members : ℤ
  /-- `CHECK (remaining_micros >= 0)`. -/
  nonneg : 0 ≤ remaining
  /-- `CHECK (remaining_micros <= ceiling_micros)`. -/
  le_ceiling : remaining ≤ ceiling.toInt
  deriving DecidableEq

/-- The texts in which the two packages differ. -/
structure Wording where
  package : String
  noun : String
  source : String

/-- The texts of `internal/delegate`. -/
def fanoutWording : Wording where
  package := "delegate"
  noun := "fanout envelope"
  source := "delegation fan-out envelope"

/-- The texts of `internal/teams`. -/
def teamWording : Wording where
  package := "teams"
  noun := "team envelope"
  source := "team budget envelope"

namespace Envelope

/-- `CreateEnvelope`: the whole ceiling remains. The insert fails if a check does, or if the
number of members is not one of 32 bits. -/
def create (ceiling : Money) (members : ℤ) : Option Envelope :=
  if h : 0 ≤ ceiling.micros.toInt ∧ -2 ^ 31 ≤ members ∧ members < 2 ^ 31 then
    some { currency := ceiling.currency, ceiling := ceiling.micros
           remaining := ceiling.micros.toInt, members, nonneg := h.1, le_ceiling := Int.le_refl _ }
  else none

/-- An update of what remains, which fails if a check does. -/
def update (e : Envelope) (remaining : ℤ) : Option Envelope :=
  if h : 0 ≤ remaining ∧ remaining ≤ e.ceiling.toInt then
    some { e with remaining, nonneg := h.1, le_ceiling := h.2 }
  else none

/-- `DrawEnvelope`: the envelope without the amount, if that much remains. -/
def drawEnvelope (e : Envelope) (amount : Int64) : Option Envelope :=
  if amount.toInt ≤ e.remaining then e.update (e.remaining - amount.toInt) else none

def returnToEnvelope (e : Envelope) (amount : Int64) : Option Envelope :=
  e.update (e.remaining + amount.toInt)

/-- `envelopePerCallEstimate`: an equal share of the ceiling. -/
def perCallEstimate (e : Envelope) : Money :=
  let members := if e.members ≤ 0 then 1 else e.members
  { micros := e.ceiling / Int64.ofInt members, currency := e.currency }

variable {e e' : Envelope}

lemma update_eq_some {remaining : ℤ} (h : e.update remaining = some e') :
    e'.remaining = remaining ∧ e'.ceiling = e.ceiling ∧
      e'.perCallEstimate = e.perCallEstimate := by
  unfold update at h
  split at h
  · cases h
    exact ⟨rfl, rfl, rfl⟩
  · nomatch h

lemma drawEnvelope_eq_some {amount : Int64} (h : e.drawEnvelope amount = some e') :
    e'.remaining = e.remaining - amount.toInt ∧ e'.ceiling = e.ceiling ∧
      e'.perCallEstimate = e.perCallEstimate :=
  update_eq_some (Option.ite_none_right_eq_some.1 h).2

lemma returnToEnvelope_eq_some {amount : Int64} (h : e.returnToEnvelope amount = some e') :
    e'.remaining = e.remaining + amount.toInt ∧ e'.ceiling = e.ceiling ∧
      e'.perCallEstimate = e.perCallEstimate :=
  update_eq_some h

end Envelope

/-! ### How envelopes are funded -/

/-- The envelope of a `delegate_fanout` step: as much as its children may use together. A step
without a ceiling for each child has an envelope of nothing in no currency. -/
def fanoutEnvelope (config : Plans.DelegateFanoutConfig) : Except String (Option Envelope) :=
  (Plans.parseCeiling config.perChildCeiling).map fun perChild =>
    let perChild := perChild.getD {}
    Envelope.create { micros := perChild.micros * Int64.ofInt config.childCount
                      currency := perChild.currency } config.childCount

/-- The envelope that `CreateTeam` makes for a team of so many members. -/
def teamEnvelope (ceiling : Money) (members : ℕ) : Option Envelope :=
  Envelope.create ceiling members

inductive Created : Envelope → Prop
  | fanout {config : Plans.DelegateFanoutConfig} {e : Envelope}
      (h : fanoutEnvelope config = .ok (some e)) : Created e
  | team {ceiling : Money} {members : ℕ} {e : Envelope}
      (h : teamEnvelope ceiling members = some e) : Created e

lemma Created.remaining_eq {e : Envelope} (h : Created e) : e.remaining = e.ceiling.toInt := by
  have hcreate {ceiling : Money} {members : ℤ} (h : Envelope.create ceiling members = some e) :
      e.remaining = e.ceiling.toInt := by
    unfold Envelope.create at h
    split at h
    · cases h
      rfl
    · nomatch h
  cases h with
  | @fanout config _ h =>
    unfold fanoutEnvelope at h
    cases hparse : Plans.parseCeiling config.perChildCeiling with
    | error err =>
      rw [hparse] at h
      nomatch h
    | ok perChild =>
      rw [hparse] at h
      exact hcreate (Except.ok.inj h)
  | team h => exact hcreate h

/-! ### The gate of a member -/

structure EnvelopeBudgetGate where
  wording : Wording
  envelopeID : UUID
  tenantID : UUID
  perCallEstimate : Money
  currency : String

/-- The gate that a member is given when it is spawned. -/
def gateOf (wording : Wording) (envelopeID tenantID : UUID) (e : Envelope) :
    EnvelopeBudgetGate where
  wording := wording
  envelopeID := envelopeID
  tenantID := tenantID
  perCallEstimate := e.perCallEstimate
  currency := e.currency

namespace EnvelopeBudgetGate

/-- `Reserve`, for what the draw has answered: whether it was made, and what remains. -/
def reserve (g : EnvelopeBudgetGate) (id : UUID) (req : ReserveRequest)
    (answer : Except String (Bool × Money)) : Reservation × Option String :=
  let res (kind : DecisionKind) (reason : String) (reserved : Money) : Reservation :=
    { id, tenantID := req.tenantID, sessionID := req.sessionID, modelID := req.modelID
      decision := { kind, reason, reserved } }
  match answer with
  | .error err =>
    let reason := g.wording.noun ++ " lookup failed (fail closed): " ++ err
    (res .refuseCeiling reason {}, some ("cost: " ++ reason))
  | .ok (false, remaining) =>
    let reason := g.wording.noun ++ " " ++ UUID.string g.envelopeID ++ " exhausted (" ++
      remaining.string ++ " remaining, this call needs " ++ g.perCallEstimate.string ++ ")"
    (res .refuseCeiling reason {}, some ("cost: " ++ reason))
  | .ok (true, _) =>
    (res .allow ("drawn from " ++ g.wording.source ++ " " ++ UUID.string g.envelopeID)
      g.perCallEstimate, none)

/-- The loop of `priceUsage` over the token classes. -/
def priceClasses (pb : PriceBook) (subject : String) (now : ℤ) :
    List (MeterID × Int64) → Money → Except String Money
  | [], total => .ok total
  | (meter, qty) :: rest, total =>
    if qty = 0 then priceClasses pb subject now rest total
    else do
      let c ← pb.cost meter subject qty now
      let total ← total.add c
      priceClasses pb subject now rest total

/-- The meters of `internal/delegate/envelope.go` with the tokens of a usage. -/
def fanoutClasses (i r w o : Int64) : List (MeterID × Int64) :=
  [(.inputUncached, i), (.inputCacheRead, r), (.inputCacheWrite, w), (.output, o)]

/-- Those of `internal/teams/envelope.go`. -/
def teamClasses (i r w o : Int64) : List (MeterID × Int64) :=
  [(.inputUncached, i), (.inputCacheRead, r), (.inputCacheWrite, w), (.output, o)]

/-- `priceUsage`: the usage of a call, in the classes of the gate, at the tenant's prices. -/
def priceUsage (g : EnvelopeBudgetGate) (answer : Except String PriceBook) (now : ℤ)
    (modelID : String) (usage : List (MeterID × Int64)) : Except String Money := do
  let currency := if g.currency = "" then defaultCurrency else g.currency
  let pb ← answer
  priceClasses pb (subjectOf modelID) now usage (.zero currency)

/-- The actual charge of a call: the reservation, where the usage is not known. -/
def actual (g : EnvelopeBudgetGate) (answer : Except String PriceBook) (now : ℤ)
    (res : Reservation) (usage : List (MeterID × Int64)) (reported : Bool) :
    Except String Money :=
  if reported then
    (g.priceUsage answer now res.modelID usage).mapError
      (g.wording.package ++ ": envelope reconcile: " ++ ·)
  else .ok res.decision.reserved

/-- The tail of `Reconcile`: what is returned to the envelope, if anything. -/
def unused (g : EnvelopeBudgetGate) (res : Reservation) (actual : Money) :
    Except String (Option Int64) :=
  match res.decision.reserved.sub actual with
  | .error err => .error (g.wording.package ++ ": envelope reconcile: " ++ err)
  | .ok delta => .ok (if delta.micros ≤ 0 then none else some delta.micros)

/-- What is returned is what was reserved without what was used. -/
lemma unused_eq {g : EnvelopeBudgetGate} {res : Reservation} {actual : Money} {delta : Int64}
    (h : g.unused res actual = .ok (some delta)) :
    0 < delta.toInt ∧ delta = res.decision.reserved.micros - actual.micros := by
  unfold unused at h
  split at h
  · nomatch h
  next d hsub =>
    obtain ⟨-, rfl⟩ := Money.sub_ok hsub
    obtain ⟨hpos, hdelta⟩ := Option.ite_none_left_eq_some.1 (Except.ok.inj h)
    cases hdelta
    refine ⟨?_, rfl⟩
    have hlt := Int64.not_le.1 hpos
    exact Int64.lt_iff_toInt_lt.1 hlt

/-! ### The same prices as at the main gate -/

/-- In one currency, and with every meter registered, the loop of the main gate charges what the
loop of an envelope does. -/
lemma priceTokens_eq {g : Gate} {pb : PriceBook} {res : Reservation} {now : ℤ}
    {qs : List (MeterID × Int64)} {records : List CostRecord} {total : Money}
    (hmeters : ∀ q ∈ qs, (g.meters q.1).isSome) (hcur : pb.InCurrency total.currency) :
    ((g.priceTokens pb res now qs records total).map Prod.snd).toOption =
      (priceClasses pb (subjectOf res.modelID) now qs total).toOption := by
  induction qs generalizing records total with
  | nil => rfl
  | cons q qs ih =>
    obtain ⟨meter, qty⟩ := q
    obtain ⟨m, hm⟩ := Option.isSome_iff_exists.1 (hmeters _ List.mem_cons_self)
    have hrest : ∀ q ∈ qs, (g.meters q.1).isSome := fun q hq => hmeters q (.tail _ hq)
    simp only [Gate.priceTokens, priceClasses, hm]
    split_ifs
    · exact ih hrest hcur
    · cases hcost : pb.cost meter (subjectOf res.modelID) qty now with
      | error err => rfl
      | ok c =>
        simp only [Money.add_of_eq (PriceBook.cost_currency hcost hcur).symm, bind, Except.bind]
        exact ih hrest hcur

/-- The main gate and the gates of a fan-out and a team charge the same for a usage, or all three
fail, where the book is in the one currency of the gates. -/
theorem price_alike {g : Gate} {answer : Except String PriceBook} {pb : PriceBook} {now : ℤ}
    {res : Reservation} (fanout team : EnvelopeBudgetGate) (i r w o : Int64)
    (hmeters : g.meters = defaultMeters)
    (hbook : (g.priceBookFor res.tenantID answer).1 = .ok pb)
    (hcur : pb.InCurrency g.cfg.currency)
    (hfanout : g.cfg.currency = if fanout.currency = "" then defaultCurrency else fanout.currency)
    (hteam : g.cfg.currency = if team.currency = "" then defaultCurrency else team.currency) :
    ((g.price answer now res (.tokens i r w o) true).1.map Prod.snd).toOption =
        (fanout.priceUsage (.ok pb) now res.modelID (fanoutClasses i r w o)).toOption ∧
      fanout.priceUsage (.ok pb) now res.modelID (fanoutClasses i r w o) =
        team.priceUsage (.ok pb) now res.modelID (teamClasses i r w o) := by
  unfold priceUsage
  rw [← hfanout, ← hteam]
  refine ⟨?_, rfl⟩
  have hframe : (g.priceBookFor res.tenantID answer).2.cfg = g.cfg ∧
      (g.priceBookFor res.tenantID answer).2.meters = g.meters := by
    unfold Gate.priceBookFor
    split <;> exact ⟨rfl, rfl⟩
  rcases hload : g.priceBookFor res.tenantID answer with ⟨_, g'⟩
  rw [hload] at hbook hframe
  obtain rfl : _ = Except.ok pb := hbook
  obtain ⟨hcfg, hsame⟩ : g'.cfg = g.cfg ∧ g'.meters = g.meters := hframe
  simp only [Gate.price, Bool.not_true, Bool.false_eq_true, if_false, hload, hcfg]
  have hknown : ∀ q ∈ Gate.tokenClasses i r w o, (g'.meters q.1).isSome := by
    simp [Gate.tokenClasses, hsame, hmeters, defaultMeters]
  exact priceTokens_eq hknown hcur

/-- A fan-out without a currency of its own charges what the main gate does. -/
theorem unnamedCurrency_alike : ∃ res : Reservation, res.modelID = "m" ∧
    (((newGate false defaultMeters {}).price (.ok (flatBook 3000000)) 0 res
      (.tokens 100 0 0 100) true).1.map Prod.snd).toOption =
      (priceUsage ⟨fanoutWording, 1, 2, {}, ""⟩ (.ok (flatBook 3000000)) 0 res.modelID
        (fanoutClasses 100 0 0 100)).toOption :=
  ⟨⟨1, 2, 3, "m", ⟨.allow, "", none, {}⟩, none, none, 0⟩, rfl,
    (price_alike _ ⟨teamWording, 1, 2, {}, "USD"⟩ 100 0 0 100 rfl rfl (by decide) rfl rfl).1⟩

end EnvelopeBudgetGate

end NexusAgent.Envelopes
