import Mathlib.Algebra.Order.BigOperators.Group.List
import NexusAgent.Cost.TenantCeiling
import NexusAgent.Envelope.Gate
import NexusAgent.Plan.Validate

/-!
# The members of an envelope

Any number of members reserve at one envelope and reconcile what they reserved. A reservation is
a sequence of steps that interleave with those of the others: the draw, the pricing of the usage
once the model has answered, and the return of what was not used. A transaction may fail before
or after it was committed.

A call may still cost the envelope what it has drawn, or what it was charged and what it is about
to return. What remains together with all of that never grows, as long as no call uses more than
it has drawn.
-/

namespace NexusAgent.Envelopes

open Cost Cost.Tenant

/-! ### One call -/

/-- Where a call stands. -/
inductive Stage
  | drawing
  | held (res : Reservation)
  | returning (delta : Int64)
  | ended

/-- A reservation of a member. -/
structure Call where
  gate : EnvelopeBudgetGate
  req : ReserveRequest
  stage : Stage := .drawing
  account : Account := .untouched

/-- The next step of a call, with what its surroundings answer. -/
inductive Move
  | draw (id : UUID) (reply : Reply)
  | reconcile (answer : Except String PriceBook) (now : ℤ) (usage : List (MeterID × Int64))
      (reported : Bool)
  | giveBack (reply : Reply)

/-- The envelope after a statement on it, which changes nothing if it fails or finds too little,
or if it was not sent. -/
def after (e : Envelope) (updated : Option Envelope) (reply : Reply) : Envelope :=
  if reply = .unsent then e else updated.getD e

/-- What a draw tells the gate. -/
def drawAnswer (e : Envelope) (drawn : Option Envelope) : Reply → Except String (Bool × Money)
  | .answered =>
    let left := drawn.getD e
    .ok (drawn.isSome, { micros := Int64.ofInt left.remaining, currency := left.currency })
  | .lost | .unsent => .error "store unavailable"

/-- The draw of a call: whatever the member is told, the share is drawn if the statement was
executed and found enough. -/
def Call.draw (e : Envelope) (c : Call) (id : UUID) (reply : Reply) : Envelope × Call :=
  let share := c.gate.perCallEstimate.micros
  let drawn := e.drawEnvelope share
  let account := if drawn.isSome ∧ reply ≠ .unsent then .outstanding share.toInt else c.account
  match c.gate.reserve id c.req (drawAnswer e drawn reply) with
  | (res, none) => (after e drawn reply, { c with stage := .held res, account })
  | (_, some _) => (after e drawn reply, { c with stage := .ended, account })

/-- The reconciliation of a call once its usage has a price. The error of `Reconcile` is only
logged. -/
def Call.charge (c : Call) (res : Reservation) (actual : Money) : Call :=
  let account := Account.charged res.decision.reserved.micros.toInt actual.micros.toInt
  match c.gate.unused res actual with
  | .ok (some delta) => { c with stage := .returning delta, account }
  | .ok none | .error _ => { c with stage := .ended, account }

/-- One step of a call. A reconciliation that has no price leaves the reservation as it is. -/
def Call.step (e : Envelope) (c : Call) : Move → Option (Envelope × Call)
  | .draw id reply =>
    match c.stage with
    | .drawing => some (c.draw e id reply)
    | _ => none
  | .reconcile answer now usage reported =>
    match c.stage with
    | .held res =>
      match c.gate.actual answer now res usage reported with
      | .ok actual => some (e, c.charge res actual)
      | .error _ => some (e, c)
    | _ => none
  | .giveBack reply =>
    match c.stage with
    | .returning delta =>
      some (after e (e.returnToEnvelope delta) reply, { c with stage := .ended })
    | _ => none

/-- A reconciliation charges at most what was reserved. -/
def Move.Within (c : Call) : Move → Prop
  | .reconcile answer now usage reported =>
    match c.stage with
    | .held res =>
      match c.gate.actual answer now res usage reported with
      | .ok actual => actual.micros.toInt ≤ res.decision.reserved.micros.toInt
      | .error _ => True
    | _ => True
  | _ => True

instance (c : Call) (m : Move) : Decidable (m.Within c) := by
  unfold Move.Within
  split
  · split
    · split <;> infer_instance
    · infer_instance
  · infer_instance

/-! ### The cohort -/

structure Cohort where
  envelope : Envelope
  calls : List Call := []

def Cohort.outstanding (s : Cohort) : ℤ := (s.calls.map fun c => c.account.reserved).sum

def Cohort.charged (s : Cohort) : ℤ := (s.calls.map fun c => c.account.actual).sum

/-- What the members do. -/
inductive CohortAction
  /-- A member is about to make a model call. -/
  | reserve (wording : Wording) (envelopeID tenantID : UUID) (req : ReserveRequest)
  | move (i : ℕ) (m : Move)

/-- The members of one envelope, under every interleaving. -/
def cohort : Machine Cohort CohortAction where
  step s
    | .reserve wording envelopeID tenantID req =>
      some { s with
        calls := s.calls ++ [{ gate := gateOf wording envelopeID tenantID s.envelope, req }] }
    | .move i m =>
      s.calls[i]?.bind fun c =>
        (c.step s.envelope m).map fun (e, c') => { envelope := e, calls := s.calls.set i c' }

/-- No call is charged more than was reserved for it. -/
def WithinReserved (s : Cohort) : CohortAction → Prop
  | .reserve .. => True
  | .move i m => ∀ c ∈ s.calls[i]?, m.Within c

instance (s : Cohort) (a : CohortAction) : Decidable (WithinReserved s a) := by
  cases a <;> unfold WithinReserved <;> infer_instance

/-! ### What a step does -/

/-- What a call has drawn, whatever became of it. -/
def drawn : Account → Option ℤ
  | .outstanding amount | .charged amount _ | .returned amount => some amount
  | .untouched => none

/-- What a call may still cost the envelope. -/
def Call.claim (c : Call) : ℤ :=
  c.account.reserved + c.account.actual +
    match c.stage with
    | .returning delta => delta.toInt
    | _ => 0

/-- Where a call stands fits what it has drawn, which is the share. -/
structure Call.Ok (share : Int64) (c : Call) : Prop where
  share_eq : c.gate.perCallEstimate.micros = share
  drawn_eq : ∀ amount ∈ drawn c.account, amount = share.toInt
  stage : match c.stage with
    | .drawing => c.account = .untouched
    | .held res => res.decision.reserved.micros = share ∧ c.account = .outstanding share.toInt
    | .returning delta => 0 < delta.toInt
    | .ended => True

section

variable {e e' : Envelope} {c c' : Call} {share : Int64} {updated : Option Envelope} {reply : Reply}

lemma reserve_granted {g : EnvelopeBudgetGate} {id : UUID} {req : ReserveRequest}
    {res : Reservation} (h : g.reserve id req (drawAnswer e updated reply) = (res, none)) :
    res.decision.reserved = g.perCallEstimate ∧ updated.isSome ∧ reply = .answered := by
  cases reply with
  | answered =>
    cases updated with
    | none => nomatch (Prod.mk.inj h).2
    | some left =>
      obtain ⟨rfl, -⟩ := Prod.mk.inj h
      exact ⟨rfl, rfl, rfl⟩
  | lost | unsent => nomatch (Prod.mk.inj h).2

/-- A draw that was executed and found enough. -/
lemma after_drawn (hsome : (e.drawEnvelope share).isSome) (hsent : reply ≠ .unsent) :
    (after e (e.drawEnvelope share) reply).remaining = e.remaining - share.toInt := by
  obtain ⟨left, hleft⟩ := Option.isSome_iff_exists.1 hsome
  rw [after, if_neg hsent, hleft]
  exact (Envelope.drawEnvelope_eq_some hleft).1

/-- A statement that was not executed, or that failed. -/
lemma after_eq_self (h : ¬ (updated.isSome ∧ reply ≠ .unsent)) : after e updated reply = e := by
  unfold after
  split
  · rfl
  next hsent =>
    rw [Option.not_isSome_iff_eq_none.1 fun hsome => h ⟨hsome, hsent⟩]
    rfl

lemma Call.draw_claim (hok : c.Ok share) (hstage : c.stage = .drawing) (id : UUID) (reply : Reply) :
    (c.draw e id reply).2.Ok share ∧
      (c.draw e id reply).1.remaining + (c.draw e id reply).2.claim = e.remaining + c.claim := by
  obtain ⟨hshare, -, hfits⟩ := hok
  have hfresh : c.account = .untouched := by rwa [hstage] at hfits
  have hclaim : c.claim = 0 := by
    simp [Call.claim, hstage, hfresh, Account.reserved, Account.actual]
  unfold Call.draw
  rw [hshare, hclaim]
  dsimp only
  cases hres : c.gate.reserve id c.req (drawAnswer e (e.drawEnvelope share) reply) with
  | mk res err =>
    by_cases hmade : (e.drawEnvelope share).isSome ∧ reply ≠ .unsent
    · rw [if_pos hmade]
      have hleft := after_drawn hmade.1 hmade.2
      cases err with
      | none =>
        obtain ⟨hreserved, -, -⟩ := reserve_granted hres
        refine ⟨⟨hshare, fun _ h => (Option.some.inj h).symm, ?_, rfl⟩, ?_⟩
        · show res.decision.reserved.micros = share
          rw [hreserved, hshare]
        · show (after e _ reply).remaining + (share.toInt + 0 + 0) = _
          omega
      | some err =>
        refine ⟨⟨hshare, fun _ h => (Option.some.inj h).symm, trivial⟩, ?_⟩
        show (after e _ reply).remaining + (share.toInt + 0 + 0) = _
        omega
    · rw [if_neg hmade]
      cases err with
      | none =>
        -- a reservation is not granted without a draw
        obtain ⟨-, hsome, rfl⟩ := reserve_granted hres
        exact absurd ⟨hsome, by simp⟩ hmade
      | some err =>
        refine ⟨⟨hshare, ?_, trivial⟩, ?_⟩
        · rw [hfresh]
          rintro _ ⟨⟩
        · show (after e _ reply).remaining + (c.account.reserved + c.account.actual + 0) = _
          rw [after_eq_self hmade, hfresh]
          rfl

/-- A charge within the reservation leaves at most that to be returned. -/
lemma Call.charge_claim {res : Reservation} {actual : Money} (hok : c.Ok share)
    (hstage : c.stage = .held res)
    (hwithin : actual.micros.toInt ≤ res.decision.reserved.micros.toInt) :
    (c.charge res actual).Ok share ∧ (c.charge res actual).claim ≤ c.claim := by
  obtain ⟨hshare, -, hfits⟩ := hok
  rw [hstage] at hfits
  obtain ⟨hreserved, haccount⟩ := hfits
  have hclaim : c.claim = share.toInt := by
    simp [Call.claim, hstage, haccount, Account.reserved, Account.actual]
  rw [hreserved] at hwithin
  have hdrawn : ∀ amount ∈ drawn (.charged res.decision.reserved.micros.toInt
      actual.micros.toInt), amount = share.toInt := by
    rintro _ h
    rw [← Option.some.inj h, hreserved]
  unfold Call.charge
  split
  next delta hunused =>
    obtain ⟨hpos, hdelta⟩ := EnvelopeBudgetGate.unused_eq hunused
    refine ⟨⟨hshare, hdrawn, hpos⟩, ?_⟩
    show 0 + actual.micros.toInt + delta.toInt ≤ c.claim
    rw [hreserved] at hdelta
    -- the difference is positive, so it has not wrapped
    have hexact : delta.toInt = share.toInt - actual.micros.toInt := by
      have hlo := Int64.le_toInt actual.micros
      have hhi := Int64.toInt_lt share
      rw [hdelta, Int64.toInt_sub] at hpos ⊢
      have hlt : share.toInt - actual.micros.toInt < 2 ^ 64 := by
        have hhi' := Int64.toInt_lt actual.micros
        omega
      rw [Int.bmod_def] at hpos ⊢
      omega
    omega
  next =>
    refine ⟨⟨hshare, hdrawn, trivial⟩, ?_⟩
    show 0 + actual.micros.toInt + 0 ≤ c.claim
    omega
  next =>
    refine ⟨⟨hshare, hdrawn, trivial⟩, ?_⟩
    show 0 + actual.micros.toInt + 0 ≤ c.claim
    omega

/-- What remains together with what a call may still cost does not grow. -/
theorem Call.step_claim {m : Move} (h : c.step e m = some (e', c')) (hok : c.Ok share)
    (hwithin : m.Within c) :
    c'.Ok share ∧ e'.remaining + c'.claim ≤ e.remaining + c.claim := by
  cases m <;> cases hstage : c.stage
  all_goals try (simp [Call.step, hstage] at h; done)
  case draw.drawing id reply =>
    simp only [Call.step, hstage, Option.some.injEq] at h
    obtain ⟨hok', hclaim⟩ := c.draw_claim (e := e) hok hstage id reply
    rw [h] at hok' hclaim
    exact ⟨hok', hclaim.le⟩
  case reconcile.held answer now usage reported res =>
    cases hactual : c.gate.actual answer now res usage reported with
    | ok actual =>
      simp only [Call.step, hstage, hactual, Option.some.injEq, Prod.mk.injEq] at h
      obtain ⟨rfl, rfl⟩ := h
      simp only [Move.Within, hstage, hactual] at hwithin
      obtain ⟨hok', hclaim⟩ := c.charge_claim hok hstage hwithin
      exact ⟨hok', by omega⟩
    | error err =>
      simp only [Call.step, hstage, hactual, Option.some.injEq, Prod.mk.injEq] at h
      obtain ⟨rfl, rfl⟩ := h
      exact ⟨hok, le_rfl⟩
  case giveBack.returning reply delta =>
    simp only [Call.step, hstage, Option.some.injEq, Prod.mk.injEq] at h
    obtain ⟨rfl, rfl⟩ := h
    have hfits := hok.stage
    rw [hstage] at hfits
    refine ⟨⟨hok.share_eq, hok.drawn_eq, trivial⟩, ?_⟩
    have hreturned : (after e (e.returnToEnvelope delta) reply).remaining
        ≤ e.remaining + delta.toInt := by
      unfold after
      split
      · omega
      · cases hupdate : e.returnToEnvelope delta with
        | none =>
          show e.remaining ≤ _
          omega
        | some left => exact (Envelope.returnToEnvelope_eq_some hupdate).1.le
    show _ + (c.account.reserved + c.account.actual + 0) ≤ _
    simp only [Call.claim, hstage]
    omega

/-- A statement leaves the ceiling and the share as they are. -/
lemma after_ceiling (h : ∀ left, updated = some left →
      left.ceiling = e.ceiling ∧ left.perCallEstimate = e.perCallEstimate) :
    (after e updated reply).ceiling = e.ceiling ∧
      (after e updated reply).perCallEstimate = e.perCallEstimate := by
  by_cases hmade : updated.isSome ∧ reply ≠ .unsent
  · obtain ⟨left, rfl⟩ := Option.isSome_iff_exists.1 hmade.1
    rw [after, if_neg hmade.2]
    exact h left rfl
  · rw [after_eq_self hmade]
    exact ⟨rfl, rfl⟩

lemma Call.step_ceiling {m : Move} (h : c.step e m = some (e', c')) :
    e'.ceiling = e.ceiling ∧ e'.perCallEstimate = e.perCallEstimate := by
  cases m <;> cases hstage : c.stage
  all_goals try (simp [Call.step, hstage] at h; done)
  case draw.drawing id reply =>
    simp only [Call.step, hstage, Option.some.injEq] at h
    have he' : e' = after e (e.drawEnvelope c.gate.perCallEstimate.micros) reply := by
      unfold Call.draw at h
      dsimp only at h
      split at h <;> exact (Prod.mk.inj h).1.symm
    rw [he']
    exact after_ceiling fun left hleft => (Envelope.drawEnvelope_eq_some hleft).2
  case reconcile.held answer now usage reported res =>
    simp only [Call.step, hstage] at h
    split at h <;>
    · cases h
      exact ⟨rfl, rfl⟩
  case giveBack.returning reply delta =>
    simp only [Call.step, hstage, Option.some.injEq, Prod.mk.injEq] at h
    obtain ⟨rfl, -⟩ := h
    exact after_ceiling fun left hleft => (Envelope.returnToEnvelope_eq_some hleft).2

end

/-! ### The runs -/

/-- What the members may still cost together. -/
def Cohort.claims (s : Cohort) : ℤ := (s.calls.map Call.claim).sum

/-- The cohort of an envelope `e`: every call draws the same share, and what remains covers what
the calls do not claim. -/
structure Cohort.Inv (e : Envelope) (s : Cohort) : Prop where
  ceiling_eq : s.envelope.ceiling = e.ceiling
  share_eq : s.envelope.perCallEstimate = e.perCallEstimate
  calls : ∀ c ∈ s.calls, c.Ok e.perCallEstimate.micros
  conserved : s.envelope.remaining + s.claims ≤ e.ceiling.toInt

lemma Cohort.inv_initial {e : Envelope} (h : Created e) : Cohort.Inv e { envelope := e } where
  ceiling_eq := rfl
  share_eq := rfl
  calls := List.forall_mem_nil _
  conserved := by
    show e.remaining + 0 ≤ _
    rw [h.remaining_eq]
    omega

lemma cohort_ceiling {s s' : Cohort} {a : CohortAction} (h : cohort.step s a = some s') :
    s'.envelope.ceiling = s.envelope.ceiling := by
  cases a with
  | reserve wording envelopeID tenantID req =>
    cases h
    rfl
  | move i m =>
    obtain ⟨c, ⟨e', c'⟩, -, hstep, rfl⟩ := Option.bind_map_some h
    exact (Call.step_ceiling hstep).1

lemma Cohort.Inv.step {e : Envelope} {s s' : Cohort} {a : CohortAction} (hinv : s.Inv e)
    (hwithin : WithinReserved s a) (h : cohort.step s a = some s') : s'.Inv e := by
  obtain ⟨hceiling, hshare, hcalls, hconserved⟩ := hinv
  cases a with
  | reserve wording envelopeID tenantID req =>
    cases h
    refine ⟨hceiling, hshare, List.forall_mem_append.2 ⟨hcalls, ?_⟩, ?_⟩
    · refine List.forall_mem_singleton.2 ⟨?_, nofun, rfl⟩
      exact congrArg Money.micros hshare
    · have hclaims : Cohort.claims { s with calls := s.calls ++
          [{ gate := gateOf wording envelopeID tenantID s.envelope, req }] } = s.claims := by
        simp [Cohort.claims, Call.claim, Account.reserved, Account.actual]
      show s.envelope.remaining + _ ≤ _
      rwa [hclaims]
  | move i m =>
    obtain ⟨c, ⟨e', c'⟩, hi, hstep, rfl⟩ := Option.bind_map_some h
    have hc := hcalls c (List.mem_of_getElem? hi)
    obtain ⟨hok, hclaim⟩ := Call.step_claim hstep hc (hwithin c hi)
    obtain ⟨hceiling', hshare'⟩ := Call.step_ceiling hstep
    refine ⟨hceiling'.trans hceiling, hshare'.trans hshare, fun d hd => ?_, ?_⟩
    · rcases List.mem_or_eq_of_mem_set hd with hd | rfl
      · exact hcalls d hd
      · exact hok
    · have hsum : Cohort.claims { envelope := e', calls := s.calls.set i c' }
          = s.claims - c.claim + c'.claim := List.sum_map_set hi c' Call.claim
      show e'.remaining + _ ≤ _
      rw [hsum]
      omega

lemma Cohort.sums_le_claims {s : Cohort} {share : Int64} (h : ∀ c ∈ s.calls, c.Ok share) :
    s.charged + s.outstanding ≤ s.claims := by
  unfold Cohort.charged Cohort.outstanding Cohort.claims
  rw [← List.sum_map_add]
  refine List.sum_le_sum fun c hc => ?_
  have hstage := (h c hc).stage
  unfold Call.claim
  split
  next delta hreturning =>
    rw [hreturning] at hstage
    have hpos : 0 < delta.toInt := hstage
    omega
  · omega

/-- The members of an envelope together stay within its ceiling, and each of their calls has drawn
something, if no call is charged more than it has drawn and the share of a call is positive. -/
theorem cohort_bounded {e : Envelope} (hcreated : Created e)
    (hshare : 0 < e.perCallEstimate.micros.toInt) {s : Cohort}
    (h : cohort.ReachesBy WithinReserved { envelope := e } s) :
    s.charged + s.outstanding ≤ e.ceiling.toInt ∧
      ∀ c ∈ s.calls, ∀ amount ∈ drawn c.account, 0 < amount := by
  have hinv : s.Inv e :=
    h.invariant (Cohort.inv_initial hcreated) fun _ _ _ hinv hwithin hstep =>
      hinv.step hwithin hstep
  constructor
  · have hsums := Cohort.sums_le_claims hinv.calls
    have hconserved := hinv.conserved
    have hnonneg := s.envelope.nonneg
    omega
  · intro c hc amount hamount
    rw [(hinv.calls c hc).drawn_eq amount hamount]
    exact hshare

def twoChildren (perChildCeiling : String) : Plans.DelegateFanoutConfig :=
  { scopeGrant := ["read"], childCount := 2, perChildCeiling }

def fanoutPlan (perChildCeiling : String) : Plans.Plan :=
  { startStep := "fan", allowedTools := ["read"], costCeiling := "1"
    steps := [{ id := "fan", kind := .delegateFanout
                delegateFanout := some (twoChildren perChildCeiling) }] }

/-- A call of a member, up to the price of its usage: tokens of input at a price of 3 a million. -/
def memberCall (i : ℕ) (tokens : Int64) : List CohortAction :=
  [.reserve fanoutWording 1 1 { tenantID := 1, sessionID := 2, modelID := "", purpose := .turn },
    .move i (.draw 9 .answered),
    .move i (.reconcile (.ok (flatBook 3000000)) 1 [(.inputUncached, tokens)] true)]

/-- The envelope of two children with a ceiling of 0.1 each. -/
def sampleEnvelope : Envelope where
  currency := "USD"
  ceiling := 200000
  remaining := 200000
  members := 2
  nonneg := by decide
  le_ceiling := by decide

/-- One call has been charged 3300 and returned the rest, another is outstanding. -/
theorem sampleCohort_bounded :
    fanoutEnvelope (twoChildren "0.1") = .ok (some sampleEnvelope) ∧
      ∃ s, cohort.ReachesBy WithinReserved { envelope := sampleEnvelope } s ∧ s.charged = 3300 ∧
        s.outstanding = 100000 ∧ s.envelope.remaining = 96700 ∧
        s.charged + s.outstanding ≤ sampleEnvelope.ceiling.toInt ∧
        ∀ c ∈ s.calls, ∀ amount ∈ drawn c.account, 0 < amount := by
  have hcreated : fanoutEnvelope (twoChildren "0.1") = .ok (some sampleEnvelope) := by
    decide +kernel
  refine ⟨hcreated, Machine.ReachesBy.exists_of_runBy_imp
    (memberCall 0 1100 ++ [.move 0 (.giveBack .answered)] ++ (memberCall 1 1100).take 2)
    (fun s => s.charged = 3300 ∧ s.outstanding = 100000 ∧ s.envelope.remaining = 96700) ?_
    fun s hs ⟨hcharged, houtstanding, hremaining⟩ => ⟨hcharged, houtstanding, hremaining,
      cohort_bounded (.fanout hcreated) (by decide +kernel) hs⟩⟩
  decide +kernel

/-- Plans that are accepted, and whose envelopes do not bound their members: a call may be charged
more than its share of a small ceiling, and without a ceiling for each child every call is granted
for nothing. -/
theorem fanouts_unbounded :
    (Plans.validate (fanoutPlan "0.00001") = .ok () ∧
      ∃ e, fanoutEnvelope (twoChildren "0.00001") = .ok (some e) ∧ e.ceiling.toInt = 20 ∧
        ∃ s, cohort.run { envelope := e } (memberCall 0 1100) = some s ∧ s.charged = 3300) ∧
    Plans.validate (fanoutPlan "") = .ok () ∧
      ∃ e, fanoutEnvelope (twoChildren "") = .ok (some e) ∧
        ∃ s, cohort.run { envelope := e } (memberCall 0 1100) = some s ∧
          s.calls.map Call.account = [.charged 0 3300] := by
  refine ⟨⟨by decide +kernel, ?_⟩, by decide +kernel, ?_⟩
  · exact ⟨_, rfl, rfl, Machine.exists_run (by decide +kernel)⟩
  · exact ⟨_, rfl, Machine.exists_run (by decide +kernel)⟩

end NexusAgent.Envelopes
