import Mathlib.Algebra.Order.BigOperators.Group.List
import NexusAgent.Cost.Reconcile
import NexusAgent.Lib.Lists
import NexusAgent.Lib.Machine

/-!
# The session ceiling

One session with a budget: a sequence of `Reserve` and `Reconcile` calls of one process after
another over the same ledger. The running spend that a reservation is checked against is in
the memory of the gate, the cost records are in the ledger; a gate of a new process starts
from nothing.

- `Inv.step`: without a restart after spending, and in one currency, the running spend of the
  gate is the recorded spend and the outstanding reservations.
-/

namespace NexusAgent.Cost.Session

structure BudgetedSession where
  tenantID : UUID
  sessionID : UUID
  budget : Budget

/-- The gate of the current process, the ledger, and what the run so far has done. -/
structure State where
  gate : Gate
  records : List CostRecord
  /-- The reservations that have been granted and not reconciled. -/
  outstanding : List Reservation
  /-- The recorded spend and the outstanding reservations right after each grant. -/
  grants : List ℤ
  /-- What was reserved and what was charged in each reconciliation. -/
  charges : List (ℤ × ℤ)

def totalReserved (reservations : List Reservation) : ℤ :=
  (reservations.map fun res => res.decision.reserved.micros.toInt).sum

namespace State

/-- The recorded spend of the session. -/
def recorded (s : State) : ℤ := totalCost s.records

def reserved (s : State) : ℤ := totalReserved s.outstanding

/-- A new session in a new process. -/
def initial (g : Gate) : State :=
  { gate := g, records := [], outstanding := [], grants := [], charges := [] }

def WithinReservations (s : State) : Prop := ∀ p ∈ s.charges, p.2 ≤ p.1

instance (s : State) : Decidable s.WithinReservations :=
  inferInstanceAs (Decidable (∀ p ∈ s.charges, p.2 ≤ p.1))

end State

/-- A call on the session, or a new process. `lookup` is why the budget of the session could
not be read, `persist` why the decision could not be recorded, and `recorded` whether the
usage could be. -/
inductive Action
  | reserve (priceBook : Except String PriceBook) (lookup : Option String)
      (tenantBudget : Except String (Option Budget)) (now : ℤ) (counters : TenantAnswers)
      (persist : Option String) (id : UUID) (modelID : String) (purpose : Purpose)
  | reconcile (i : ℕ) (priceBook : Except String PriceBook) (now : ℤ) (usage : Usage)
      (reported recorded : Bool)
  | restart (counters : Bool) (meters : MeterID → Option Meter) (cfg : GateConfig)

/-- A reservation that is granted against a budget. -/
def isGranted (res : Reservation) : Bool :=
  decide (res.decision.kind = .allow ∨ res.decision.kind = .degrade)

/-- A reservation of the session. -/
def State.reserve (s : State) (answer : (Reservation × Option String) × Gate) : State :=
  let ((res, _), gate) := answer
  if isGranted res then
    { s with gate := gate, outstanding := s.outstanding ++ [res]
             grants := s.grants ++ [s.recorded + s.reserved + res.decision.reserved.micros.toInt] }
  else { s with gate := gate }

/-- The reconciliation of the outstanding reservation at `i`. One that returns an error before
the usage is recorded leaves the reservation outstanding. -/
def State.reconcile (s : State) (i : ℕ) (res : Reservation)
    (priced : Except String (List CostRecord × Money) × Gate) (recorded : Bool) : State :=
  match priced with
  | (.error _, gate) => { s with gate := gate }
  | (.ok (records, actual), gate) =>
    if !records.isEmpty && !recorded then { s with gate := gate }
    else
      { s with gate := (gate.finishReconcile res actual).2
               records := s.records ++ records
               outstanding := s.outstanding.eraseIdx i
               charges := s.charges ++
                [(res.decision.reserved.micros.toInt, totalCost records)] }

/-- The calls on the session `σ` and the restarts between them. -/
def sessionMachine (σ : BudgetedSession) : Machine State Action where
  step s
    | .reserve priceBook lookup tenantBudget now counters persist id modelID purpose =>
      let sessionBudget : Except String (Option Budget) :=
        match lookup with
        | some err => .error err
        | none => .ok (some σ.budget)
      let answers : ReserveAnswers :=
        { priceBook := priceBook, sessionBudget := sessionBudget
          tenantBudget := tenantBudget, now := now }
      let req : ReserveRequest :=
        { tenantID := σ.tenantID, sessionID := σ.sessionID, modelID := modelID
          purpose := purpose }
      some (s.reserve (s.gate.reserve answers counters persist id req))
    | .reconcile i priceBook now usage reported recorded =>
      match s.outstanding[i]? with
      | none => none
      | some res =>
        some (s.reconcile i res (s.gate.price priceBook now res usage reported) recorded)
    | .restart counters meters cfg => some { s with gate := newGate counters meters cfg }

/-! ### The condition -/

/-- The prices of a book are not negative, do not overflow for up to `Q` tokens, and are in
the currency of the ceiling. -/
def BookSound (σ : BudgetedSession) (Q : ℤ) (pb : PriceBook) : Prop :=
  pb.Fits Q ∧ pb.InCurrency σ.budget.ceiling.currency

instance (σ : BudgetedSession) (Q : ℤ) (pb : PriceBook) : Decidable (BookSound σ Q pb) :=
  inferInstanceAs (Decidable (_ ∧ _))

def AnswerSound (σ : BudgetedSession) (Q : ℤ) : Except String PriceBook → Prop
  | .ok pb => BookSound σ Q pb
  | .error _ => True

instance (σ : BudgetedSession) (Q : ℤ) (answer : Except String PriceBook) :
    Decidable (AnswerSound σ Q answer) := by
  cases answer <;> unfold AnswerSound <;> infer_instance

/-- A process counts in the currency of the ceiling, and its estimates are between zero and
`Q` tokens. -/
def ConfigSound (σ : BudgetedSession) (Q : ℤ) (cfg : GateConfig) : Prop :=
  cfg.withDefaults.currency = σ.budget.ceiling.currency ∧ cfg.withDefaults.EstimatesWithin Q

instance (σ : BudgetedSession) (Q : ℤ) (cfg : GateConfig) : Decidable (ConfigSound σ Q cfg) :=
  inferInstanceAs (Decidable (_ ∧ _))

/-- The condition on a step: prices and token counts are sound, and the process is not
replaced once the session has cost records or outstanding reservations. -/
def StepSound (σ : BudgetedSession) (Q : ℤ) (s : State) : Action → Prop
  | .reserve priceBook _ _ _ _ _ _ _ _ => AnswerSound σ Q priceBook
  | .reconcile _ priceBook _ usage _ _ => AnswerSound σ Q priceBook ∧ usage.Within Q
  | .restart _ _ cfg => s.records = [] ∧ s.outstanding = [] ∧ ConfigSound σ Q cfg

instance (σ : BudgetedSession) (Q : ℤ) (s : State) (act : Action) :
    Decidable (StepSound σ Q s act) := by
  cases act <;> unfold StepSound <;> infer_instance

/-! ### The running spend of a gate -/

variable {answer : Except String PriceBook} {cfg : GateConfig} {res : Reservation}

section Spend

variable {σ : BudgetedSession} {Q : ℤ} {g g' : Gate}

/-- A gate whose caches hold what the ledger holds. -/
structure GateSound (σ : BudgetedSession) (Q : ℤ) (g : Gate) : Prop where
  currency : g.cfg.currency = σ.budget.ceiling.currency
  estimates : g.cfg.EstimatesWithin Q
  books : ∀ pb, g.priceBooks σ.tenantID = some pb → BookSound σ Q pb
  budget : ∀ st, g.sessionState σ.sessionID = some st → st.budget = some σ.budget

lemma GateSound.book (hg : GateSound σ Q g) (hanswer : AnswerSound σ Q answer) {pb : PriceBook}
    (h : (g.priceBookFor σ.tenantID answer).1 = .ok pb) : BookSound σ Q pb := by
  unfold Gate.priceBookFor at h
  split at h
  · next pb' hcached =>
    obtain rfl := Except.ok.inj h
    exact hg.books _ hcached
  · nomatch h
  · obtain rfl := Except.ok.inj h
    exact hanswer

/-- Filling the caches keeps a gate sound. -/
lemma GateSound.loaded (hg : GateSound σ Q g) {a : ReserveAnswers} {req : ReserveRequest}
    (h : g.Loaded a req g') (hbook : AnswerSound σ Q a.priceBook)
    (hsession : ∀ found, a.sessionBudget = .ok found → found = some σ.budget) :
    GateSound σ Q g' where
  currency := by rw [h.cfg_eq, hg.currency]
  estimates := by rw [h.cfg_eq]; exact hg.estimates
  books pb hpb := by
    rcases h.priceBooks _ _ hpb with hold | hnew
    · exact hg.books pb hold
    · rwa [hnew] at hbook
  budget st hst := by
    rcases h.sessions _ _ hst with hold | hnew
    · exact hg.budget st hold
    · exact hsession _ hnew

lemma GateSound.sessBudget (hg : GateSound σ Q g) {sid : UUID}
    {answer : Except String (Option Budget)} {found : Option Budget}
    (h : (g.sessionBudgetFor sid answer).1 = .ok found)
    (hanswer : ∀ found, answer = .ok found → found = some σ.budget)
    (hsid : sid = σ.sessionID) : found = some σ.budget := by
  subst hsid
  unfold Gate.sessionBudgetFor at h
  split at h
  · next st hcached =>
    obtain rfl := Except.ok.inj h
    exact hg.budget st hcached
  · nomatch h
  · next found' =>
    obtain rfl := Except.ok.inj h
    exact hanswer _ rfl

def SpendSound (σ : BudgetedSession) (spent : Money) : Prop :=
  spent = {} ∨ spent.currency = σ.budget.ceiling.currency

lemma checkSession_ok {spent worst tentative : Money} {soft : Bool}
    (h : checkSession cfg spent worst (some σ.budget) = .ok (tentative, soft))
    (hcur : σ.budget.ceiling.currency ≠ "") (hspent : SpendSound σ spent)
    (hworst : worst.currency = σ.budget.ceiling.currency) :
    tentative = { micros := spent.micros + worst.micros
                  currency := σ.budget.ceiling.currency } ∧
      tentative.micros ≤ σ.budget.ceiling.micros := by
  have hcurrent : (if spent.currency = "" then Money.zero σ.budget.ceiling.currency else spent)
      = { micros := spent.micros, currency := σ.budget.ceiling.currency } := by
    rcases hspent with rfl | hc
    · rfl
    · rw [if_neg (by rw [hc]; exact hcur), ← hc]
  have hsum : Money.orZero (Money.add { micros := spent.micros
                                        currency := σ.budget.ceiling.currency } worst)
      = { micros := spent.micros + worst.micros, currency := σ.budget.ceiling.currency } := by
    rw [Money.add_of_eq (by exact hworst.symm)]
    rfl
  simp only [checkSession, hcurrent, hsum] at h
  by_cases hover : σ.budget.ceiling.micros < spent.micros + worst.micros
  · rw [if_pos hover] at h
    nomatch h
  · rw [if_neg hover] at h
    cases h
    exact ⟨rfl, Int64.not_lt.1 hover⟩

lemma spentOf_adjustSession (g : Gate) (sid : UUID) (delta : Money)
    (h : (g.spentOf sid).currency = delta.currency) :
    (g.adjustSession sid delta).spentOf sid
      = { micros := (g.spentOf sid).micros - delta.micros
          currency := (g.spentOf sid).currency } := by
  have hst : ((g.sessionState sid).getD { budget := none }).spent = g.spentOf sid := by
    cases hs : g.sessionState sid <;> simp [Gate.spentOf, hs]
  unfold Gate.adjustSession
  simp only [hst]
  rw [Money.sub_of_eq h]
  simp [Gate.spentOf]

lemma GateSound.adjustSession (hg : GateSound σ Q g) (delta : Money)
    (hseen : g.sessionState σ.sessionID ≠ none) :
    GateSound σ Q (g.adjustSession σ.sessionID delta) := by
  cases hs : g.sessionState σ.sessionID with
  | none => exact absurd hs hseen
  | some st =>
    unfold Gate.adjustSession
    simp only [hs, Option.getD_some]
    split
    · exact hg
    · refine ⟨hg.currency, hg.estimates, hg.books, fun st' hst' => ?_⟩
      simp only [Function.update_self] at hst'
      rw [← Option.some.inj hst']
      exact hg.budget st hs

lemma GateSound.grant (hg : GateSound σ Q g) {job : Job} (hjob : job.sessBudget = some σ.budget)
    (hreq : job.req.sessionID = σ.sessionID) : GateSound σ Q (g.grant job) := by
  unfold Gate.grant
  rw [hjob]
  refine ⟨hg.currency, hg.estimates, hg.books, fun st hst => ?_⟩
  simp only [hreq, Function.update_self] at hst
  rw [← Option.some.inj hst]

end Spend

/-! ### The invariant -/

structure Held (σ : BudgetedSession) (res : Reservation) : Prop where
  tenant : res.tenantID = σ.tenantID
  session : res.sessionID = σ.sessionID
  budget : res.sessionBudget = some σ.budget
  kind : res.decision.kind = .allow ∨ res.decision.kind = .degrade
  currency : res.decision.reserved.currency = σ.budget.ceiling.currency
  nonneg : 0 ≤ res.decision.reserved.micros.toInt

/-- What every step keeps. -/
structure Inv (σ : BudgetedSession) (Q : ℤ) (s : State) : Prop where
  gate : GateSound σ Q s.gate
  held : ∀ res ∈ s.outstanding, Held σ res
  spend : SpendSound σ (s.gate.spentOf σ.sessionID)
  /-- The session is known to a gate that has granted a reservation of it. -/
  seen : s.outstanding ≠ [] →
    (s.gate.spentOf σ.sessionID).currency = σ.budget.ceiling.currency
  recorded : 0 ≤ s.recorded
  balance : s.WithinReservations →
    (s.gate.spentOf σ.sessionID).micros.toInt = s.recorded + s.reserved ∧
      s.recorded + s.reserved ≤ σ.budget.ceiling.micros.toInt
  granted : s.WithinReservations → ∀ total ∈ s.grants, total ≤ σ.budget.ceiling.micros.toInt

section Steps

variable {σ : BudgetedSession} {Q : ℤ} {s : State}

lemma gateSound_newGate (counters : Bool) (meters : MeterID → Option Meter)
    (hcfg : ConfigSound σ Q cfg) :
    GateSound σ Q (newGate counters meters cfg) :=
  ⟨hcfg.1, hcfg.2, nofun, nofun⟩

lemma currency_ne_empty (hcfg : ConfigSound σ Q cfg) :
    σ.budget.ceiling.currency ≠ "" := by
  rw [← hcfg.1]
  unfold GateConfig.withDefaults
  by_cases h : cfg.currency = "" <;> simp [h]

lemma inv_initial (counters : Bool) (meters : MeterID → Option Meter) (hcfg : ConfigSound σ Q cfg)
    (hlo : 0 ≤ σ.budget.ceiling.micros.toInt) :
    Inv σ Q (State.initial (newGate counters meters cfg)) where
  gate := gateSound_newGate counters meters hcfg
  held := by simp [State.initial]
  spend := .inl rfl
  seen h := absurd rfl h
  recorded := le_rfl
  balance _ := ⟨rfl, hlo⟩
  granted _ := by simp [State.initial]

lemma totalReserved_nonneg {held : List Reservation} (h : ∀ res ∈ held, Held σ res) :
    0 ≤ totalReserved held := by
  refine List.sum_nonneg fun x hx => ?_
  obtain ⟨res, hres, rfl⟩ := List.mem_map.1 hx
  exact (h res hres).nonneg

section

variable (hinv : Inv σ Q s)
include hinv

/-- A new process before anything is spent. -/
lemma Inv.restart (counters : Bool) (meters : MeterID → Option Meter) (hcfg : ConfigSound σ Q cfg)
    (hrecords : s.records = []) (houtstanding : s.outstanding = []) :
    Inv σ Q { s with gate := newGate counters meters cfg } where
  __ := hinv
  gate := gateSound_newGate counters meters hcfg
  spend := .inl rfl
  seen h := absurd houtstanding h
  balance hwithin := by
    have hle := (hinv.balance hwithin).2
    refine ⟨?_, hle⟩
    simp [State.recorded, State.reserved, totalReserved, hrecords, houtstanding, totalCost,
      newGate, Gate.spentOf]

/-- A gate that has filled its caches. -/
lemma Inv.load {g' : Gate} (hg : GateSound σ Q g')
    (hspent : g'.spentOf σ.sessionID = s.gate.spentOf σ.sessionID) :
    Inv σ Q { s with gate := g' } where
  __ := hinv
  gate := hg
  spend := by simpa only [hspent] using hinv.spend
  seen h := by simpa only [hspent] using hinv.seen h
  balance hwithin := by
    simp only [hspent]
    exact hinv.balance hwithin

/-- A reservation keeps the balance. -/
lemma Inv.reserve (hcur : σ.budget.ceiling.currency ≠ "")
    (hhi : σ.budget.ceiling.micros.toInt < 2 ^ 62) {a : ReserveAnswers} (t : TenantAnswers)
    (persist : Option String) (id : UUID) {req : ReserveRequest}
    (hbook : AnswerSound σ Q a.priceBook)
    (hsession : ∀ found, a.sessionBudget = .ok found → found = some σ.budget)
    (htenant : req.tenantID = σ.tenantID) (hsid : req.sessionID = σ.sessionID) :
    Inv σ Q (s.reserve (s.gate.reserve a t persist id req)) := by
  rcases Gate.reserve_spec s.gate a t persist id req with
    ⟨hload, hkind⟩ | ⟨g', job, soft, hload, hproceeds, hres, hgate⟩
  · have hnot : isGranted (s.gate.reserve a t persist id req).1.1 = false := by
      rcases hkind with hkind | hkind <;> simp [isGranted, hkind]
    simp only [State.reserve, hnot, Bool.false_eq_true, if_false]
    exact hinv.load (hinv.gate.loaded hload hbook hsession) (hload.spent_eq _)
  · have hbudget := hinv.gate.sessBudget hproceeds.session hsession hsid
    have hchecked := hproceeds.checked
    rw [hbudget, hsid] at hchecked
    obtain ⟨pb, hpb, hworst⟩ := hproceeds.priced
    rw [htenant] at hpb
    obtain ⟨hfits, hinCur⟩ := hinv.gate.book hbook hpb
    obtain ⟨hnonneg, hsmall⟩ := worstCaseCost_bounds hworst hinv.gate.estimates hfits
    have hcurrency := worstCaseCost_currency hworst hinCur
    obtain ⟨htentative, hle⟩ := checkSession_ok hchecked hcur hinv.spend hcurrency
    have hreq : job.req.sessionID = σ.sessionID := by rw [hproceeds.req_eq, hsid]
    have hspent : (g'.grant job).spentOf σ.sessionID = job.tentativeSessionSpent := by
      rw [← hreq]
      simp [Gate.grant, hbudget, Gate.spentOf]
    have hyes : isGranted ((job.soften soft).reservation id) = true :=
      decide_eq_true (Job.decision_kind _)
    rcases hanswer : s.gate.reserve a t persist id req with ⟨⟨res, err⟩, gate⟩
    rw [hanswer] at hres hgate
    subst hres hgate
    simp only [State.reserve, hyes, if_true]
    have hheld : Held σ ((job.soften soft).reservation id) :=
      ⟨by rw [← htenant, ← hproceeds.req_eq]; rfl, hreq, hbudget, Job.decision_kind _, hcurrency,
        hnonneg⟩
    -- while no charge exceeds its reservation the addition of the check does not wrap
    have hsum (hwithin : s.WithinReservations) : job.tentativeSessionSpent.micros.toInt
        = s.recorded + s.reserved + job.worst.micros.toInt := by
      obtain ⟨heq, hbound⟩ := hinv.balance hwithin
      have hrecorded := hinv.recorded
      have hreserved : 0 ≤ s.reserved := totalReserved_nonneg hinv.held
      rw [htentative, toInt_add_of_lt (by omega) (by omega), heq]
    have hceiling : job.tentativeSessionSpent.micros.toInt ≤ σ.budget.ceiling.micros.toInt :=
      Int64.le_iff_toInt_le.1 hle
    refine ⟨(hinv.gate.loaded hload hbook hsession).grant hbudget hreq,
      List.forall_mem_snoc hinv.held hheld, .inr ?_,
      fun _ => ?_, hinv.recorded, fun hwithin => ?_, fun hwithin =>
        List.forall_mem_snoc (hinv.granted hwithin) ?_⟩
    · rw [hspent, htentative]
    · rw [hspent, htentative]
    · have hreserved : totalReserved (s.outstanding ++ [(job.soften soft).reservation id])
          = s.reserved + job.worst.micros.toInt := by
        simp [totalReserved, State.reserved, Job.reservation, Job.decision, Job.soften]
      show ((g'.grant job).spentOf σ.sessionID).micros.toInt = s.recorded + totalReserved _ ∧
        s.recorded + totalReserved _ ≤ _
      have htotal := hsum hwithin
      rw [hspent, hreserved]
      omega
    · have htotal := hsum hwithin
      have hworst : ((job.soften soft).reservation id).decision.reserved = job.worst := rfl
      rw [hworst]
      omega

lemma Inv.priced (now : ℤ) (usage : Usage) (reported : Bool) (hbook : AnswerSound σ Q answer)
    (htenant : res.tenantID = σ.tenantID) :
    GateSound σ Q (s.gate.price answer now res usage reported).2 ∧
      (s.gate.price answer now res usage reported).2.spentOf σ.sessionID =
        s.gate.spentOf σ.sessionID := by
  rcases Gate.price_gate s.gate answer now res usage reported with hgate | hgate
  · rw [hgate]
    exact ⟨hinv.gate, rfl⟩
  · rw [hgate, htenant]
    let a : ReserveAnswers := { priceBook := answer, sessionBudget := .error ""
                                tenantBudget := .error "", now := now }
    let req : ReserveRequest := { tenantID := σ.tenantID, sessionID := σ.sessionID
                                  modelID := "", purpose := .turn }
    have hload : s.gate.Loaded a req (s.gate.priceBookFor σ.tenantID answer).2 :=
      Gate.loaded_priceBookFor s.gate a req
    exact ⟨hinv.gate.loaded hload hbook nofun, hload.spent_eq _⟩

lemma Inv.settle (hcur : σ.budget.ceiling.currency ≠ "") {i : ℕ}
    (hres : s.outstanding[i]? = some res) {g' : Gate} (hgate : GateSound σ Q g')
    (hspentOf : g'.spentOf σ.sessionID = s.gate.spentOf σ.sessionID) {records : List CostRecord}
    {actual : Money} (hcurrency : actual.currency = σ.budget.ceiling.currency)
    (htotal : actual.micros.toInt = totalCost records) (hactual : 0 ≤ actual.micros.toInt) :
    Inv σ Q
      { s with gate := (g'.finishReconcile res actual).2
               records := s.records ++ records
               outstanding := s.outstanding.eraseIdx i
               charges := s.charges ++
                [(res.decision.reserved.micros.toInt, totalCost records)] } := by
  have hheld := hinv.held res (List.mem_of_getElem? hres)
  have hreservedCur : (g'.reservedOf res).currency = σ.budget.ceiling.currency := by
    unfold Gate.reservedOf
    split_ifs
    · exact hgate.currency
    · exact hheld.currency
  have hseen : (g'.spentOf σ.sessionID).currency = σ.budget.ceiling.currency := by
    rw [hspentOf]
    exact hinv.seen (List.ne_nil_of_mem (List.mem_of_getElem? hres))
  have hknown : g'.sessionState σ.sessionID ≠ none := by
    intro hnone
    rw [Gate.spentOf, hnone] at hseen
    exact hcur hseen.symm
  -- the gate takes the unused part off the running spend
  rw [Gate.finishReconcile_gate hheld.kind (by rw [hheld.budget]; rfl)
    (hreservedCur.trans hcurrency.symm), hheld.session]
  generalize hdelta : ({ micros := res.decision.reserved.micros - actual.micros
                         currency := (g'.reservedOf res).currency } : Money) = delta
  have hspent := spentOf_adjustSession g' σ.sessionID delta
    (by rw [← hdelta, hseen, hreservedCur])
  have hreserved : totalReserved (s.outstanding.eraseIdx i)
      = s.reserved - res.decision.reserved.micros.toInt := List.sum_map_eraseIdx hres _
  have hrecorded : totalCost (s.records ++ records) = s.recorded + actual.micros.toInt := by
    rw [totalCost_append, htotal]
    rfl
  have hleft (res' : Reservation) (hres' : res' ∈ s.outstanding.eraseIdx i) : Held σ res' :=
    hinv.held res' (List.mem_of_mem_eraseIdx hres')
  have hrest := totalReserved_nonneg hleft
  have hnonneg := hinv.recorded
  refine ⟨hgate.adjustSession delta hknown, hleft, .inr ?_, fun _ => ?_, ?_, fun hwithin => ?_,
    fun hwithin => ?_⟩
  · rw [hspent, hseen]
  · rw [hspent, hseen]
  · show 0 ≤ totalCost (s.records ++ records)
    omega
  · have hbefore : s.WithinReservations := fun p hp => hwithin p (List.mem_append_left _ hp)
    have hcharge : totalCost records ≤ res.decision.reserved.micros.toInt :=
      hwithin _ (List.mem_append_right _ (List.mem_singleton.2 rfl))
    obtain ⟨hbalance, hceiling⟩ := hinv.balance hbefore
    have hreservedHi := Int64.toInt_lt res.decision.reserved.micros
    have hspentHi := Int64.toInt_lt (s.gate.spentOf σ.sessionID).micros
    have hunused : delta.micros.toInt
        = res.decision.reserved.micros.toInt - actual.micros.toInt := by
      rw [← hdelta]
      exact toInt_sub_of_lt (by omega) (by omega)
    show ((g'.adjustSession σ.sessionID delta).spentOf σ.sessionID).micros.toInt
        = totalCost (s.records ++ records) + totalReserved (s.outstanding.eraseIdx i) ∧
      totalCost (s.records ++ records) + totalReserved (s.outstanding.eraseIdx i) ≤ _
    rw [hspent, hspentOf, hrecorded, hreserved, toInt_sub_of_lt (by omega) (by omega)]
    omega
  · exact hinv.granted fun p hp => hwithin p (List.mem_append_left _ hp)

/-- A reconciliation keeps the balance. -/
lemma Inv.reconcile (hcur : σ.budget.ceiling.currency ≠ "") {i : ℕ}
    (hres : s.outstanding[i]? = some res) (now : ℤ) {usage : Usage} (reported recorded : Bool)
    (hbook : AnswerSound σ Q answer) (husage : usage.Within Q) :
    Inv σ Q (s.reconcile i res (s.gate.price answer now res usage reported) recorded) := by
  have hheld := hinv.held res (List.mem_of_getElem? hres)
  obtain ⟨hgate, hspentOf⟩ := hinv.priced now usage reported hbook hheld.tenant
  rcases hprice : s.gate.price answer now res usage reported with ⟨err | ⟨records, actual⟩, g'⟩ <;>
    rw [hprice] at hgate hspentOf
  · exact hinv.load hgate hspentOf
  simp only [State.reconcile]
  by_cases hfail : (!records.isEmpty && !recorded) = true
  · rw [if_pos hfail]
    exact hinv.load hgate hspentOf
  rw [if_neg hfail]
  have hbookSound : ∀ pb, (s.gate.priceBookFor res.tenantID answer).1 = .ok pb →
      BookSound σ Q pb := by
    rw [hheld.tenant]
    exact fun pb hpb => hinv.gate.book hbook hpb
  have hok : (s.gate.price answer now res usage reported).1 = .ok (records, actual) := by
    rw [hprice]
  obtain ⟨hactual, hcharged⟩ := Gate.price_spec hok husage fun pb hpb => (hbookSound pb hpb).1
  rw [hinv.gate.currency] at hcharged
  obtain ⟨hcurrency, htotal⟩ := hcharged hheld.currency fun pb hpb => (hbookSound pb hpb).2
  exact hinv.settle hcur hres hgate hspentOf hcurrency htotal (hactual hheld.nonneg)

end

theorem Inv.step {s' : State} {act : Action} (hinv : Inv σ Q s)
    (hcur : σ.budget.ceiling.currency ≠ "")
    (hhi : σ.budget.ceiling.micros.toInt < 2 ^ 62) (hsound : StepSound σ Q s act)
    (h : (sessionMachine σ).step s act = some s') : Inv σ Q s' := by
  cases act with
  | reserve priceBook lookup tenantBudget now counters persist id modelID purpose =>
    cases h
    refine hinv.reserve hcur hhi counters persist id hsound ?_ rfl rfl
    intro found hfound
    cases lookup with
    | none => exact (Except.ok.inj hfound).symm
    | some err => nomatch hfound
  | reconcile i priceBook now usage reported recorded =>
    dsimp only [sessionMachine] at h
    split at h
    · nomatch h
    · next res hres =>
      cases h
      exact hinv.reconcile hcur hres now reported recorded hsound.1 hsound.2
  | restart counters meters cfg =>
    cases h
    exact hinv.restart counters meters hsound.2.2 hsound.1 hsound.2.1

end Steps

/-- In one currency, with prices that are not negative and do not overflow, and without a new
process once the session has spent or reserved anything, every granted reservation leaves the
recorded spend and the outstanding reservations at or below the session ceiling, as long as
no charge exceeds its reservation. -/
theorem session_ceiling_holds (σ : BudgetedSession) (Q : ℤ) (counters : Bool)
    (meters : MeterID → Option Meter) (cfg : GateConfig) (s : State)
    (hlo : 0 ≤ σ.budget.ceiling.micros.toInt)
    (hhi : σ.budget.ceiling.micros.toInt < 2 ^ 62) (hcfg : ConfigSound σ Q cfg)
    (h : (sessionMachine σ).ReachesBy (StepSound σ Q)
      (State.initial (newGate counters meters cfg)) s)
    (hwithin : s.WithinReservations) :
    ∀ total ∈ s.grants, total ≤ σ.budget.ceiling.micros.toInt := by
  have hcur := currency_ne_empty hcfg
  have hinv : Inv σ Q s :=
    h.invariant (inv_initial counters meters hcfg hlo) fun _ _ _ hinv hsound hstep =>
      hinv.step hcur hhi hsound hstep
  exact hinv.granted hwithin

/-- A session with a ceiling of 0.06 USD. -/
def smallSession : BudgetedSession where
  tenantID := 1
  sessionID := 2
  budget := { id := 7, scope := .session, scopeRef := some 2
              ceiling := { micros := 60000, currency := "USD" }, epoch := 1 }

/-- A reservation of 0.036288 USD, without a tenant budget. -/
def reserveTurn (id : UUID) : Action :=
  .reserve (.ok (flatBook 3000000)) none (.ok none) 1 { reserve := .ok (.ok, 0) } none id ""
    .turn

/-- The first process of the session. -/
def firstGate : Gate := newGate false defaultMeters {}

/-- A turn that costs less than was reserved, and a second turn. -/
def twoTurns : List Action :=
  [reserveTurn 3, .reconcile 0 (.ok (flatBook 3000000)) 2 (.tokens 1000 0 0 100) true true,
    reserveTurn 4]

theorem twoTurns_below_ceiling :
    ∃ s, (sessionMachine smallSession).runBy
        (fun s act => decide (StepSound smallSession 10000 s act)) (State.initial firstGate)
          twoTurns = some s ∧
      s.grants = [36288, 39588] ∧ ∀ total ∈ s.grants, total ≤ 60000 := by
  obtain ⟨s, hrun, hgrants, hwithin⟩ : ∃ s, (sessionMachine smallSession).runBy
      (fun s act => decide (StepSound smallSession 10000 s act)) (State.initial firstGate)
        twoTurns = some s ∧ s.grants = [36288, 39588] ∧ s.WithinReservations := by
    apply Machine.exists_runBy
    decide +kernel
  have hreach := Machine.ReachesBy.of_runBy twoTurns hrun
  exact ⟨s, hrun, hgrants, session_ceiling_holds smallSession 10000 false defaultMeters {} s
    (by decide) (by decide) (by decide) hreach hwithin⟩

/-- A turn that is charged in full, a new process and another turn: the new gate counts from
zero and grants 0.072576 USD in total under a ceiling of 0.06 USD. -/
theorem restart_over_ceiling :
    ∃ s, (sessionMachine smallSession).run (State.initial firstGate)
        [reserveTurn 3, .reconcile 0 (.ok (flatBook 3000000)) 2 (.tokens 0 0 0 0) false true,
          .restart false defaultMeters {}, reserveTurn 4] = some s ∧
      s.WithinReservations ∧ s.recorded = 36288 ∧ s.reserved = 36288 ∧
      ∃ total ∈ s.grants, ¬ total ≤ smallSession.budget.ceiling.micros.toInt := by
  apply Machine.exists_run
  decide +kernel

end NexusAgent.Cost.Session
