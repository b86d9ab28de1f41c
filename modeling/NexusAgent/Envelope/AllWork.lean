import NexusAgent.Envelope.Cohort

/-!
# What a tenant spends in all

A tenant's model calls go through one of three gates: the tenant's counter, the envelope of a
fan-out, or the envelope of a team. The counter keeps its callers below the tenant's ceiling and
each envelope keeps its members below its own, but an envelope is created without a word to the
counter: nothing is reserved for it there. So the tenant's ceiling bounds all of its calls only
together with the ceilings of its envelopes.
-/

namespace NexusAgent.Envelopes

open Cost Cost.Tenant

/-- The counter of a tenant and the envelopes that were created for it. -/
structure Tenancy where
  gate : Tenant.System
  cohorts : List Cohort := []

/-- What happens for a tenant. -/
inductive TenancyAction
  | gate (a : Tenant.Action)
  /-- A `delegate_fanout` step creates its envelope. -/
  | fanout (config : Plans.DelegateFanoutConfig)
  /-- `CreateTeam`. -/
  | team (ceiling : Money) (members : ℕ)
  | member (i : ℕ) (a : CohortAction)

def Tenancy.create (s : Tenancy) (e : Option Envelope) : Tenancy :=
  { s with cohorts := s.cohorts ++ (e.map fun e => { envelope := e }).toList }

/-- All sessions of a tenant with the budget `b`, under every interleaving. -/
def tenancy (b : Budget) : Machine Tenancy TenancyAction where
  step s
    | .gate a => ((counterMachine b).step s.gate a).map fun gate => { s with gate }
    | .fanout config => some (s.create (fanoutEnvelope config).toOption.join)
    | .team ceiling members => some (s.create (teamEnvelope ceiling members))
    | .member i a =>
      s.cohorts[i]?.bind fun co =>
        (cohort.step co a).map fun co' => { s with cohorts := s.cohorts.set i co' }

/-- The usage of all calls for the tenant: what was recorded before the counter was armed, what
was charged since, and what is reserved for calls whose usage has no price yet. -/
def Tenancy.spent (s : Tenancy) : ℤ :=
  s.gate.baseline.getD 0 + s.gate.charged + s.gate.outstanding +
    (s.cohorts.map fun co => co.charged + co.outstanding).sum

def Tenancy.pledged (s : Tenancy) : ℤ :=
  (s.cohorts.map fun co => co.envelope.ceiling.toInt).sum

/-- The prices fit, and no call is charged more than was reserved for it. -/
def Priced (Q : ℤ) (s : Tenancy) : TenancyAction → Prop
  | .gate a => PricesFit Q s.gate a
  | .fanout _ | .team .. => True
  | .member i a => ∀ co ∈ s.cohorts[i]?, WithinReserved co a

instance (Q : ℤ) (s : Tenancy) (a : TenancyAction) : Decidable (Priced Q s a) := by
  cases a <;> unfold Priced <;> infer_instance

/-- The envelope that an action creates, if any, is empty. -/
def Unfunded : TenancyAction → Prop
  | .fanout config => ∀ e ∈ (fanoutEnvelope config).toOption.join, e.ceiling = 0
  | .team ceiling members => ∀ e ∈ teamEnvelope ceiling members, e.ceiling = 0
  | .gate _ | .member .. => True

instance (a : TenancyAction) : Decidable (Unfunded a) := by
  cases a <;> unfold Unfunded <;> infer_instance

/-! ### Counter and envelopes together -/

/-- The counter keeps its laws, and each envelope those of its cohort. -/
structure Tenancy.Inv (b : Budget) (s : Tenancy) : Prop where
  gate : Tenant.Inv b s.gate
  cohorts : ∀ co ∈ s.cohorts, ∃ e, Created e ∧ co.Inv e

variable {b : Budget} {s : Tenancy}

lemma Tenancy.Inv.create (hinv : s.Inv b) {e : Option Envelope}
    (hcreated : ∀ e' ∈ e, Created e') : (s.create e).Inv b := by
  refine ⟨hinv.gate, List.forall_mem_append.2 ⟨hinv.cohorts, fun co hco => ?_⟩⟩
  obtain ⟨e', he', rfl⟩ := Option.map_eq_some_iff.1 (Option.mem_toList.1 hco)
  exact ⟨e', hcreated e' he', Cohort.inv_initial (hcreated e' he')⟩

lemma created_of_fanout {config : Plans.DelegateFanoutConfig} {e : Envelope}
    (h : e ∈ (fanoutEnvelope config).toOption.join) : Created e := by
  cases hfanout : fanoutEnvelope config with
  | error err => simp [hfanout, Except.toOption] at h
  | ok created =>
    rw [hfanout] at h
    obtain rfl : created = some e := h
    exact .fanout hfanout

lemma Tenancy.Inv.step {s' : Tenancy} {a : TenancyAction} {Q : ℤ}
    (hinv : s.Inv b) (hexact : Exact b.ceiling.micros.toInt) (hpriced : Priced Q s a)
    (h : (tenancy b).step s a = some s') : s'.Inv b := by
  cases a with
  | gate a =>
    obtain ⟨gate, hgate, rfl⟩ := Option.map_eq_some_iff.1 h
    exact ⟨hinv.gate.step hexact hpriced hgate, hinv.cohorts⟩
  | fanout config =>
    cases h
    exact hinv.create fun _ => created_of_fanout
  | team ceiling members =>
    cases h
    exact hinv.create fun _ he => .team he
  | member i a =>
    obtain ⟨co, co', hi, hstep, rfl⟩ := Option.bind_map_some h
    refine ⟨hinv.gate, fun d hd => ?_⟩
    rcases List.mem_or_eq_of_mem_set hd with hd | rfl
    · exact hinv.cohorts d hd
    · obtain ⟨e, hcreated, hco⟩ := hinv.cohorts co (List.mem_of_getElem? hi)
      exact ⟨e, hcreated, hco.step (hpriced co hi) hstep⟩

/-- What the members of the envelopes spend is at most what the envelopes were given. -/
lemma Tenancy.Inv.members_le (hinv : s.Inv b) :
    (s.cohorts.map fun co => co.charged + co.outstanding).sum ≤ s.pledged := by
  refine List.sum_le_sum fun co hco => ?_
  obtain ⟨e, -, hco⟩ := hinv.cohorts co hco
  have hsums := Cohort.sums_le_claims hco.calls
  have hconserved := hco.conserved
  have hnonneg := co.envelope.nonneg
  rw [hco.ceiling_eq]
  omega

/-- All calls for a tenant stay below its ceiling, or the baseline if that is larger, and what its
envelopes were given. -/
theorem spent_le_pledged (hinv : s.Inv b)
    (hwithin : ∀ c ∈ s.gate.calls, c.account.WithinReservation) :
    s.spent ≤ max (s.gate.baseline.getD 0) b.ceiling.micros.toInt + s.pledged := by
  have hmembers := hinv.members_le
  unfold Tenancy.spent
  cases hβ : s.gate.baseline with
  | none =>
    obtain ⟨houtstanding, hcharged, -⟩ := hinv.gate.unarmed hβ
    have hmax := le_max_right (0 : ℤ) b.ceiling.micros.toInt
    omega
  | some β =>
    have hconserved := hinv.gate.conserved β hβ
    have hbounded := hinv.gate.bounded β hβ hwithin
    rw [Option.getD_some]
    omega

/-! ### Without money in envelopes -/

/-- Envelopes that are created empty stay empty. -/
lemma pledged_step {s' : Tenancy} {a : TenancyAction} (hs : s.pledged = 0)
    (hunfunded : Unfunded a) (h : (tenancy b).step s a = some s') : s'.pledged = 0 := by
  have hcreate {e : Option Envelope} (he : ∀ e' ∈ e, e'.ceiling = 0) :
      (s.create e).pledged = 0 := by
    unfold Tenancy.pledged Tenancy.create at *
    rw [List.map_append, List.sum_append, hs]
    cases e with
    | none => rfl
    | some e' =>
      show 0 + (e'.ceiling.toInt + 0) = 0
      rw [he e' rfl]
      rfl
  cases a with
  | gate a =>
    obtain ⟨gate, -, rfl⟩ := Option.map_eq_some_iff.1 h
    exact hs
  | fanout | team =>
    cases h
    exact hcreate hunfunded
  | member i a =>
    obtain ⟨co, co', hi, hstep, rfl⟩ := Option.bind_map_some h
    have hsum : Tenancy.pledged { s with cohorts := s.cohorts.set i co' }
        = s.pledged - co.envelope.ceiling.toInt + co'.envelope.ceiling.toInt :=
      List.sum_map_set hi co' fun co => co.envelope.ceiling.toInt
    rw [hsum, hs, cohort_ceiling hstep]
    omega

/-- In every run in which no envelope is given money, prices fit and no call is charged more than
was reserved for it, all calls for the tenant together stay at or below its ceiling, or the
baseline if that is larger. -/
theorem tenantCeiling_covers (b : Budget) (Q : ℤ) (r : Redis) (s : Tenancy)
    (hlo : 0 ≤ b.ceiling.micros.toInt) (hhi : b.ceiling.micros.toInt < 2 ^ 53)
    (hcold : r.epoch b.id = none)
    (h : (tenancy b).ReachesBy (fun s a => Priced Q s a ∧ Unfunded a)
      { gate := System.initial r } s)
    (hwithin : ∀ c ∈ s.gate.calls, c.account.WithinReservation) :
    s.spent ≤ max (s.gate.baseline.getD 0) b.ceiling.micros.toInt := by
  obtain ⟨hinv, hpledged⟩ : s.Inv b ∧ s.pledged = 0 := by
    refine h.invariant (I := fun s => s.Inv b ∧ s.pledged = 0)
      ⟨⟨inv_initial b hcold, List.forall_mem_nil _⟩, rfl⟩ ?_
    rintro t a t' ⟨hinv, hpledged⟩ ⟨hpriced, hunfunded⟩ hstep
    exact ⟨hinv.step ⟨hlo, hhi⟩ hpriced hstep, pledged_step hpledged hunfunded hstep⟩
  have hspent := spent_le_pledged hinv hwithin
  rwa [hpledged, add_zero] at hspent

/-- A team with no money in its envelope beside a call at the counter, which is charged 3300. -/
def emptyTeam : List TenancyAction :=
  (settledRun.map .gate) ++ [.team { micros := 0, currency := "USD" } 2]

theorem emptyTeam_covered :
    ∃ s, (tenancy (tenantBudget 1000000)).ReachesBy (fun s a => Priced 10000 s a ∧ Unfunded a)
        { gate := System.initial Redis.empty } s ∧
      s.cohorts.length = 1 ∧ s.gate.charged = 3300 ∧
      s.spent ≤ max (s.gate.baseline.getD 0) 1000000 := by
  refine Machine.ReachesBy.exists_of_runBy_imp emptyTeam
    (fun s => s.cohorts.length = 1 ∧ s.gate.charged = 3300 ∧
      ∀ c ∈ s.gate.calls, c.account.WithinReservation) ?_
    fun s hs ⟨hlength, hcharged, hwithin⟩ => ⟨hlength, hcharged,
      tenantCeiling_covers (tenantBudget 1000000) 10000 Redis.empty s (by decide) (by decide) rfl hs
        hwithin⟩
  decide +kernel

/-- A fan-out to two children with a ceiling of 10 each and a team with a ceiling of 10. A child and
the member each make one call, which is charged 3 of the 10 that were reserved for it. -/
def fundedEnvelopes : List TenancyAction :=
  [.fanout (twoChildren "10"), .team { micros := 10000000, currency := "USD" } 1] ++
    (memberCall 0 1000000).map (.member 0) ++ (memberCall 0 1000000).map (.member 1)

/-- With a ceiling of 1 for the tenant, 6 are spent. No call is charged more than was reserved for
it, and the counter has not heard of any. -/
theorem envelopes_over_ceiling :
    ∃ s, (tenancy (tenantBudget 1000000)).ReachesBy (Priced 10000)
        { gate := System.initial Redis.empty } s ∧
      s.gate.calls.length = 0 ∧ s.gate.baseline = none ∧
      s.cohorts.map Cohort.charged = [3000000, 3000000] ∧
      s.cohorts.map Cohort.outstanding = [0, 0] ∧ s.spent = 6000000 := by
  apply Machine.ReachesBy.exists_of_runBy fundedEnvelopes
  decide +kernel

end NexusAgent.Envelopes
