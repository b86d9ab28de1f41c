import NexusAgent.Kernel.Rules
import NexusAgent.Kernel.Session
import NexusAgent.Lib.Machine

/-!
# Every model call is paid for

A kernel call asks its budget gate for a reservation before each of its model calls, those of the
turns and those of the condenser, and passes the reservation back to be settled once the model has
answered (`kernel/turns.go`, `kernel/metering.go`). The protocol `metered` counts the reservations
that were granted and not yet used: a model call uses one up, and may only be made while there is
one. `accounts` keeps the books of a call.

Between the grant of a turn's reservation and the turn's model call up to four events are recorded
and handed over: the budget decision, a pruned context, the budget decision of the condenser and
the condensation. Where one of these appends fails, or the consumer stops there, the call returns
without settling the reservation; everywhere else it has none to settle.
-/

namespace NexusAgent.Kernel

open EventLog Provider Routine

def granted : (o : Op) → o.Answer → ℕ
  | .reserve _, (_, none) => 1
  | _, _ => 0

def Op.uses : Op → ℕ
  | .stream .. => 1
  | _ => 0

/-- A model call is made on a reservation that was granted. The state is the number of
reservations that have not been used. -/
def metered : Protocol ℕ Op Op.Answer where
  admits q o := o.uses ≤ q
  step q o a q' := q' + o.uses = q + granted o a

/-! ### What is granted and what is settled -/

def grants : (o : Op) → o.Answer → List Cost.Reservation
  | .reserve _, (res, none) => [res]
  | _, _ => []

def Op.settles : Op → List Cost.Reservation
  | .reconcile res .. => [res]
  | _ => []

/-- Whether an append has failed, or the consumer has stopped the call. -/
def cutsOff : (o : Op) → o.Answer → Bool
  | .append _, .error _ => true
  | .yield .., more => !more
  | _, _ => false

/-- What a kernel call has reserved and settled so far. -/
structure Ledger where
  granted : List Cost.Reservation := []
  settled : List Cost.Reservation := []
  /-- The reservations that were granted and that no model call was made on. -/
  unused : ℕ := 0
  /-- The call was cut off between the grant of a reservation and the model call that it is for. -/
  interrupted : Bool := false

namespace Ledger

/-- Every reservation that was granted is settled, once. -/
def Settled (l : Ledger) : Prop := l.granted.Perm l.settled

def after (l : Ledger) (o : Op) (a : o.Answer) : Ledger where
  granted := l.granted ++ grants o a
  settled := l.settled ++ o.settles
  unused := l.unused + Kernel.granted o a - o.uses
  interrupted := l.interrupted || (cutsOff o a && decide (0 < l.unused))

/-- A call that is over has settled what it was granted, unless it was cut off before a model
call. -/
structure Over (l : Ledger) : Prop where
  settled_iff : l.Settled ↔ l.interrupted = false
  unused_eq : l.interrupted = false → l.unused = 0

end Ledger

/-- The accounts of a kernel call. A model call is made on a reservation that was granted. -/
def accounts : Protocol Ledger Op Op.Answer where
  admits l o := o.uses ≤ l.unused
  step l o a l' := l' = l.after o a

/-- The reservations `held` are not settled, and `n` are not used. -/
structure Holds (held : List Cost.Reservation) (n : ℕ) (l : Ledger) : Prop where
  balance : l.granted.Perm (held ++ l.settled)
  unused_eq : l.unused = n
  going : l.interrupted = false

section

variable {α β : Type} {held : List Cost.Reservation} {n : ℕ} {l : Ledger} {s : RunState} {o : Op}

lemma Holds.settled_iff (h : Holds held n l) : l.Settled ↔ held = [] := by
  constructor
  · intro hsettled
    have hlength := (h.balance.symm.trans hsettled).length_eq
    simpa using hlength
  · rintro rfl
    exact h.balance

lemma Holds.over (h : Holds [] 0 l) : l.Over :=
  ⟨iff_of_true (h.settled_iff.2 rfl) h.going, fun _ => h.unused_eq⟩

/-- Requests that are neither to the budget gate nor to the model. -/
def Op.Free : Op → Prop
  | .reserve _ | .reconcile .. | .stream .. => False
  | _ => True

lemma after_free (l : Ledger) (ho : o.Free) (a : o.Answer) :
    l.after o a =
      { l with interrupted := l.interrupted || (cutsOff o a && decide (0 < l.unused)) } := by
  cases o <;> first | exact ho.elim | simp [Ledger.after, grants, Op.settles, granted, Op.uses]

/-- A call that goes on is not interrupted. -/
lemma Holds.free (h : Holds held n l) (ho : o.Free) {a : o.Answer} (ha : cutsOff o a = false) :
    Holds held n (l.after o a) := by
  rw [after_free l ho, ha, Bool.false_and, Bool.or_false]
  exact h

/-- A call that is cut off has not settled what it holds, which is what it has not used. -/
lemma Holds.cut (h : Holds held held.length l) (ho : o.Free) {a : o.Answer}
    (ha : cutsOff o a = true) : (l.after o a).Over := by
  rw [after_free l ho]
  constructor
  · show l.Settled ↔ _
    simp [h.settled_iff, h.going, ha, h.unused_eq]
  · simp [h.going, ha]

lemma uses_of_free (ho : o.Free) : o.uses = 0 := by
  cases o <;> first | rfl | exact ho.elim

/-- A call that may be over notices nothing but the budget gate and the model. -/
lemma quiet_accounts (h : l.Over) : Quiet accounts l := by
  intro o ho
  have hfree : o.Free := by cases o <;> first | exact ho.elim | trivial
  refine ⟨(uses_of_free hfree).trans_le (Nat.zero_le _), ?_⟩
  rintro a _ rfl
  have hsame : (l.interrupted || (cutsOff o a && decide (0 < l.unused))) = l.interrupted := by
    cases hgoing : l.interrupted with
    | true => rfl
    | false => simp [h.unused_eq hgoing]
  rw [after_free l hfree, hsame]

/-- A request that cannot cut the call off. -/
lemma keeps_free (ho : o.Free) (ha : ∀ a : o.Answer, cutsOff o a = false) :
    Keeps accounts (fun _ => Holds held n) (request o : Call o.Answer) Ledger.Over := by
  refine keeps_request fun _ l h => ⟨(uses_of_free ho).trans_le (Nat.zero_le _), ?_⟩
  rintro a _ rfl
  exact h.free ho (ha a)

/-- An append that fails cuts the call off. -/
lemma Holds.append (h : Holds held held.length l) (d : Draft) :
    accounts.admits l (.append d) ∧
    (∀ (e : AppendError) l',
      accounts.step l (.append d) (.error e : Except AppendError (UUID × ℕ)) l' →
      Quiet accounts l' ∧ l'.Over) ∧
    ∀ (eventID : UUID) (seq : ℕ) l',
      accounts.step l (.append d) (.ok (eventID, seq) : Except AppendError (UUID × ℕ)) l' →
      Holds held held.length l' := by
  refine ⟨Nat.zero_le _, ?_, ?_⟩
  · rintro e _ rfl
    have hover := h.cut (o := .append d) (a := .error e) trivial rfl
    exact ⟨quiet_accounts hover, hover⟩
  · rintro eventID seq _ rfl
    exact h.free (o := .append d) trivial rfl

/-- Whatever a call holds, it keeps apart from its model calls. -/
lemma holding (held : List Cost.Reservation) :
    Invariant accounts (fun _ => Holds held held.length) (fun _ _ => Holds held held.length)
      Ledger.Over where
  passing ho := by
    rename_i o
    cases o <;> first | exact ho.elim | exact keeps_free trivial fun _ => rfl
  append _ s l h := by
    obtain ⟨hadm, herr, hok⟩ := h.append (s.draft _ _ _ _ _)
    exact wp_appendEvent hadm herr hok
  emit h := by
    refine wp_ask (Nat.zero_le _) ?_
    rintro (more : Bool) _ rfl
    cases more with
    | false => exact h.cut (o := .yield ..) (a := false) trivial rfl
    | true => exact h.free (o := .yield ..) (a := true) trivial rfl
  same h _ := h
  same_owed h _ := h

/-! ### Apart from its model calls -/

/-- With nothing held, nothing but the budget gate and the model is noticed. -/
lemma quietly_accounts :
    Quietly accounts (fun _ => True) (fun _ => True) (fun _ => Holds [] 0) Ledger.Over where
  quiet h := ⟨quiet_accounts h.over, h.over⟩
  append h d _ _ := h.append d
  setStatus h _ _ _ := by
    refine ⟨Nat.zero_le _, ?_⟩
    rintro err _ rfl
    exact h.free (o := .setStatus ..) trivial rfl

lemma accounted :
    Pervasive accounts (fun _ => Holds [] 0) (fun _ _ => Holds [] 0) Ledger.Over where
  toInvariant := holding []
  fail := quietly_accounts.fail none
  running := quietly_accounts.updateStatus trivial none
  terminate t := quietly_accounts.terminate trivial t trivial
  suspendForUserInput := quietly_accounts.suspendForUserInput trivial trivial
  suspendForApproval := quietly_accounts.suspendForApproval trivial trivial fun r =>
    keeps_free (o := .recordSuspension r) trivial fun _ => rfl
  suspendForDelegation := quietly_accounts.suspendForDelegation trivial trivial fun r =>
    keeps_free (o := .recordDelegation r) trivial fun _ => rfl

/-! ### Reservations and model calls -/

/-- A reservation is held from its grant on. -/
lemma wp_reserve {r : Cost.ReserveRequest}
    {R : Cost.Reservation × Option String → RunState → Ledger → Prop} (h : Holds held n l)
    (hgranted : ∀ res l', Holds (res :: held) (n + 1) l' → R (res, none) s l')
    (hrefused : ∀ res err, R (res, some err) s l) : wp accounts (reserve r) R Ledger.Over s l := by
  refine wp_request.2 ⟨Nat.zero_le _, ?_⟩
  rintro ⟨res, err⟩ _ rfl
  cases err with
  | none =>
    refine hgranted res _ ⟨?_, congrArg (· + 1) h.unused_eq, ?_⟩
    · show (l.granted ++ [res]).Perm (res :: held ++ (l.settled ++ []))
      rw [List.append_nil]
      exact (List.perm_append_singleton res l.granted).trans (h.balance.cons res)
    · show (l.interrupted || false) = false
      rw [h.going, Bool.or_false]
  | some err =>
    have hsame : l.after (.reserve r) (res, some err) = l := by
      simp [Ledger.after, grants, Op.settles, granted, Op.uses, cutsOff]
    rw [hsame]
    exact hrefused res err

/-- A model call uses one reservation up, and settles none. -/
lemma wp_streamed {p : Prompt} {tools : List ToolSchema}
    {R : Except StreamError (List Chunk × Option StreamError) → RunState → Ledger → Prop}
    (h : Holds held (n + 1) l) (hR : ∀ answer l', Holds held n l' → R answer s l') :
    wp accounts (stream p tools) R Ledger.Over s l := by
  refine wp_request.2 ⟨h.unused_eq.ge.trans' (Nat.le_add_left 1 n), ?_⟩
  rintro answer _ rfl
  refine hR answer _ ⟨?_, congrArg (· - 1) h.unused_eq, ?_⟩
  · simpa [Ledger.after, grants, Op.settles] using h.balance
  · simpa [Ledger.after, cutsOff] using h.going

lemma wp_settled {res : Cost.Reservation} {usage : Usage} {reported : Bool}
    {R : Option String → RunState → Ledger → Prop} (h : Holds (res :: held) n l)
    (hR : ∀ err l', Holds held n l' → R err s l') :
    wp accounts (reconcile res usage reported) R Ledger.Over s l := by
  refine wp_request.2 ⟨Nat.zero_le _, ?_⟩
  rintro err _ rfl
  refine hR err _ ⟨?_, h.unused_eq, ?_⟩
  · show (l.granted ++ []).Perm (held ++ (l.settled ++ [res]))
    rw [List.append_nil, ← List.append_assoc]
    exact h.balance.trans (List.perm_append_singleton res _).symm
  · simpa [Ledger.after, cutsOff] using h.going

lemma wp_reserveTurn {cfg : RunConfig} {R : Cost.Reservation → RunState → Ledger → Prop}
    (h : Holds [] 0 l) (hR : ∀ res s' l', Holds [res] 1 l' → R res s' l') :
    wp accounts (reserveTurn cfg) R Ledger.Over s l := by
  refine wp_bind.2 (wp_get.2 (wp_bind.2 (wp_reserve h (fun res l' h' => ?_) fun res err => ?_)))
  · exact ((holding [res]).appendBudgetDecision res).wp_bind h' fun _ => hR res
  · refine ((holding []).appendBudgetDecision res).wp_bind h fun _ s' l' h' => ?_
    exact wp_bind.2 (wp_terminate (accounted.terminate _ s' l' h'))

/-- The condenser settles what it reserves. -/
lemma keeps_condensed (cfg : RunConfig) (covered : List Message) :
    Keeps accounts (fun _ => Holds held n) (condense cfg covered) Ledger.Over := by
  intro s l h
  refine wp_bind.2 (wp_get.2 (wp_bind.2 (wp_reserve h (fun res l' h' => ?_) fun res err => h)))
  refine wp_bind.2 (wp_streamed h' fun answer l₁ h₁ => ?_)
  match answer with
  | .error _ => exact wp_bind.2 (wp_settled h₁ fun _ _ h₂ => h₂)
  | .ok (chunks, streamErr) =>
    refine wp_bind.2 (wp_settled h₁ fun _ l₂ h₂ => ?_)
    split_ifs <;> exact h₂

lemma wp_streamTurn {cfg : RunConfig} {res : Cost.Reservation} {view : List Message}
    (h : Holds [res] 1 l) :
    wp accounts (streamTurn cfg res view) (fun _ _ => Holds [] 0) Ledger.Over s l := by
  refine wp_bind.2 (wp_streamed h fun answer l₁ h₁ => ?_)
  match answer with
  | .error e => exact wp_bind.2 (wp_settled h₁ fun _ l₂ h₂ => accounted.terminate _ s l₂ h₂)
  | .ok (chunks, some e) =>
    exact wp_bind.2 (wp_settled h₁ fun _ l₂ h₂ => accounted.terminate _ s l₂ h₂)
  | .ok (chunks, none) => exact wp_bind.2 (wp_settled h₁ fun _ l₂ h₂ => h₂)

/-- A turn holds its reservation until the model has answered. -/
lemma keeps_turn (k : Kernel) (cfg : RunConfig) :
    Keeps accounts (fun _ => Holds [] 0) (turn k cfg) Ledger.Over := by
  have hcall := accounted.dispatchCall
    (fun req rc => keeps_free (o := .execute req rc) trivial fun _ => rfl) (fun _ => ?_) cfg
  · intro s l h
    refine accounted.repair.wp_bind h fun _ s l h => ?_
    refine wp_bind.2 (wp_reserveTurn h fun res s l h => ?_)
    refine ((holding [res]).pruneView k).wp_bind h fun view s l h => ?_
    refine ((holding [res]).condenseView k cfg (keeps_condensed cfg) view).wp_bind h ?_
    intro view s l h
    exact wp_seq (wp_streamTurn h) fun out => accounted.answered k cfg hcall out
  · exact quietly_accounts.note trivial

lemma follows_accounts (k : Kernel) (tenantID sessionID : UUID)
    (history : List (Event Payload)) (entry : Entry) :
    (entry.start k tenantID sessionID history).Follows accounts {} fun _ => Ledger.Over :=
  accounted.follows k (keeps_turn k) (fun _ _ _ => ⟨.nil, rfl, rfl⟩) history entry

end

/-- A call under way with `n` unused reservations makes its model calls on reservations that were
granted. -/
def Metered (p : Live) (n : ℕ) : Prop := p.Follows metered n fun _ _ => True

/-- The model calls that a kernel call waits for. -/
def modelCalls : Live → ℕ
  | .ask o _ => o.uses
  | .done _ => 0

/-- The model call that a kernel call waits for is one that it may make. -/
lemma Metered.modelCalls_le {p : Live} {n : ℕ} (h : Metered p n) : modelCalls p ≤ n := by
  cases p with
  | done a => exact Nat.zero_le n
  | ask o k => exact h.1

/-- A call goes on with the reservations that are left and the one that was granted. -/
lemma Metered.answer {o : Op} {k : o.Answer → Live} {n : ℕ}
    (h : Metered (.ask o k) (n + modelCalls (.ask o k))) (a : o.Answer) :
    Metered (k a) (n + granted o a) := by
  apply h.2 a
  show n + granted o a + o.uses = n + o.uses + granted o a
  omega

/-- Every kernel call makes its model calls on reservations that were granted. -/
theorem Entry.follows_metered (k : Kernel) (tenantID sessionID : UUID)
    (history : List (Event Payload)) (entry : Entry) :
    Metered (entry.start k tenantID sessionID history) 0 := by
  refine (follows_accounts k tenantID sessionID history entry).refines
    (r := fun n l => n = l.unused) ?_ ?_ (fun _ _ _ _ _ => trivial) rfl
  · rintro _ l o rfl hadm
    exact hadm
  · rintro _ l o a n rfl hadm hst
    refine ⟨l.after o a, rfl, ?_⟩
    have hst : n + o.uses = l.unused + granted o a := hst
    show n = l.unused + granted o a - o.uses
    omega

/-! ### Calls under way -/

/-- A kernel call on a session, with its books. -/
structure Accounted where
  row : Row
  live : Live
  ledger : Ledger := {}

def isOver : Live → Bool
  | .done _ => true
  | .ask .. => false

/-- A kernel call under way, whose requests are answered one after the other. -/
def settling : Machine Accounted Reply where
  step s t :=
    match s.live with
    | .done _ => none
    | .ask o rest => (s.row.handle o t).map fun (answer, row) =>
      { row, live := rest answer, ledger := s.ledger.after o answer }

/-- When a kernel call is over, each reservation that it was granted has been settled exactly once,
if and only if no append failed and the consumer did not stop between the grant of a reservation
and the model call that it is for. -/
theorem settled_unless_interrupted {k : Kernel} {tenantID sessionID : UUID} {row : Row}
    {entry : Entry} {s : Accounted}
    (h : settling.Reaches
      { row, live := entry.start k tenantID sessionID row.log.events } s)
    (hover : isOver s.live = true) :
    s.ledger.granted.Perm s.ledger.settled ↔ s.ledger.interrupted = false := by
  have hinv : s.live.Follows accounts s.ledger fun _ => Ledger.Over := by
    refine h.invariant (I := fun s => s.live.Follows accounts s.ledger fun _ => Ledger.Over)
      (follows_accounts k tenantID sessionID _ entry) fun s t s' hs hst => ?_
    dsimp only [settling] at hst
    split at hst
    · nomatch hst
    next o rest hlive =>
      obtain ⟨⟨answer, row'⟩, -, rfl⟩ := Option.map_eq_some_iff.1 hst
      rw [hlive] at hs
      exact hs.2 answer _ rfl
  cases hlive : s.live with
  | done r =>
    rw [hlive] at hinv
    exact hinv.settled_iff
  | ask o rest =>
    rw [hlive] at hover
    nomatch hover

/-- A run at its beginning. -/
def firstRun : Accounted := { row := {}, live := Entry.start {} 7 1 [] (.run {}) }

/-- The model answers, and the run completes. -/
theorem answeredTurn_settled :
    ∃ s, settling.Reaches firstRun s ∧ isOver s.live = true ∧ s.ledger.granted.length = 1 ∧
      s.ledger.granted.Perm s.ledger.settled := by
  refine Machine.Reaches.exists_of_run_imp
    [.wrote none, .unmetered, .appended 1, .more true, .streamed (.ok ([.content "done"], none)),
      .wrote none, .appended 2, .more true, .appended 3, .wrote none, .wrote none, .more true]
    (fun s => isOver s.live = true ∧ s.ledger.granted.length = 1 ∧ s.ledger.interrupted = false) ?_
    fun s hs ⟨hover, hlength, hgoing⟩ =>
      ⟨hover, hlength, (settled_unless_interrupted hs hover).2 hgoing⟩
  decide +kernel

/-- The consumer stops at the event that records the grant. -/
theorem stoppedTurn_unsettled :
    ∃ s, settling.Reaches firstRun s ∧ isOver s.live = true ∧ s.ledger.granted.length = 1 ∧
      s.ledger.settled = [] := by
  apply Machine.Reaches.exists_of_run [.wrote none, .unmetered, .appended 1, .more false]
  decide +kernel

end NexusAgent.Kernel
