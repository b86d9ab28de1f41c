import NexusAgent.Oversight.Approvals

/-!
# Input requests

An agent asks a human for information (`internal/oversight/input.go`, `invalidate.go`). A request
is answered, or resolved by its own policy once its deadline has passed, or invalidated. Each call
is one unit of work; one that fails leaves the table as it was. The events that record the
outcomes are not part of this model.
-/

namespace NexusAgent.Oversight

inductive InputStatus
  | pending
  | answered
  | expired
  | invalidated
  deriving DecidableEq

def InputStatus.text : InputStatus → String
  | .pending => "pending"
  | .answered => "answered"
  | .expired => "expired"
  | .invalidated => "invalidated"

/-- What becomes of a request that nobody answers. -/
inductive OnExpiry
  | expire
  | default

structure InputRequest where
  inputRequestID : UUID
  tenantID : UUID
  sessionID : UUID
  question : String := ""
  schema : String := ""
  onExpiry : OnExpiry := .expire
  defaultAssumption : String := ""
  status : InputStatus := .pending
  answer : String := ""
  usedDefault : Bool := false
  expiresAt : ℕ
  reason : Option String := none

abbrev InputTable := List InputRequest

def InputTable.put (rows : InputTable) (ir : InputRequest) : InputTable :=
  rows.map fun r => if r.inputRequestID = ir.inputRequestID then ir else r

/-- `LockInputRequest`, in the tenant's scope. -/
def InputTable.lock (rows : InputTable) (tenantID inputRequestID : UUID) : Option InputRequest :=
  rows.find? fun ir => ir.inputRequestID = inputRequestID ∧ ir.tenantID = tenantID

/-- `expireLocked`: the default assumption is the answer, or there is none. -/
def InputRequest.expireLocked (ir : InputRequest) : InputRequest :=
  match ir.onExpiry with
  | .default =>
    { ir with status := .answered, answer := ir.defaultAssumption, usedDefault := true }
  | .expire => { ir with status := .expired }

/-- A request that is pending past its deadline. -/
def InputRequest.Lapsed (ir : InputRequest) (now : ℕ) : Prop :=
  ir.status = .pending ∧ ir.expiresAt < now

instance (ir : InputRequest) (now : ℕ) : Decidable (ir.Lapsed now) := instDecidableAnd

def errInputNotPending (inputRequestID : UUID) (status : InputStatus) : String :=
  "oversight: input request " ++ inputRequestID.string ++ " is " ++ status.text ++ ", not pending"

def errInputNotFound : String := "oversight: not found: input request"

/-- `Answer`: a request whose deadline has passed is resolved by its policy, and the answer is
refused. -/
def answerInput (tenantID inputRequestID : UUID) (now : ℕ) (answer : String) (rows : InputTable) :
    Except String InputRequest × InputTable :=
  match rows.lock tenantID inputRequestID with
  | none => (.error errInputNotFound, rows)
  | some ir =>
    if ir.Lapsed now then
      (.error (errInputNotPending inputRequestID ir.expireLocked.status), rows.put ir.expireLocked)
    else if ir.status ≠ .pending then (.error (errInputNotPending inputRequestID ir.status), rows)
    else
      let ir := { ir with status := .answered, answer, usedDefault := false }
      (.ok ir, rows.put ir)

/-- `Expire`: a request that is not pending is left alone. -/
def expireInput (tenantID inputRequestID : UUID) (rows : InputTable) :
    Except String InputRequest × InputTable :=
  match rows.lock tenantID inputRequestID with
  | none => (.error errInputNotFound, rows)
  | some ir =>
    if ir.status ≠ .pending then (.ok ir, rows) else (.ok ir.expireLocked, rows.put ir.expireLocked)

/-- `Invalidate`: every pending request of a session. -/
def invalidateInputs (tenantID sessionID : UUID) (reason : InvalidationReason)
    (rows : InputTable) : InputTable :=
  rows.map fun ir =>
    if ir.tenantID = tenantID ∧ ir.sessionID = sessionID ∧ ir.status = .pending then
      { ir with status := .invalidated, reason := nullIfEmpty reason.text }
    else ir

variable {rows : InputTable} {tenantID id : UUID} {ir : InputRequest}

lemma InputTable.lock_eq_some (h : rows.lock tenantID id = some ir) : ir.inputRequestID = id := by
  have hfound : ir.inputRequestID = id ∧ ir.tenantID = tenantID := by
    simpa using List.find?_some h
  exact hfound.1

@[simp]
lemma InputRequest.expireLocked_id (ir : InputRequest) :
    ir.expireLocked.inputRequestID = ir.inputRequestID := by
  unfold InputRequest.expireLocked
  split <;> rfl

lemma InputTable.mem_put {r : InputRequest} (hr : r ∈ rows)
    (hne : r.inputRequestID ≠ ir.inputRequestID) : r ∈ rows.put ir :=
  List.mem_map.2 ⟨r, hr, if_neg hne⟩

/-- An answer leaves the requests under other identifiers alone. -/
lemma mem_answerInput {now : ℕ} {answer : String} {r : InputRequest} (hr : r ∈ rows)
    (hne : r.inputRequestID ≠ id) : r ∈ (answerInput tenantID id now answer rows).2 := by
  unfold answerInput
  split
  · exact hr
  next ir hlock =>
    obtain rfl := InputTable.lock_eq_some hlock
    split_ifs
    · exact InputTable.mem_put hr (by simpa using hne)
    · exact hr
    · exact InputTable.mem_put hr hne

/-- An answer that is refused in time has changed nothing. -/
lemma answerInput_error {now : ℕ} {answer err : String} {rows' : InputTable}
    (htimely : ∀ ir ∈ rows.lock tenantID id, ¬ ir.Lapsed now)
    (h : answerInput tenantID id now answer rows = (.error err, rows')) : rows' = rows := by
  unfold answerInput at h
  split at h
  · exact (Prod.mk.inj h).2.symm
  next ir hlock =>
    rw [if_neg (htimely ir hlock)] at h
    split_ifs at h
    · exact (Prod.mk.inj h).2.symm
    · nomatch (Prod.mk.inj h).1

/-- An expiry leaves the requests under other identifiers alone. -/
lemma mem_expireInput {r : InputRequest} (hr : r ∈ rows) (hne : r.inputRequestID ≠ id) :
    r ∈ (expireInput tenantID id rows).2 := by
  unfold expireInput
  split
  · exact hr
  next ir hlock =>
    obtain rfl := InputTable.lock_eq_some hlock
    split_ifs
    · exact hr
    · exact InputTable.mem_put hr (by simpa using hne)

end NexusAgent.Oversight
