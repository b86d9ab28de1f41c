import Mathlib.Data.List.AList
import NexusAgent.Lib.Lists
import NexusAgent.Lib.Machine
import NexusAgent.Lib.OrderBy
import NexusAgent.Lib.UnitOfWork
import NexusAgent.Plan.Validate

/-!
# The lifecycle of a plan version

A version of a plan is a row that moves from draft to retired (`internal/plan/lifecycle.go`, with
the statements of `internal/plan/postgres/store.go`). An operation is one unit of work, or a read
and a unit of work; the validation and the eval gate come between the two, so that operations of
any number of callers interleave there.

What is stored of a plan is a document. How a plan is written as one is a parameter, of which only
`Codec.Faithful` is assumed.

- `PlanInv.step`: what holds of the rows and of the operations under way.
-/

namespace NexusAgent.Plans

open EventLog
open UnitOfWork (bind_ok statement_ok throw_ok commit_cases)

/-! ### The model -/

inductive Status
  | draft
  | validated
  | evalPassed
  | signedOff
  | enabled
  | retired
  deriving DecidableEq

/-- A plan with the fields that only the lifecycle reads or writes; the last two are pinned when
the version is enabled. -/
structure PlanSpec extends Plan where
  tenantID : UUID := 0
  name : String := ""
  agentVersion : ℤ := 0
  routeModelID : String := ""

/-- How a plan is stored: what the column holds of the JSON that is written, and the plan that is
read from it. -/
structure Codec (Doc : Type) where
  marshal : PlanSpec → Option Doc
  unmarshal : Doc → Option PlanSpec

/-- What is read is what was written, up to how the document spells it: a plan keeps its version,
and one that was read before is read again as it was, whatever is pinned. -/
structure Codec.Faithful {Doc : Type} (c : Codec Doc) : Prop where
  version : ∀ p doc, c.marshal p = some doc →
    ∃ p', c.unmarshal doc = some p' ∧ p'.version = p.version
  pinned : ∀ p doc agentVersion routeModelID doc', c.unmarshal doc = some p →
    c.marshal { p with agentVersion, routeModelID } = some doc' →
    c.unmarshal doc' = some { p with agentVersion, routeModelID }

structure PlanRow (Doc : Type) where
  tenantID : UUID
  name : String
  spec : Doc
  status : Status
  agentVersion : Option ℤ := none
  routeModelID : Option String := none
  createdBy : Option String := none
  signedOffBy : Option String := none
  enabledAt : Option ℕ := none

abbrev PlanTable (Doc : Type) := AList fun _ : UUID × ℤ => PlanRow Doc

inductive LifecycleErr
  /-- A statement or the commit failed. -/
  | store
  | notFound (planID : UUID) (version : ℤ)
  | immutable (planID : UUID) (version : ℤ) (status : Status)
  | wrongStatus (planID : UUID) (version : ℤ) (status wanted : Status)
  | marshal
  | unmarshal
  | invalid (text : String)
  /-- The eval gate could not run. -/
  | gate
  | noSigner
  | notEnabled (planID : UUID) (version : ℤ)

section Statements

variable {Doc : Type}

/-- A unit of work on the table; an update can draw the time. -/
abbrev PlanWork (Doc : Type) := UnitOfWork (PlanTable Doc) ℕ LifecycleErr

/-- The row of a version, when it is in the tenant's scope. -/
def visibleRow (plans : PlanTable Doc) (tenantID planID : UUID) (version : ℤ) :
    Option (PlanRow Doc) :=
  (plans.lookup (planID, version)).filter fun row => row.tenantID = tenantID

/-- The row of the latest version in the tenant's scope. -/
def latestRow (plans : PlanTable Doc) (tenantID planID : UUID) : Option (PlanRow Doc) :=
  ((orderBy (fun e => e.1.2) (plans.entries.filter fun e =>
    e.1.1 = planID ∧ e.2.tenantID = tenantID)).getLast?).map Sigma.snd

def updateRow (plans : PlanTable Doc) (tenantID planID : UUID) (version : ℤ)
    (f : PlanRow Doc → PlanRow Doc) : PlanTable Doc :=
  match visibleRow plans tenantID planID version with
  | some row => plans.insert (planID, version) (f row)
  | none => plans

/-- `InsertPlan`: refused when the version exists. -/
def insertPlan (tenantID planID : UUID) (version : ℤ) (name : String) (spec : Doc)
    (status : Status) (createdBy : String) : PlanWork Doc Unit :=
  UnitOfWork.statement .store fun _ plans =>
    if plans.lookup (planID, version) = none then
      .ok ((), plans.insert (planID, version)
        { tenantID, name, spec, status,
          createdBy := if createdBy = "" then none else some createdBy })
    else .error .store

/-- `PlanSpec`: a version, or the latest one if the number is not positive. -/
def planSpec (tenantID planID : UUID) (version : ℤ) : PlanWork Doc (Option (Doc × Status)) :=
  UnitOfWork.statement .store fun _ plans =>
    let row := if 0 < version then visibleRow plans tenantID planID version
      else latestRow plans tenantID planID
    .ok (row.map fun row => (row.spec, row.status), plans)

def lockPlan (tenantID planID : UUID) (version : ℤ) : PlanWork Doc (Option (Doc × Status)) :=
  UnitOfWork.statement .store fun _ plans =>
    .ok ((visibleRow plans tenantID planID version).map fun row => (row.spec, row.status), plans)

def setPlan (tenantID planID : UUID) (version : ℤ) (spec : Doc) (status : Status) :
    PlanWork Doc Unit :=
  UnitOfWork.statement .store fun _ plans =>
    .ok ((), updateRow plans tenantID planID version fun row => { row with spec, status })

def setSignedOffBy (tenantID planID : UUID) (version : ℤ) (signer : String) : PlanWork Doc Unit :=
  UnitOfWork.statement .store fun _ plans =>
    .ok ((), updateRow plans tenantID planID version fun row =>
      { row with signedOffBy := some signer })

def setEnabledPins (tenantID planID : UUID) (version agentVersion : ℤ) (routeModelID : String) :
    PlanWork Doc Unit :=
  UnitOfWork.statement .store fun now plans =>
    .ok ((), updateRow plans tenantID planID version fun row =>
      { row with
        agentVersion := some agentVersion, routeModelID := some routeModelID
        enabledAt := some now })

/-- `RetirePlan`: whether an enabled row was found. -/
def retirePlan (tenantID planID : UUID) (version : ℤ) : PlanWork Doc Bool :=
  UnitOfWork.statement .store fun _ plans =>
    match (visibleRow plans tenantID planID version).filter fun row => row.status = .enabled with
    | some row => .ok (true, plans.insert (planID, version) { row with status := .retired })
    | none => .ok (false, plans)

end Statements

section Operations

variable {Doc : Type} (c : Codec Doc)

/-- `Get`. -/
def getPlan (tenantID planID : UUID) (version : ℤ) : PlanWork Doc (PlanSpec × Status) := do
  match ← planSpec tenantID planID version with
  | none => throw (.notFound planID version)
  | some (spec, status) =>
    match c.unmarshal spec with
    | none => throw .unmarshal
    | some p => pure (p, status)

/-- `transition`: the locked row is checked, changed and moved on, and the record that belongs
with the new status is written with it. -/
def transition (tenantID planID : UUID) (version : ℤ) (old new : Status)
    (mutate : PlanSpec → PlanSpec) (after : PlanWork Doc Unit) : PlanWork Doc Unit := do
  match ← lockPlan tenantID planID version with
  | none => throw (.notFound planID version)
  | some (spec, status) =>
    if status = .enabled ∨ status = .retired then throw (.immutable planID version status)
    else if status ≠ old then throw (.wrongStatus planID version status old)
    else match c.unmarshal spec with
      | none => throw .unmarshal
      | some p =>
        match c.marshal (mutate p) with
        | none => throw .marshal
        | some newSpec =>
          setPlan tenantID planID version newSpec new
          after

def signOffWork (tenantID planID : UUID) (version : ℤ) (signer : String) : PlanWork Doc Unit :=
  transition c tenantID planID version .evalPassed .signedOff id
    (setSignedOffBy tenantID planID version signer)

def enableWork (tenantID planID : UUID) (version agentVersion : ℤ) (routeModelID : String) :
    PlanWork Doc Unit :=
  transition c tenantID planID version .signedOff .enabled
    (fun p => { p with agentVersion, routeModelID })
    (setEnabledPins tenantID planID version agentVersion routeModelID)

def retireWork (tenantID planID : UUID) (version : ℤ) : PlanWork Doc Unit := do
  if ← retirePlan tenantID planID version then pure ()
  else throw (.notEnabled planID version)

inductive PlanOp
  /-- `fresh` is the identifier that is drawn for a plan without one. -/
  | create (tenantID : UUID) (p : PlanSpec) (createdBy : String) (fresh : UUID)
  | newVersion (tenantID planID : UUID) (p : PlanSpec) (createdBy : String)
  | validatePlan (tenantID planID : UUID) (version : ℤ)
  | runEvalGate (tenantID planID : UUID) (version : ℤ)
  | signOff (tenantID planID : UUID) (version : ℤ) (signer : String)
  | enable (tenantID planID : UUID) (version agentVersion : ℤ) (routeModelID : String)
  | retire (tenantID planID : UUID) (version : ℤ)

inductive PlanCall
  | called (op : PlanOp)
  /-- `NewVersion` has read the latest version. -/
  | inserting (tenantID : UUID) (p : PlanSpec) (createdBy : String)
  /-- `RunEvalGate` has read the plan, which the gate is run on. -/
  | gating (tenantID planID : UUID) (version : ℤ) (p : PlanSpec)
  /-- `ValidatePlan` has found the plan to be valid. -/
  | accepted (tenantID planID : UUID) (version : ℤ)
  /-- `RunEvalGate` has seen the plan pass. -/
  | passed (tenantID planID : UUID) (version : ℤ)
  /-- Whether it has succeeded; an operation that has found the gate to fail returns `false`. -/
  | returned (result : Except LifecycleErr Bool)

/-- The end of an operation with its last unit of work. -/
def lastWork {Doc : Type} (work : PlanWork Doc Unit) (script : List (Option ℕ))
    (plans : PlanTable Doc) : PlanCall × PlanTable Doc :=
  let r := UnitOfWork.commit .store work script plans
  (.returned (r.1.map fun _ => true), r.2)

/-- `insert`. -/
def insertCall (tenantID : UUID) (p : PlanSpec) (createdBy : String) (script : List (Option ℕ))
    (plans : PlanTable Doc) : PlanCall × PlanTable Doc :=
  match c.marshal p with
  | none => (.returned (.error .marshal), plans)
  | some spec =>
    lastWork (insertPlan tenantID p.planID p.version p.name spec .draft createdBy) script plans

/-- What an operation does with the plan that it has read. -/
def afterGet (result : Except LifecycleErr (PlanSpec × Status))
    (go : PlanSpec → Status → PlanCall) : PlanCall :=
  match result with
  | .error e => .returned (.error e)
  | .ok (p, status) => go p status

/-- The next unit of work of an operation that was called. -/
def PlanOp.exec (script : List (Option ℕ)) (plans : PlanTable Doc) :
    PlanOp → PlanCall × PlanTable Doc
  | .create tenantID p createdBy fresh =>
    let p := if p.planID = 0 then { p with planID := fresh } else p
    insertCall c tenantID { p with tenantID, version := 1 } createdBy script plans
  | .newVersion tenantID planID p createdBy =>
    let r := UnitOfWork.commit .store (getPlan c tenantID planID 0) script plans
    (afterGet r.1 fun latest _ =>
      .inserting tenantID { p with planID, tenantID, version := latest.version + 1 } createdBy, r.2)
  | .validatePlan tenantID planID version =>
    let r := UnitOfWork.commit .store (getPlan c tenantID planID version) script plans
    (afterGet r.1 fun p status =>
      if status ≠ .draft then .returned (.error (.wrongStatus planID version status .draft))
      else match validate p.toPlan with
        | .error text => .returned (.error (.invalid text))
        | .ok () => .accepted tenantID planID version, r.2)
  | .runEvalGate tenantID planID version =>
    let r := UnitOfWork.commit .store (getPlan c tenantID planID version) script plans
    (afterGet r.1 fun p status =>
      if status ≠ .validated then
        .returned (.error (.wrongStatus planID version status .validated))
      else .gating tenantID planID version p, r.2)
  | .signOff tenantID planID version signer =>
    if signer = "" then (.returned (.error .noSigner), plans)
    else lastWork (signOffWork c tenantID planID version signer) script plans
  | .enable tenantID planID version agentVersion routeModelID =>
    lastWork (enableWork c tenantID planID version agentVersion routeModelID) script plans
  | .retire tenantID planID version => lastWork (retireWork tenantID planID version) script plans

/-- The next unit of work of an operation, if it has one. -/
def PlanCall.exec (script : List (Option ℕ)) (plans : PlanTable Doc) :
    PlanCall → Option (PlanCall × PlanTable Doc)
  | .called op => some (op.exec c script plans)
  | .inserting tenantID p createdBy => some (insertCall c tenantID p createdBy script plans)
  | .accepted tenantID planID version =>
    some (lastWork (transition c tenantID planID version .draft .validated id (pure ())) script
      plans)
  | .passed tenantID planID version =>
    some (lastWork (transition c tenantID planID version .validated .evalPassed id (pure ())) script
      plans)
  | .gating .. | .returned _ => none

/-- An operation after the gate has answered: passed, failed, or could not run. -/
def PlanCall.gate (answer : Option Bool) : PlanCall → Option PlanCall
  | .gating tenantID planID version _ => some (match answer with
    | none => .returned (.error .gate)
    | some false => .returned (.ok false)
    | some true => .passed tenantID planID version)
  | _ => none

/-- The table and the operations under way. -/
structure PlanWorld (Doc : Type) where
  plans : PlanTable Doc := ∅
  calls : List PlanCall := []

/-- What can happen; `i` is the number of an operation. -/
inductive PlanAction
  | call (op : PlanOp)
  | exec (i : ℕ) (script : List (Option ℕ))
  | gate (i : ℕ) (answer : Option Bool)

def lifecycle : Machine (PlanWorld Doc) PlanAction where
  step w
    | .call op => some { w with calls := w.calls ++ [.called op] }
    | .exec i script => w.calls[i]?.bind fun call =>
      (call.exec c script w.plans).map fun (call', plans) =>
        { plans, calls := w.calls.set i call' }
    | .gate i answer => w.calls[i]?.bind fun call =>
      (call.gate answer).map fun call' => { w with calls := w.calls.set i call' }

end Operations

/-! ### What an operation writes -/

section Writes

variable {Doc : Type} {c : Codec Doc} {plans plans' : PlanTable Doc}
  {script script' : List (Option ℕ)} {tenantID planID : UUID} {version : ℤ} {u : Unit}

variable {call : PlanCall} {row : PlanRow Doc}

lemma lookup_of_visibleRow (h : visibleRow plans tenantID planID version = some row) :
    plans.lookup (planID, version) = some row :=
  (Option.filter_eq_some_iff.1 h).1

lemma lockPlan_ok {r : Option (Doc × Status)}
    (h : lockPlan tenantID planID version (plans, script) = .ok (r, (plans', script'))) :
    plans' = plans ∧
      r = (visibleRow plans tenantID planID version).map fun row => (row.spec, row.status) := by
  obtain ⟨now, -, h⟩ := statement_ok.1 h
  cases h
  exact ⟨rfl, rfl⟩

lemma updateRow_eq {f : PlanRow Doc → PlanRow Doc}
    (h : visibleRow plans tenantID planID version = some row) :
    updateRow plans tenantID planID version f = plans.insert (planID, version) (f row) := by
  simp [updateRow, h]

lemma updateRow_insert {f : PlanRow Doc → PlanRow Doc} (h : row.tenantID = tenantID) :
    updateRow (plans.insert (planID, version) row) tenantID planID version f =
      plans.insert (planID, version) (f row) := by
  have hvisible : visibleRow (plans.insert (planID, version) row) tenantID planID version =
      some row := by
    simp [visibleRow, h]
  rw [updateRow_eq hvisible, AList.insert_insert]

/-- What an operation can do to a row. -/
inductive Moved (c : Codec Doc) (row : PlanRow Doc) : PlanRow Doc → Prop
  | validated {p : PlanSpec} {spec : Doc} : row.status = .draft → c.unmarshal row.spec = some p →
      c.marshal p = some spec → Moved c row { row with spec, status := .validated }
  | evalPassed {p : PlanSpec} {spec : Doc} : row.status = .validated →
      c.unmarshal row.spec = some p → c.marshal p = some spec →
      Moved c row { row with spec, status := .evalPassed }
  | signedOff {p : PlanSpec} {spec : Doc} {signer : String} : row.status = .evalPassed →
      c.unmarshal row.spec = some p → c.marshal p = some spec → signer ≠ "" →
      Moved c row { row with spec, status := .signedOff, signedOffBy := some signer }
  | enabled {p : PlanSpec} {spec : Doc} {agentVersion : ℤ} {routeModelID : String} {now : ℕ} :
      row.status = .signedOff → c.unmarshal row.spec = some p →
      c.marshal { p with agentVersion, routeModelID } = some spec →
      Moved c row
        { row with
          spec, status := .enabled, agentVersion := some agentVersion
          routeModelID := some routeModelID, enabledAt := some now }
  | retired : row.status = .enabled → Moved c row { row with status := .retired }

/-- What the last unit of work of an operation can do to the table. -/
inductive Wrote (c : Codec Doc) (plans : PlanTable Doc) (call : PlanCall) : PlanTable Doc → Prop
  | inserted {p : PlanSpec} {row : PlanRow Doc} :
      p.version = 1 ∨ (∃ tenantID createdBy, call = .inserting tenantID p createdBy) →
      plans.lookup (p.planID, p.version) = none → c.marshal p = some row.spec →
      row.status = .draft → Wrote c plans call (plans.insert (p.planID, p.version) row)
  | moved {key : UUID × ℤ} {row row' : PlanRow Doc} : plans.lookup key = some row →
      Moved c row row' →
      (row.status = .draft → ∃ tenantID, call = .accepted tenantID key.1 key.2) →
      Wrote c plans call (plans.insert key row')

/-- What is at a key after an operation has written. -/
lemma Wrote.lookup (h : Wrote c plans call plans') (key : UUID × ℤ) :
    plans'.lookup key = plans.lookup key ∨ ∃ row', plans'.lookup key = some row' ∧
      ((∃ p : PlanSpec, plans.lookup key = none ∧ key = (p.planID, p.version) ∧
          (p.version = 1 ∨ ∃ tenantID createdBy, call = .inserting tenantID p createdBy) ∧
          c.marshal p = some row'.spec ∧ row'.status = .draft) ∨
        ∃ row, plans.lookup key = some row ∧ Moved c row row' ∧
          (row.status = .draft → ∃ tenantID, call = .accepted tenantID key.1 key.2)) := by
  cases h with
  | @inserted p row hcall hnone hspec hstatus =>
    by_cases hkey : key = (p.planID, p.version)
    · subst hkey
      exact .inr ⟨row, AList.lookup_insert _, .inl ⟨p, hnone, rfl, hcall, hspec, hstatus⟩⟩
    · exact .inl (AList.lookup_insert_ne hkey)
  | @moved key₁ row row' hrow hmoved hcall =>
    by_cases hkey : key = key₁
    · subst hkey
      exact .inr ⟨row', AList.lookup_insert _, .inr ⟨row, hrow, hmoved, hcall⟩⟩
    · exact .inl (AList.lookup_insert_ne hkey)

lemma transition_ok {old new : Status} {mutate : PlanSpec → PlanSpec} {after : PlanWork Doc Unit}
    (h : transition c tenantID planID version old new mutate after (plans, script) =
      .ok (u, (plans', script'))) :
    ∃ row p spec script₁, visibleRow plans tenantID planID version = some row ∧
      row.status = old ∧ c.unmarshal row.spec = some p ∧ c.marshal (mutate p) = some spec ∧
      after (plans.insert (planID, version) { row with spec, status := new }, script₁) =
        .ok (u, (plans', script')) := by
  obtain ⟨r, ⟨plans₁, script₁⟩, hlock, hwork⟩ := bind_ok.1 h
  obtain ⟨rfl, hr⟩ := lockPlan_ok hlock
  split at hwork
  · exact absurd hwork throw_ok
  obtain ⟨row, hrow, ⟨⟩⟩ := Option.map_eq_some_iff.1 hr.symm
  split at hwork
  · exact absurd hwork throw_ok
  split at hwork
  · exact absurd hwork throw_ok
  next hold =>
  rcases hp : c.unmarshal row.spec with _ | p <;> simp only [hp] at hwork
  · exact absurd hwork throw_ok
  rcases hspec : c.marshal (mutate p) with _ | spec <;> simp only [hspec] at hwork
  · exact absurd hwork throw_ok
  obtain ⟨u', ⟨plans₂, script₂⟩, hset, hwork⟩ := bind_ok.1 hwork
  obtain ⟨now, -, hset⟩ := statement_ok.1 hset
  simp only [updateRow_eq hrow, Except.ok.injEq, Prod.mk.injEq, true_and] at hset
  obtain rfl := hset
  exact ⟨row, p, spec, script₂, hrow, not_not.1 hold, hp, hspec, hwork⟩

/-- A unit of work of an operation has left the table as it is, or was its last one, with which it
has succeeded. -/
def WroteLast (c : Codec Doc) (plans : PlanTable Doc) (call : PlanCall)
    (r : PlanCall × PlanTable Doc) : Prop :=
  r.2 = plans ∨ r.1 = .returned (.ok true) ∧ Wrote c plans call r.2

lemma WroteLast.of_work {work : PlanWork Doc Unit}
    (h : ∀ plans' script', work (plans, script) = .ok ((), (plans', script')) →
      Wrote c plans call plans') : WroteLast c plans call (lastWork work script plans) := by
  unfold lastWork
  rcases commit_cases LifecycleErr.store work script plans with
    ⟨e, hcommit⟩ | ⟨u, plans', script', hcommit, hwork⟩ <;> rw [hcommit]
  · exact .inl rfl
  · exact .inr ⟨rfl, h plans' script' hwork⟩

lemma WroteLast.insertCall {p : PlanSpec} {createdBy : String}
    (hcall : p.version = 1 ∨ ∃ tenantID createdBy, call = .inserting tenantID p createdBy) :
    WroteLast c plans call (insertCall c tenantID p createdBy script plans) := by
  unfold Plans.insertCall
  cases hspec : c.marshal p with
  | none => exact .inl rfl
  | some spec =>
    apply WroteLast.of_work
    intro plans' script' h
    obtain ⟨now, -, h⟩ := statement_ok.1 h
    split at h
    · next hnone =>
      cases h
      exact .inserted hcall hnone hspec rfl
    · nomatch h

lemma WroteLast.transition {old new : Status} {mutate : PlanSpec → PlanSpec}
    {after : PlanWork Doc Unit}
    (hcall : old = .draft → ∃ tenantID, call = .accepted tenantID planID version)
    (hafter : ∀ row p spec script₁ plans' script', row.tenantID = tenantID → row.status = old →
      c.unmarshal row.spec = some p → c.marshal (mutate p) = some spec →
      after (plans.insert (planID, version) { row with spec, status := new }, script₁) =
        .ok ((), (plans', script')) →
      ∃ row', plans' = plans.insert (planID, version) row' ∧ Moved c row row') :
    WroteLast c plans call
      (lastWork (transition c tenantID planID version old new mutate after) script plans) := by
  apply WroteLast.of_work
  intro plans' script' h
  obtain ⟨row, p, spec, script₁, hrow, hold, hp, hspec, h⟩ := transition_ok h
  have htenant : row.tenantID = tenantID :=
    of_decide_eq_true (Option.filter_eq_some_iff.1 hrow).2
  obtain ⟨row', rfl, hmoved⟩ := hafter row p spec script₁ _ script' htenant hold hp hspec h
  exact .moved (lookup_of_visibleRow hrow) hmoved fun hdraft => hcall (hold ▸ hdraft)

lemma retireWork_ok
    (h : retireWork tenantID planID version (plans, script) = .ok (u, (plans', script'))) :
    ∃ row, plans.lookup (planID, version) = some row ∧ row.status = .enabled ∧
      plans' = plans.insert (planID, version) { row with status := .retired } := by
  obtain ⟨found, ⟨plans₁, script₁⟩, hretire, h⟩ := bind_ok.1 h
  obtain ⟨now, -, hretire⟩ := statement_ok.1 hretire
  split at hretire
  · next row hrow =>
    obtain ⟨hrow, hstatus⟩ := Option.filter_eq_some_iff.1 hrow
    obtain ⟨rfl, rfl⟩ : true = found ∧ _ = plans₁ := by simpa using hretire
    obtain ⟨-, rfl, -⟩ := UnitOfWork.pure_ok.1 h
    exact ⟨row, lookup_of_visibleRow hrow, of_decide_eq_true hstatus, rfl⟩
  · obtain ⟨rfl, rfl⟩ : false = found ∧ _ = plans₁ := by simpa using hretire
    exact absurd h throw_ok

/-- A row that an operation has read, with the plan that it holds. -/
structure ReadFrom (c : Codec Doc) (plans : PlanTable Doc) (planID : UUID) (version : ℤ)
    (p : PlanSpec) (status : Status) : Prop where
  row : ∃ key row, plans.lookup key = some row ∧ (0 < version → key = (planID, version)) ∧
    c.unmarshal row.spec = some p ∧ row.status = status

lemma exists_of_queried (h : (if 0 < version then visibleRow plans tenantID planID version
      else latestRow plans tenantID planID) = some row) :
    ∃ key, plans.lookup key = some row ∧ (0 < version → key = (planID, version)) := by
  split at h
  · exact ⟨_, lookup_of_visibleRow h, fun _ => rfl⟩
  · next hversion =>
    obtain ⟨⟨key, row'⟩, hlast, rfl⟩ := Option.map_eq_some_iff.1 h
    have hmem := List.mem_of_getLast? hlast
    rw [mem_orderBy] at hmem
    exact ⟨key, AList.mem_lookup_iff.2 (List.mem_filter.1 hmem).1, fun h => absurd h hversion⟩

lemma getPlan_commit (c : Codec Doc) (tenantID planID : UUID) (version : ℤ)
    (script : List (Option ℕ)) (plans : PlanTable Doc) :
    ∃ r, UnitOfWork.commit .store (getPlan c tenantID planID version) script plans = (r, plans) ∧
      ∀ p status, r = .ok (p, status) → ReadFrom c plans planID version p status := by
  rcases commit_cases LifecycleErr.store (getPlan c tenantID planID version) script
    plans with ⟨e, h⟩ | ⟨⟨p, status⟩, plans', script', h, hwork⟩
  · exact ⟨_, h, fun _ _ h => nomatch h⟩
  obtain ⟨r, ⟨plans₁, script₁⟩, hquery, hwork⟩ := bind_ok.1 hwork
  obtain ⟨now, -, hquery⟩ := statement_ok.1 hquery
  simp only [Except.ok.injEq, Prod.mk.injEq] at hquery
  obtain ⟨hr, rfl⟩ := hquery
  split at hwork
  · exact absurd hwork throw_ok
  obtain ⟨row, hrow, ⟨⟩⟩ := Option.map_eq_some_iff.1 hr
  rcases hp : c.unmarshal row.spec with _ | p' <;> simp only [hp] at hwork
  · exact absurd hwork throw_ok
  obtain ⟨⟨⟩, rfl, -⟩ := UnitOfWork.pure_ok.1 hwork
  obtain ⟨key, hlookup, hkey⟩ := exists_of_queried hrow
  refine ⟨_, h, ?_⟩
  rintro p₁ status₁ heq
  obtain ⟨rfl, rfl⟩ : p = p₁ ∧ row.status = status₁ := by simpa using heq
  exact ⟨key, row, hlookup, hkey, hp, rfl⟩

lemma PlanOp.wroteLast (op : PlanOp) :
    WroteLast c plans (.called op) (op.exec c script plans) := by
  have hread (tenantID planID : UUID) (version : ℤ) :
      (UnitOfWork.commit .store (getPlan c tenantID planID version) script plans).2 = plans := by
    obtain ⟨r, hr, -⟩ := getPlan_commit c tenantID planID version script plans
    rw [hr]
  cases op with
  | create tenantID p createdBy fresh => exact .insertCall (.inl rfl)
  | newVersion tenantID planID p createdBy => exact .inl (hread tenantID planID 0)
  | validatePlan tenantID planID version | runEvalGate tenantID planID version =>
    exact .inl (hread tenantID planID version)
  | signOff tenantID planID version signer =>
    by_cases hsigner : signer = ""
    · simp only [PlanOp.exec, if_pos hsigner]
      exact .inl rfl
    simp only [PlanOp.exec, if_neg hsigner]
    refine .transition nofun ?_
    intro row p spec script₁ plans' script' htenant hold hp hspec h
    obtain ⟨now, -, h⟩ := statement_ok.1 h
    cases h
    exact ⟨_, updateRow_insert htenant, .signedOff hold hp hspec hsigner⟩
  | enable tenantID planID version agentVersion routeModelID =>
    refine .transition nofun ?_
    intro row p spec script₁ plans' script' htenant hold hp hspec h
    obtain ⟨now, -, h⟩ := statement_ok.1 h
    cases h
    exact ⟨_, updateRow_insert htenant, .enabled hold hp hspec⟩
  | retire tenantID planID version =>
    apply WroteLast.of_work
    intro plans' script' h
    obtain ⟨row, hrow, hstatus, rfl⟩ := retireWork_ok h
    refine .moved hrow (.retired hstatus) fun hdraft => ?_
    rw [hstatus] at hdraft
    nomatch hdraft

/-- An operation writes in its last unit of work only, and then succeeds. -/
theorem wrote_of_exec {r : PlanCall × PlanTable Doc} (h : call.exec c script plans = some r) :
    WroteLast c plans call r := by
  cases call with
  | called op =>
    cases h
    exact op.wroteLast
  | inserting tenantID p createdBy =>
    cases h
    exact .insertCall (.inr ⟨tenantID, createdBy, rfl⟩)
  | accepted tenantID planID version =>
    cases h
    refine .transition (fun _ => ⟨tenantID, rfl⟩) ?_
    intro row p spec script₁ plans' script' htenant hold hp hspec h
    obtain ⟨-, rfl, -⟩ := UnitOfWork.pure_ok.1 h
    exact ⟨_, rfl, .validated hold hp hspec⟩
  | passed tenantID planID version =>
    cases h
    refine .transition nofun ?_
    intro row p spec script₁ plans' script' htenant hold hp hspec h
    obtain ⟨-, rfl, -⟩ := UnitOfWork.pure_ok.1 h
    exact ⟨_, rfl, .evalPassed hold hp hspec⟩
  | gating | returned => nomatch h

end Writes

/-! ### What holds throughout -/

def Status.next : Status → Option Status
  | .draft => some .validated
  | .validated => some .evalPassed
  | .evalPassed => some .signedOff
  | .signedOff => some .enabled
  | .enabled => some .retired
  | .retired => none

/-- Versions that do not change any more. -/
def Status.Final (status : Status) : Prop := status = .enabled ∨ status = .retired

section Invariant

variable {Doc : Type} {c : Codec Doc} {plans plans' : PlanTable Doc} {row row' : PlanRow Doc}

/-- What a row has on record, for its status. -/
structure Governed (c : Codec Doc) (row : PlanRow Doc) : Prop where
  /-- From `validated` on, the plan is valid. -/
  validated : row.status ≠ .draft →
    ∃ p, c.unmarshal row.spec = some p ∧ validate p.toPlan = .ok ()
  /-- From `signed_off` on, there is a signer. -/
  signedOff : row.status = .signedOff ∨ row.status.Final →
    ∃ signer, row.signedOffBy = some signer ∧ signer ≠ ""
  /-- From `enabled` on, the pins are recorded, as they are in the plan. -/
  enabled : row.status.Final → ∃ p, c.unmarshal row.spec = some p ∧
    row.agentVersion = some p.agentVersion ∧ row.routeModelID = some p.routeModelID ∧
      row.enabledAt.isSome

structure Kept (c : Codec Doc) (key : UUID × ℤ) (row : PlanRow Doc) : Prop extends
    Governed c row where
  version : ∃ p, c.unmarshal row.spec = some p ∧ p.version = key.2
  positive : 0 < key.2

/-- What an operation under way relies on. -/
def Relies (c : Codec Doc) (plans : PlanTable Doc) : PlanCall → Prop
  | .inserting _ p _ => 0 < p.version
  | .accepted _ planID version => 0 < version →
    ∃ row, plans.lookup (planID, version) = some row ∧ (row.status = .draft →
      ∃ p, c.unmarshal row.spec = some p ∧ validate p.toPlan = .ok ())
  | _ => True

variable {call : PlanCall} {p : PlanSpec}

/-- A plan that is written as it was read. -/
lemma Codec.Faithful.rewritten (hc : c.Faithful) {doc doc' : Doc} (hp : c.unmarshal doc = some p)
    (h : c.marshal p = some doc') : c.unmarshal doc' = some p :=
  hc.pinned p doc p.agentVersion p.routeModelID doc' hp h

lemma Moved.plan (hc : c.Faithful) (h : Moved c row row') (hp : c.unmarshal row.spec = some p) :
    ∃ p', c.unmarshal row'.spec = some p' ∧ p'.toPlan = p.toPlan := by
  have hsame {q : PlanSpec} (hq : c.unmarshal row.spec = some q) : q = p :=
    Option.mem_unique hq hp
  cases h with
  | validated _ hq hspec | evalPassed _ hq hspec | signedOff _ hq hspec _ =>
    obtain rfl := hsame hq
    exact ⟨_, hc.rewritten hq hspec, rfl⟩
  | enabled _ hq hspec =>
    obtain rfl := hsame hq
    exact ⟨_, hc.pinned _ _ _ _ _ hq hspec, rfl⟩
  | retired => exact ⟨p, hp, rfl⟩

lemma Kept.moved (hc : c.Faithful) {key : UUID × ℤ} (h : Kept c key row)
    (hmoved : Moved c row row') (hdraft : row.status = .draft →
      ∃ p, c.unmarshal row.spec = some p ∧ validate p.toPlan = .ok ()) : Kept c key row' := by
  obtain ⟨p, hp, hversion⟩ := h.version
  have hvalid : validate p.toPlan = .ok () := by
    obtain ⟨q, hq, hvalid⟩ : ∃ q, c.unmarshal row.spec = some q ∧ validate q.toPlan = .ok () := by
      by_cases hstatus : row.status = .draft
      · exact hdraft hstatus
      · exact h.validated hstatus
    obtain rfl := Option.mem_unique hq hp
    exact hvalid
  obtain ⟨p', hp', hplan⟩ := hmoved.plan hc hp
  refine ⟨⟨fun _ => ⟨p', hp', hplan ▸ hvalid⟩, ?_, ?_⟩, ⟨p', hp', ?_⟩, h.positive⟩
  -- the signer is recorded at the sign-off and kept
  · cases hmoved with
    | validated | evalPassed => rintro (h | h | h) <;> nomatch h
    | signedOff _ _ _ hne => exact fun _ => ⟨_, rfl, hne⟩
    | enabled hstatus => exact fun _ => h.signedOff (.inl hstatus)
    | retired hstatus => exact fun _ => h.signedOff (.inr (.inl hstatus))
  -- and so are the pins, when the version is enabled
  · cases hmoved with
    | validated | evalPassed | signedOff => rintro (h | h) <;> nomatch h
    | enabled _ hq hspec => exact fun _ => ⟨_, hc.pinned _ _ _ _ _ hq hspec, rfl, rfl, rfl⟩
    | retired hstatus => exact fun _ => h.enabled (.inl hstatus)
  · rw [← hversion, ← hplan]

lemma Kept.inserted (hc : c.Faithful) (hspec : c.marshal p = some row.spec)
    (hstatus : row.status = .draft) (hpositive : 0 < p.version) :
    Kept c (p.planID, p.version) row where
  validated h := absurd hstatus h
  signedOff := by rw [hstatus]; rintro (h | h | h) <;> nomatch h
  enabled := by rw [hstatus]; rintro (h | h) <;> nomatch h
  version := hc.version p _ hspec
  positive := hpositive

/-- What an operation relies on, after another one has written. -/
lemma Relies.of_wrote {call₁ : PlanCall} (h : Relies c plans call)
    (hwrote : Wrote c plans call₁ plans') : Relies c plans' call := by
  cases call with
  | inserting | called | gating | passed | returned => exact h
  | accepted tenantID planID version =>
    intro hversion
    obtain ⟨row, hrow, hdraft⟩ := h hversion
    rcases hwrote.lookup (planID, version) with
      hsame | ⟨row', hrow', ⟨_, hnone, _⟩ | ⟨_, _, hmoved, _⟩⟩
    · exact ⟨row, hsame.trans hrow, hdraft⟩
    · exact absurd (hnone.symm.trans hrow) nofun
    · refine ⟨row', hrow', fun hstatus => ?_⟩
      cases hmoved <;> nomatch hstatus

/-- Every row is kept, and the operations under way can rely on what they have read. -/
structure PlanInv (c : Codec Doc) (w : PlanWorld Doc) : Prop where
  rows : ∀ key row, w.plans.lookup key = some row → Kept c key row
  calls : ∀ call ∈ w.calls, Relies c w.plans call

lemma PlanInv.wrote (hc : c.Faithful)
    (hrows : ∀ key row, plans.lookup key = some row → Kept c key row) (hcall : Relies c plans call)
    (hwrote : Wrote c plans call plans') :
    ∀ key row, plans'.lookup key = some row → Kept c key row := by
  intro key row hrow
  rcases hwrote.lookup key with hsame | ⟨row', hrow', h⟩
  · exact hrows key row (hsame ▸ hrow)
  obtain rfl := Option.mem_unique hrow' hrow
  rcases h with ⟨p, -, rfl, hversion, hspec, hstatus⟩ | ⟨row₁, hrow₁, hmoved, haccepted⟩
  · refine .inserted hc hspec hstatus ?_
    rcases hversion with h | ⟨_, _, rfl⟩
    · omega
    · exact hcall
  · have hkept := hrows key row₁ hrow₁
    refine hkept.moved hc hmoved fun hdraft => ?_
    obtain ⟨tenantID, rfl⟩ := haccepted hdraft
    obtain ⟨row₂, hrow₂, hvalid⟩ := hcall hkept.positive
    obtain rfl := Option.mem_unique hrow₁ hrow₂
    exact hvalid hdraft

/-- What an operation relies on after its next unit of work. -/
lemma relies_of_exec {script : List (Option ℕ)} {r : PlanCall × PlanTable Doc}
    (hrows : ∀ key row, plans.lookup key = some row → Kept c key row)
    (h : call.exec c script plans = some r) : Relies c r.2 r.1 := by
  rcases wrote_of_exec h with hsame | ⟨hreturned, -⟩
  swap
  · rw [hreturned]
    trivial
  rw [hsame]
  -- a last unit of work that has failed
  have hlast (work : PlanWork Doc Unit) : Relies c plans (lastWork work script plans).1 := trivial
  have hinsert (tenantID : UUID) (p : PlanSpec) (createdBy : String) :
      Relies c plans (insertCall c tenantID p createdBy script plans).1 := by
    unfold insertCall
    cases c.marshal p with
    | none => trivial
    | some spec => exact hlast _
  cases call with
  | called op =>
    cases h
    cases op with
    | create tenantID p createdBy fresh => exact hinsert _ _ _
    | newVersion tenantID planID p createdBy =>
      obtain ⟨result, hr, hread⟩ := getPlan_commit c tenantID planID 0 script plans
      simp only [PlanOp.exec, hr]
      cases result with
      | error e => trivial
      | ok r =>
        obtain ⟨key, row, hrow, -, hp, -⟩ := hread r.1 r.2 rfl
        obtain ⟨p', hp', hversion⟩ := (hrows key row hrow).version
        obtain rfl := Option.mem_unique hp' hp
        have hpositive := (hrows key row hrow).positive
        change 0 < r.1.version + 1
        omega
    | validatePlan tenantID planID version =>
      obtain ⟨result, hr, hread⟩ := getPlan_commit c tenantID planID version script plans
      simp only [PlanOp.exec, hr]
      cases result with
      | error e => trivial
      | ok r =>
        obtain ⟨key, row, hrow, hkey, hp, hstatus⟩ := hread r.1 r.2 rfl
        simp only [afterGet]
        split
        · trivial
        split
        · trivial
        next hvalid =>
        intro hversion
        obtain rfl := hkey hversion
        exact ⟨row, hrow, fun _ => ⟨r.1, hp, hvalid⟩⟩
    | runEvalGate tenantID planID version =>
      obtain ⟨result, hr, -⟩ := getPlan_commit c tenantID planID version script plans
      simp only [PlanOp.exec, hr]
      cases result with
      | error e => trivial
      | ok r =>
        simp only [afterGet]
        split <;> trivial
    | signOff tenantID planID version signer =>
      simp only [PlanOp.exec]
      split <;> trivial
    | enable | retire => trivial
  | inserting tenantID p createdBy =>
    cases h
    exact hinsert _ _ _
  | accepted | passed =>
    cases h
    exact hlast _
  | gating | returned => nomatch h

theorem PlanInv.step (hc : c.Faithful) {w w' : PlanWorld Doc} {a : PlanAction} (h : PlanInv c w)
    (hst : (lifecycle c).step w a = some w') : PlanInv c w' := by
  cases a with
  | call op =>
    cases hst
    exact ⟨h.rows, List.forall_mem_snoc h.calls trivial⟩
  | exec i script =>
    obtain ⟨call, ⟨call', plans'⟩, hi, hexec, rfl⟩ := Option.bind_map_some hst
    obtain ⟨before, after, hcalls, -, -, hset⟩ := List.exists_split hi
    have hrelies := h.calls
    rw [hcalls, List.forall_mem_split] at hrelies
    have hcall' := relies_of_exec h.rows hexec
    simp only [hset]
    rcases wrote_of_exec hexec with hsame | ⟨-, hwrote⟩
    · subst hsame
      exact ⟨h.rows, List.forall_mem_split.2 ⟨hcall', hrelies.2⟩⟩
    · refine ⟨PlanInv.wrote hc h.rows hrelies.1 hwrote, List.forall_mem_split.2 ⟨hcall', ?_⟩⟩
      intro call₁ hcall₁
      exact (hrelies.2 call₁ hcall₁).of_wrote hwrote
  | gate i answer =>
    obtain ⟨call, call', hi, hgate, rfl⟩ := Option.bind_map_some hst
    obtain ⟨before, after, hcalls, -, -, hset⟩ := List.exists_split hi
    have hrelies := h.calls
    rw [hcalls, List.forall_mem_split] at hrelies
    simp only [hset]
    refine ⟨h.rows, List.forall_mem_split.2 ⟨?_, hrelies.2⟩⟩
    cases call with
    | gating tenantID planID version p =>
      cases hgate
      cases answer with
      | none => trivial
      | some passed => cases passed <;> trivial
    | called | inserting | accepted | passed | returned => nomatch hgate

end Invariant

/-! ### The result -/

section Result

variable {Doc : Type} {c : Codec Doc}

/-- The number of the operation that an action is a step of. -/
def PlanAction.callNo : PlanAction → Option ℕ
  | .call _ => none
  | .exec i _ | .gate i _ => some i

structure Advances (w : PlanWorld Doc) (a : PlanAction) (w' : PlanWorld Doc) : Prop where
  /-- Rows stay, keep their status or move on by one, and do not change once they are enabled but
  for the status. -/
  rows : ∀ key row, w.plans.lookup key = some row → ∃ row', w'.plans.lookup key = some row' ∧
    (row' = row ∨ row.status.next = some row'.status) ∧
    (row.status.Final → row'.spec = row.spec)
  drafts : ∀ key row', w.plans.lookup key = none → w'.plans.lookup key = some row' →
    row'.status = .draft
  /-- Only an operation that succeeds with this step changes the table. -/
  failed : w'.plans ≠ w.plans → ∃ i, a.callNo = some i ∧
    (∀ result, w.calls[i]? ≠ some (.returned result)) ∧ w'.calls[i]? = some (.returned (.ok true))
  /-- An operation that has returned takes no more steps. -/
  returned : ∀ i result, w.calls[i]? = some (.returned result) → a.callNo ≠ some i ∧
    w'.calls[i]? = some (.returned result)

variable {call : PlanCall} {row : PlanRow Doc} {key : UUID × ℤ}

lemma Moved.next {row' : PlanRow Doc} (h : Moved c row row') :
    row.status.next = some row'.status ∧ (row.status.Final → row'.spec = row.spec) := by
  cases h with
  | validated hstatus | evalPassed hstatus | signedOff hstatus | enabled hstatus =>
    rw [hstatus]
    refine ⟨rfl, ?_⟩
    rintro (h | h) <;> nomatch h
  | retired hstatus =>
    rw [hstatus]
    exact ⟨rfl, fun _ => rfl⟩

/-- What a unit of work writes advances the rows. -/
lemma Wrote.rows {plans plans' : PlanTable Doc} (h : Wrote c plans call plans')
    (hrow : plans.lookup key = some row) :
    ∃ row', plans'.lookup key = some row' ∧ (row' = row ∨ row.status.next = some row'.status) ∧
      (row.status.Final → row'.spec = row.spec) := by
  rcases h.lookup key with hsame | ⟨row', hrow', ⟨_, hnone, _⟩ | ⟨row₁, hrow₁, hmoved, _⟩⟩
  · exact ⟨row, hsame.trans hrow, .inl rfl, fun _ => rfl⟩
  · exact absurd (hnone.symm.trans hrow) nofun
  · obtain rfl := Option.mem_unique hrow hrow₁
    exact ⟨row', hrow', .inr hmoved.next.1, hmoved.next.2⟩

lemma Wrote.drafts {plans plans' : PlanTable Doc} {row' : PlanRow Doc}
    (h : Wrote c plans call plans') (hnone : plans.lookup key = none)
    (hrow' : plans'.lookup key = some row') : row'.status = .draft := by
  rcases h.lookup key with hsame | ⟨row, hrow, ⟨_, _, _, _, _, hstatus⟩ | ⟨_, hsome, _⟩⟩
  · exact absurd (hnone.symm.trans (hsame.symm.trans hrow')) nofun
  · exact Option.mem_unique hrow hrow' ▸ hstatus
  · exact absurd (hnone.symm.trans hsome) nofun

/-- A step of one operation leaves the others where they are. -/
lemma returned_of_set {calls : List PlanCall} {i : ℕ} {call' : PlanCall}
    (hi : calls[i]? = some call) (hcall : ∀ result, call ≠ .returned result) {j : ℕ}
    {result : Except LifecycleErr Bool} (hj : calls[j]? = some (.returned result)) :
    some i ≠ some j ∧ (calls.set i call')[j]? = some (.returned result) := by
  have hne : i ≠ j := by
    rintro rfl
    exact hcall result (Option.mem_unique hi hj)
  exact ⟨fun h => hne (Option.some.inj h), by rw [List.getElem?_set_ne hne, hj]⟩

lemma advances_of_step {w w' : PlanWorld Doc} {a : PlanAction}
    (hst : (lifecycle c).step w a = some w') : Advances w a w' := by
  -- a step that leaves the table as it is
  have hsame {w' : PlanWorld Doc} (hplans : w'.plans = w.plans)
      (hreturned : ∀ i result, w.calls[i]? = some (.returned result) → a.callNo ≠ some i ∧
        w'.calls[i]? = some (.returned result)) : Advances w a w' := by
    refine ⟨fun key row hrow => ⟨row, by rw [hplans, hrow], .inl rfl, fun _ => rfl⟩, ?_,
      fun h => absurd hplans h, hreturned⟩
    intro key row' hnone hrow'
    rw [hplans, hnone] at hrow'
    nomatch hrow'
  cases a with
  | call op =>
    cases hst
    refine hsame rfl fun i result hi => ⟨nofun, ?_⟩
    rw [List.getElem?_append_left (List.getElem?_eq_some_iff.1 hi).1, hi]
  | exec i script =>
    obtain ⟨call, ⟨call', plans'⟩, hi, hexec, rfl⟩ := Option.bind_map_some hst
    have hcall : ∀ result, call ≠ .returned result := by
      rintro result rfl
      nomatch hexec
    have hreturned {j : ℕ} {result : Except LifecycleErr Bool}
        (hj : w.calls[j]? = some (.returned result)) : some i ≠ some j ∧
          (w.calls.set i call')[j]? = some (.returned result) := returned_of_set hi hcall hj
    rcases wrote_of_exec hexec with hplans | ⟨hok, hwrote⟩
    · exact hsame hplans fun _ _ => hreturned
    · refine ⟨fun _ _ => hwrote.rows, fun _ _ => hwrote.drafts, fun _ => ⟨i, rfl, ?_, ?_⟩,
        fun _ _ => hreturned⟩
      · intro result hi'
        exact hcall result (Option.mem_unique hi hi')
      · have hlt := (List.getElem?_eq_some_iff.1 hi).1
        simp only [List.getElem?_set_self hlt]
        exact congrArg some hok
  | gate i answer =>
    obtain ⟨call, call', hi, hgate, rfl⟩ := Option.bind_map_some hst
    have hcall : ∀ result, call ≠ .returned result := by
      rintro result rfl
      nomatch hgate
    exact hsame rfl fun _ _ => returned_of_set hi hcall

/-- An enabled or retired version stays one, with its plan. -/
lemma final_of_reaches {w w' : PlanWorld Doc} (h : (lifecycle c).Reaches w w')
    (hrow : w.plans.lookup key = some row) (hfinal : row.status.Final) :
    ∃ row', w'.plans.lookup key = some row' ∧ row'.status.Final ∧ row'.spec = row.spec := by
  refine h.invariant (I := fun w' => ∃ row', w'.plans.lookup key = some row' ∧
    row'.status.Final ∧ row'.spec = row.spec) ⟨row, hrow, hfinal, rfl⟩ ?_
  rintro w₁ a w₂ ⟨row₁, hrow₁, hfinal₁, hspec₁⟩ hst
  obtain ⟨row₂, hrow₂, hnext, hspec₂⟩ := (advances_of_step hst).rows key row₁ hrow₁
  refine ⟨row₂, hrow₂, ?_, (hspec₂ hfinal₁).trans hspec₁⟩
  rcases hnext with rfl | hnext
  · exact hfinal₁
  · rcases hfinal₁ with h | h
    · rw [h] at hnext
      exact .inr (Option.some.inj hnext).symm
    · rw [h] at hnext
      nomatch hnext

/-- In every interleaving of operations that starts with an empty table, every version has on
record what its status calls for; every step advances versions by one status at most and changes
the table only with an operation that succeeds; and enabled versions keep their plan for ever. -/
theorem lifecycle_governed (hc : c.Faithful) {w : PlanWorld Doc} (h : (lifecycle c).Reaches {} w) :
    (∀ key row, w.plans.lookup key = some row → Governed c row) ∧
    (∀ a w', (lifecycle c).step w a = some w' → Advances w a w') ∧
    ∀ w', (lifecycle c).Reaches w w' → ∀ key row, w.plans.lookup key = some row →
      row.status.Final → ∃ row', w'.plans.lookup key = some row' ∧ row'.status.Final ∧
        row'.spec = row.spec := by
  have hinv : PlanInv c w := by
    refine h.invariant (I := PlanInv c) ⟨?_, ?_⟩ fun _ _ _ hI hst => hI.step hc hst
    · intro key row hrow
      nomatch hrow
    · intro call hcall
      nomatch hcall
  refine ⟨fun key row hrow => (hinv.rows key row hrow).toGoverned, ?_, ?_⟩
  · intro a w' hst
    exact advances_of_step hst
  · intro w' hreach key row hrow hfinal
    exact final_of_reaches hreach hrow hfinal

def plainCodec : Codec PlanSpec where
  marshal := some
  unmarshal := some

lemma plainCodec_faithful : plainCodec.Faithful where
  version p _ h := ⟨p, Option.some.inj h ▸ rfl, rfl⟩
  pinned _ _ _ _ _ _ h := Option.some.inj h ▸ rfl

def branchPlan : PlanSpec where
  planID := 7
  startStep := "a"
  steps := [{ id := "a", kind := .condition, condition := some {} }]

theorem enabledVersion_governed : ∃ w, (lifecycle plainCodec).Reaches {} w ∧
    ((w.plans.lookup (7, 1)).map fun row => row.status) = some .enabled ∧
    ∀ key row, w.plans.lookup key = some row → Governed plainCodec row := by
  refine Machine.Reaches.exists_of_run_imp
    [.call (.create 1 branchPlan "author" 9), .exec 0 [some 0, some 0],
      .call (.validatePlan 1 7 1), .exec 1 [some 0, some 0], .exec 1 [some 0, some 0, some 0],
      .call (.runEvalGate 1 7 1), .exec 2 [some 0, some 0], .gate 2 (some true),
      .exec 2 [some 0, some 0, some 0],
      .call (.signOff 1 7 1 "signer"), .exec 3 [some 0, some 0, some 0, some 0],
      .call (.enable 1 7 1 3 "model"), .exec 4 [some 0, some 0, some 5, some 0]]
    (fun w => ((w.plans.lookup (7, 1)).map fun row => row.status) = some .enabled) ?_
    fun w hreach hw => ⟨hw, (lifecycle_governed plainCodec_faithful hreach).1⟩
  decide +kernel

end Result

end NexusAgent.Plans
