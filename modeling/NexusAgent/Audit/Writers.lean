import NexusAgent.Audit.Verify
import NexusAgent.Lib.Transactions

/-!
# The writers of the audit tables

The transactions that append events with their receipts, erase and anchor: the kernel's log
(`internal/eventlog/postgres/log.go`), units of work of the sealed appender
(`internal/eventlog/sealed/`), the erasure of a session or of a tenant
(`internal/crypto/postgres/shred.go`) and the anchor pass (`internal/audit/postgres/anchor.go`).
They are programs over the statements that they run. The audit chain is wired.

A statement that fails aborts its transaction, and so does every error that a program returns,
so failing statements are rollbacks, which are possible at any time. The unique constraints are
left out: all they can do is to make a statement fail. What a transaction finds among the keys of
the tenant is left to the surroundings, except that a key which is shredded is never found to be
active.
-/

namespace NexusAgent.Audit

open Routine (request stop)

/-- An event before it has a sequence number. -/
structure EventDraft where
  eventID : UUID
  sessionID : UUID
  type : String
  payloadDigest : Bytes
  keyID : String

def EventDraft.row (d : EventDraft) (seq : ℤ) : EventRow where
  eventID := d.eventID
  sessionID := d.sessionID
  seq := seq
  type := d.type
  payloadDigest := d.payloadDigest
  keyID := d.keyID

def erasureKeyID : String := "erasure-record"

/-- What the programs ask for: statements, signatures, identifiers and the time. -/
inductive Request
  /-- `pg_advisory_xact_lock`, by the hash of the session's identifier. -/
  | advisoryLock (sessionID : UUID)
  /-- `INSERT INTO events` with the next sequence number of the session. -/
  | insertEvent (d : EventDraft)
  | headHash (sessionID : UUID)
  | sign (digest : Bytes)
  /-- `INSERT INTO audit_receipts`; the row's `receiptSeq` is drawn from the sequence. -/
  | insertReceipt (r : Receipt)
  | activeKeyID (sessionID : UUID)
  | unwrap (keyID : String)
  | newUUID
  | shredTenant
  | shred (keyID : String)
  /-- The keys that a session's events are sealed under, without that of erasure records. -/
  | keysOfSession (sessionID : UUID)
  | sessionsForKeys (keyIDs : List String)
  | erasureDigest (reason : String) (keyIDs : List String)
  /-- The end and the hash of the anchor that reaches furthest. -/
  | lastAnchor
  | maxReceiptSeq
  | receiptHashes (fromSeq toSeq : ℤ)
  | insertAnchor (a : Anchor)

def Request.Answer : Request → Type
  | .advisoryLock _ => Unit
  | .insertEvent _ => ℤ
  | .headHash _ => Option Bytes
  | .sign _ => Option (Bytes × String)
  | .insertReceipt _ => ℤ
  | .activeKeyID _ => Option String
  | .unwrap _ => Bool
  | .newUUID => UUID
  | .shredTenant => List String
  | .shred _ => Bool
  | .keysOfSession _ => List String
  | .sessionsForKeys _ => List UUID
  | .erasureDigest _ _ => Bytes
  | .lastAnchor => Option (ℤ × Bytes)
  | .maxReceiptSeq => ℤ
  | .receiptHashes _ _ => List Bytes
  | .insertAnchor _ => Unit

/-- A program that runs in a transaction. An error that it returns is a `stop`. -/
abbrev Work := Routine Unit Request Request.Answer

/-! ### The programs -/

def advisoryLock (sessionID : UUID) : Work Unit := request (Request.advisoryLock sessionID)

def insertEvent (d : EventDraft) : Work ℤ := request (Request.insertEvent d)

def headHash (sessionID : UUID) : Work (Option Bytes) := request (Request.headHash sessionID)

/-- `Sign`: the signature and the key it was made with. -/
def sign (digest : Bytes) : Work (Bytes × String) := do
  let signed : Option (Bytes × String) ← request (Request.sign digest)
  match signed with
  | none => stop
  | some signed => return signed

def insertReceipt (r : Receipt) : Work ℤ := request (Request.insertReceipt r)

def activeKeyID (sessionID : UUID) : Work String := do
  let keyID : Option String ← request (Request.activeKeyID sessionID)
  match keyID with
  | none => stop
  | some keyID => return keyID

/-- `Unwrap`, of which no more matters than whether it succeeds. -/
def unwrap (keyID : String) : Work Unit := do
  let unwrapped : Bool ← request (Request.unwrap keyID)
  if unwrapped then return () else stop

def newUUID : Work UUID := request Request.newUUID

def shredTenant : Work (List String) := request Request.shredTenant

/-- `Shred`: whether the key was active. -/
def shred (keyID : String) : Work Bool := request (Request.shred keyID)

def keysOfSession (sessionID : UUID) : Work (List String) :=
  request (Request.keysOfSession sessionID)

def sessionsForKeys (keyIDs : List String) : Work (List UUID) :=
  request (Request.sessionsForKeys keyIDs)

def erasureDigest (reason : String) (keyIDs : List String) : Work Bytes :=
  request (Request.erasureDigest reason keyIDs)

def lastAnchor : Work (Option (ℤ × Bytes)) := request Request.lastAnchor

def maxReceiptSeq : Work ℤ := request Request.maxReceiptSeq

def receiptHashes (fromSeq toSeq : ℤ) : Work (List Bytes) :=
  request (Request.receiptHashes fromSeq toSeq)

def insertAnchor (a : Anchor) : Work Unit := request (Request.insertAnchor a)

/-- `store.Append`. -/
def storeAppend (d : EventDraft) : Work EventRow := do
  advisoryLock d.sessionID
  let seq ← insertEvent d
  return d.row seq

section

variable (c : Crypto) (tenantID : UUID)

/-- `Chain.Append`. -/
def chainAppend (e : EventRow) : Work Unit := do
  let prevHash ← headHash e.sessionID
  let hash := hashInput c prevHash tenantID e.sessionID e.seq e.eventID e.type e.payloadDigest
  let (signature, signerKeyID) ← sign hash
  let _ ← insertReceipt
    { receiptSeq := 0, sessionID := e.sessionID, seq := e.seq, eventID := e.eventID
      eventType := e.type, payloadDigest := e.payloadDigest, prevHash, hash, signature
      signerKeyID }
  return ()

/-- `appendSealed`, and `Append` of the kernel's log: an event and its receipt. -/
def appendSealed (d : EventDraft) : Work EventRow := do
  let e ← storeAppend d
  chainAppend c tenantID e
  return e

/-- `Append` of the sealed appender: under the key that the session's events are sealed with. -/
def sealedAppend (sessionID : UUID) (type : EventLog.EventType) (payloadDigest : Bytes) :
    Work EventRow := do
  let keyID ← activeKeyID sessionID
  unwrap keyID
  let eventID ← newUUID
  appendSealed c tenantID { eventID, sessionID, type := type.string, payloadDigest, keyID }

/-- `AppendFirst`: under a key that is given. -/
def appendFirst (sessionID : UUID) (type : EventLog.EventType) (payloadDigest : Bytes)
    (keyID : String) : Work EventRow := do
  let eventID ← newUUID
  appendSealed c tenantID { eventID, sessionID, type := type.string, payloadDigest, keyID }

inductive UnitCall
  | append (sessionID : UUID) (type : EventLog.EventType) (payloadDigest : Bytes)
  | appendFirst (sessionID : UUID) (type : EventLog.EventType) (payloadDigest : Bytes)
      (keyID : String)

def UnitCall.run : UnitCall → Work EventRow
  | .append sessionID type payloadDigest => sealedAppend c tenantID sessionID type payloadDigest
  | .appendFirst sessionID type payloadDigest keyID =>
    Audit.appendFirst c tenantID sessionID type payloadDigest keyID

/-- A unit of work of the sealed appender: any sequence of appends, in which each may depend on
what came before. An append that fails makes the unit fail. -/
abbrev Caller := Process UnitCall (fun _ => EventRow) Bool

/-- `InTenant`: the unit commits if the caller returns no error. -/
def Caller.run : Caller → Work Unit
  | .done true => return ()
  | .done false => stop
  | .ask call k => do
    let e ← call.run c tenantID
    Caller.run (k e)

def appendErasureEvent (sessionID : UUID) (shreddedKeyIDs : List String) (reason : String) :
    Work EventRow := do
  let payloadDigest ← erasureDigest reason shreddedKeyIDs
  let eventID ← newUUID
  appendSealed c tenantID
    { eventID, sessionID, type := EventLog.EventType.erasure.string, payloadDigest
      keyID := erasureKeyID }

def finishErasure (shreddedKeyIDs : List String) (reason : String) : List UUID → Work Unit
  | [] => return ()
  | sessionID :: rest => do
    let _ ← appendErasureEvent c tenantID sessionID shreddedKeyIDs reason
    finishErasure shreddedKeyIDs reason rest

def eraseTenant (reason : String) : Work Unit := do
  let keyIDs ← shredTenant
  if keyIDs.isEmpty then
    return ()
  else
    let sessionIDs ← sessionsForKeys keyIDs
    finishErasure c tenantID keyIDs reason sessionIDs

/-- The loop of `EraseSession` over the keys: the ones that this call has shredded. -/
def shredAll : List String → Work (List String)
  | [] => return []
  | keyID :: rest => do
    let active ← shred keyID
    let shredded ← shredAll rest
    return if active then keyID :: shredded else shredded

def eraseSession (sessionID : UUID) (reason : String) : Work Unit := do
  let candidateKeys ← keysOfSession sessionID
  let shredded ← shredAll candidateKeys
  if shredded.isEmpty then
    return ()
  else
    finishErasure c tenantID shredded reason [sessionID]

def anchor : Work Unit := do
  let last ← lastAnchor
  let fromSeq := (last.map Prod.fst).getD 0
  let maxSeq ← maxReceiptSeq
  if maxSeq ≤ fromSeq then
    return ()
  else
    let hashes ← receiptHashes fromSeq maxSeq
    let aggregate := c.sha256 (anchoredBytes (last.map Prod.snd) hashes)
    let (signature, signerKeyID) ← sign aggregate
    let anchorID ← newUUID
    insertAnchor
      { anchorID, fromReceiptSeq := fromSeq, toReceiptSeq := maxSeq, hash := aggregate
        signature, signerKeyID }

end

/-- The transactions. -/
inductive Job
  /-- `Append` of the kernel's log. -/
  | log (d : EventDraft)
  | unit (caller : Caller)
  | eraseTenant (reason : String)
  | eraseSession (sessionID : UUID) (reason : String)
  | anchor

def Job.program (c : Crypto) (tenantID : UUID) : Job → Work Unit
  | .log d => do
    let _ ← appendSealed c tenantID d
    return ()
  | .unit caller => caller.run c tenantID
  | .eraseTenant reason => Audit.eraseTenant c tenantID reason
  | .eraseSession sessionID reason => Audit.eraseSession c tenantID sessionID reason
  | .anchor => Audit.anchor c

/-- The requests that are neither about events and receipts nor about anchors. -/
def Request.Lookup : Request → Prop
  | .activeKeyID _ | .unwrap _ | .newUUID | .shredTenant | .shred _ | .keysOfSession _
  | .sessionsForKeys _ | .erasureDigest _ _ => True
  | _ => False

section

open Routine

variable {c : Crypto} {tenantID : UUID} {Q : Type} {π : Protocol Q Request Request.Answer}
  {I : Q → Prop}
  (hlookup : ∀ o : Request, o.Lookup → ∀ q, I q → π.admits q o ∧ ∀ a q', π.step q o a q' → I q')
  (happend : ∀ d, Keeps π (fun _ => I) (appendSealed c tenantID d))

include hlookup happend

/-- What the lookups and the append of an event keep, every call of a unit of work keeps. -/
lemma UnitCall.keeps (call : UnitCall) : Keeps π (fun _ => I) (call.run c tenantID) := by
  cases call with
  | append sessionID type payloadDigest =>
    refine keeps_bind (keeps_bind (keeps_request fun _ => hlookup _ trivial) fun keyID => ?_)
      fun keyID => keeps_bind
        (keeps_bind (keeps_request fun _ => hlookup _ trivial) fun unwrapped => ?_) fun _ =>
          keeps_bind (keeps_request fun _ => hlookup _ trivial) fun eventID => happend _
    · match keyID with
      | none => exact keeps_stop fun _ _ _ => trivial
      | some keyID => exact keeps_pure keyID
    · match unwrapped with
      | true => exact keeps_pure ()
      | false => exact keeps_stop fun _ _ _ => trivial
  | appendFirst sessionID type payloadDigest keyID =>
    exact keeps_bind (keeps_request fun _ => hlookup _ trivial) fun eventID => happend _

lemma Caller.keeps (caller : Caller) : Keeps π (fun _ => I) (caller.run c tenantID) := by
  induction caller with
  | done commits =>
    match commits with
    | true => exact keeps_pure ()
    | false => exact keeps_stop fun _ _ _ => trivial
  | ask call k ih => exact keeps_bind (UnitCall.keeps hlookup happend call) ih

lemma finishErasure_keeps (keyIDs : List String) (reason : String) (sessionIDs : List UUID) :
    Keeps π (fun _ => I) (finishErasure c tenantID keyIDs reason sessionIDs) := by
  induction sessionIDs with
  | nil => exact keeps_pure ()
  | cons sessionID rest ih =>
    refine keeps_bind ?_ fun _ => ih
    exact keeps_bind (keeps_request fun _ => hlookup _ trivial) fun payloadDigest =>
      keeps_bind (keeps_request fun _ => hlookup _ trivial) fun eventID => happend _

omit happend in
lemma shredAll_keeps (keyIDs : List String) : Keeps π (fun _ => I) (shredAll keyIDs) := by
  induction keyIDs with
  | nil => exact keeps_pure []
  | cons keyID rest ih =>
    exact keeps_bind (keeps_request fun _ => hlookup _ trivial) fun active =>
      keeps_bind ih fun shredded => keeps_pure _

/-- What the lookups, the append of an event and the anchor pass keep, every transaction
keeps. -/
lemma Job.keeps {job : Job} (hanchor : job = .anchor → Keeps π (fun _ => I) (Audit.anchor c)) :
    Keeps π (fun _ => I) (job.program c tenantID) := by
  cases job with
  | log d => exact keeps_bind (happend d) fun _ => keeps_pure ()
  | unit caller => exact Caller.keeps hlookup happend caller
  | eraseTenant reason =>
    refine keeps_bind (keeps_request fun _ => hlookup _ trivial) fun (keyIDs : List String) => ?_
    cases keyIDs with
    | nil => exact keeps_pure ()
    | cons keyID keyIDs =>
      exact keeps_bind (keeps_request fun _ => hlookup _ trivial) fun sessionIDs =>
        finishErasure_keeps hlookup happend _ _ _
  | eraseSession sessionID reason =>
    refine keeps_bind (keeps_request fun _ => hlookup _ trivial) fun candidateKeys =>
      keeps_bind (shredAll_keeps hlookup _) fun shredded => ?_
    cases shredded with
    | nil => exact keeps_pure ()
    | cons keyID keyIDs => exact finishErasure_keeps hlookup happend _ _ _
  | anchor => exact hanchor rfl

end

/-! ### The statements -/

instance : EmptyCollection Db := ⟨{}⟩

instance : Append Db where
  append d d' :=
    { events := d.events ++ d'.events, receipts := d.receipts ++ d'.receipts
      anchors := d.anchors ++ d'.anchors, shredded := d.shredded ++ d'.shredded }

def Db.eventsOf (db : Db) (sessionID : UUID) : List EventRow :=
  db.events.filter fun e => e.sessionID = sessionID

def Db.receiptsOf (db : Db) (sessionID : UUID) : List Receipt :=
  ofSession sessionID db.receipts

/-- The locks that are held to the end of a transaction. -/
inductive LockKey
  | advisory (key : ℤ)
  | keyRow (keyID : String)
  deriving DecidableEq

/-- What the surroundings decide in a request. -/
inductive Pick
  | none
  | refused
  | drawn (receiptSeq : ℤ)
  | uuid (u : UUID)
  | digest (b : Bytes)
  | found (b : Bool)
  | keys (keyIDs : List String)
  | sessions (sessionIDs : List UUID)

/-- A statement that writes nothing. -/
def answers {α : Type} (lastReceiptSeq : ℤ) (a : α) : Option (TxEffect Db LockKey ℤ α) :=
  some { answer := a, writes := ∅, shared := lastReceiptSeq }

/-- The requests of a transaction that sees the rows `v`. What all transactions share is the
sequence of the receipts, by the last number drawn; numbers in between may have gone to other
tenants. -/
def exec (c : Crypto) (hashtext : String → ℤ) (v : Db) (lastReceiptSeq : ℤ) :
    (o : Request) → Pick → Option (TxEffect Db LockKey ℤ o.Answer)
  | .advisoryLock sessionID, .none =>
    some { answer := (), writes := ∅, locks := [.advisory (hashtext sessionID.string)]
           shared := lastReceiptSeq }
  | .insertEvent d, .none =>
    let seq := ((lastBy EventRow.seq (v.eventsOf d.sessionID)).map EventRow.seq).getD 0 + 1
    some { answer := seq, writes := { events := [d.row seq] }, shared := lastReceiptSeq }
  | .headHash sessionID, .none =>
    answers lastReceiptSeq ((lastBy Receipt.seq (v.receiptsOf sessionID)).map Receipt.hash)
  | .sign digest, .none => answers lastReceiptSeq (some (c.sign digest, c.keyID))
  | .sign _, .refused => answers lastReceiptSeq none
  | .insertReceipt r, .drawn receiptSeq =>
    if lastReceiptSeq < receiptSeq then
      some { answer := receiptSeq, writes := { receipts := [{ r with receiptSeq }] }
             shared := receiptSeq }
    else none
  | .activeKeyID sessionID, .none =>
    answers lastReceiptSeq
      ((lastBy EventRow.seq ((v.eventsOf sessionID).filter fun e => e.keyID ≠ erasureKeyID)).map
        EventRow.keyID)
  | .unwrap keyID, .found b =>
    if b = true ∧ keyID ∈ v.shredded then none else answers lastReceiptSeq b
  | .newUUID, .uuid u => answers lastReceiptSeq u
  | .shredTenant, .keys keyIDs =>
    if ∀ keyID ∈ keyIDs, keyID ∉ v.shredded then
      some { answer := keyIDs, writes := { shredded := keyIDs }
             locks := keyIDs.map LockKey.keyRow, shared := lastReceiptSeq }
    else none
  | .shred _, .found false => answers lastReceiptSeq false
  | .shred keyID, .found true =>
    if keyID ∈ v.shredded then none
    else some { answer := true, writes := { shredded := [keyID] }, locks := [.keyRow keyID]
                shared := lastReceiptSeq }
  | .keysOfSession sessionID, .keys keyIDs =>
    if keyIDs.Perm (((v.eventsOf sessionID).map EventRow.keyID).filter
        (· ≠ erasureKeyID)).dedup then
      answers lastReceiptSeq keyIDs
    else none
  | .sessionsForKeys keyIDs, .sessions sessionIDs =>
    if sessionIDs.Perm ((v.events.filter fun e => e.keyID ∈ keyIDs).map
        EventRow.sessionID).dedup then
      answers lastReceiptSeq sessionIDs
    else none
  | .erasureDigest _ _, .digest b => answers lastReceiptSeq b
  | .lastAnchor, .none =>
    answers lastReceiptSeq
      ((lastBy Anchor.toReceiptSeq v.anchors).map fun a => (a.toReceiptSeq, a.hash))
  | .maxReceiptSeq, .none =>
    answers lastReceiptSeq
      (((lastBy Receipt.receiptSeq v.receipts).map Receipt.receiptSeq).getD 0)
  | .receiptHashes fromSeq toSeq, .none => answers lastReceiptSeq (v.receiptHashes fromSeq toSeq)
  | .insertAnchor a, .none =>
    some { answer := (), writes := { anchors := [a] }, shared := lastReceiptSeq }
  | _, _ => none

/-- An effect that leaves the events, the receipts and the anchors alone, and the sequence and
the advisory locks. -/
structure Unobserved {α : Type} (lastReceiptSeq : ℤ) (eff : TxEffect Db LockKey ℤ α) : Prop where
  events : eff.writes.events = []
  receipts : eff.writes.receipts = []
  anchors : eff.writes.anchors = []
  shared : eff.shared = lastReceiptSeq
  locks : ∀ key, LockKey.advisory key ∉ eff.locks

/-- The requests that insert no event, receipt or anchor and take no advisory lock. -/
def Request.Reads : Request → Prop
  | .advisoryLock _ | .insertEvent _ | .insertReceipt _ | .insertAnchor _ => False
  | _ => True

/-- The requests that leave their surroundings nothing to decide. -/
def Request.Plain : Request → Prop
  | .advisoryLock _ | .insertEvent _ | .headHash _ | .activeKeyID _ | .lastAnchor
  | .maxReceiptSeq | .receiptHashes .. | .insertAnchor _ => True
  | _ => False

section

variable {c : Crypto} {hashtext : String → ℤ} {v : Db} {n : ℤ} {t : Pick}

lemma unobserved_answers {α : Type} {a : α} {eff : TxEffect Db LockKey ℤ α}
    (h : answers n a = some eff) : Unobserved n eff := by
  cases h
  exact ⟨rfl, rfl, rfl, rfl, fun _ => List.not_mem_nil⟩

lemma exec_reads {o : Request} {eff : TxEffect Db LockKey ℤ o.Answer}
    (h : exec c hashtext v n o t = some eff) (ho : o.Reads) : Unobserved n eff := by
  cases o <;> cases t
  -- a request is answered by a pick of its own kind
  all_goals try (cases h; done)
  case unwrap.found => exact unobserved_answers (Option.ite_none_left_eq_some.1 h).2
  case keysOfSession.keys | sessionsForKeys.sessions =>
    exact unobserved_answers (Option.ite_none_right_eq_some.1 h).2
  case shredTenant.keys =>
    obtain ⟨-, h⟩ := Option.ite_none_right_eq_some.1 h
    cases h
    exact ⟨rfl, rfl, rfl, rfl, fun _ => by simp⟩
  case shred.found active =>
    cases active with
    | false => exact unobserved_answers h
    | true =>
      obtain ⟨-, h⟩ := Option.ite_none_left_eq_some.1 h
      cases h
      exact ⟨rfl, rfl, rfl, rfl, fun _ => by simp⟩
  all_goals first | exact ho.elim | exact unobserved_answers h

/-- A request that leaves nothing to decide has one effect. -/
lemma exec_plain {o : Request} {eff eff' : TxEffect Db LockKey ℤ o.Answer}
    (h : exec c hashtext v n o t = some eff) (ho : o.Plain)
    (h' : exec c hashtext v n o .none = some eff') : eff = eff' := by
  cases t with
  | none => exact Option.mem_unique h h'
  | _ => cases o <;> first | exact ho.elim | nomatch h

lemma exec_sign {digest : Bytes} {eff : TxEffect Db LockKey ℤ (Option (Bytes × String))}
    (h : exec c hashtext v n (.sign digest) t = some eff) :
    eff.answer = none ∨ eff.answer = some (c.sign digest, c.keyID) := by
  cases t with
  | none => exact .inr (congrArg TxEffect.answer (Option.some.inj h)).symm
  | refused => exact .inl (congrArg TxEffect.answer (Option.some.inj h)).symm
  | _ => nomatch h

lemma exec_insertReceipt {r : Receipt} {eff : TxEffect Db LockKey ℤ ℤ}
    (h : exec c hashtext v n (.insertReceipt r) t = some eff) :
    ∃ receiptSeq, n < receiptSeq ∧
      eff = { answer := receiptSeq, writes := { receipts := [{ r with receiptSeq }] }
              shared := receiptSeq } := by
  cases t with
  | drawn receiptSeq =>
    obtain ⟨hlt, h⟩ := Option.ite_none_right_eq_some.1 h
    exact ⟨receiptSeq, hlt, (Option.some.inj h).symm⟩
  | _ => nomatch h

end

/-- The tables of a tenant and the transactions that write them. -/
def tables (c : Crypto) (tenantID : UUID) (hashtext : String → ℤ) :
    TxStore Job Db LockKey ℤ Request Request.Answer Pick where
  program := Job.program c tenantID
  exec := exec c hashtext

/-- What is committed, and the transactions that are open. -/
abbrev Tables := Transactions Job Db LockKey ℤ Request Request.Answer

end NexusAgent.Audit
