import NexusAgent.Audit.Receipt
import NexusAgent.Lib.OrderBy

/-!
# Verification of the audit chain

`Verify` (`internal/audit/postgres/verify.go`, `internal/audit/verify.go`): an event without a
receipt is a gap; the receipts are walked session by session in the order of their sequence
numbers, and the anchors in the order of their ends, and every link, hash and signature that is
not as it should be is a break.
-/

namespace NexusAgent.Audit

/-- The kinds of a break. -/
inductive BreakKind
  | hashMismatch
  | signatureInvalid
  | unverifiableSignerKey
  deriving DecidableEq

structure Break where
  /-- Zero for a break of an anchor. -/
  sessionID : UUID := 0
  seq : ℤ
  kind : BreakKind
  detail : String

/-- `Gap`: an event with no receipt. -/
structure Gap where
  sessionID : UUID
  missingSeq : ℤ

structure Report where
  receiptsChecked : ℕ
  anchorsChecked : ℕ
  breaks : List Break
  gaps : List Gap

def Report.ok (r : Report) : Bool := r.breaks.isEmpty && r.gaps.isEmpty

/-- `bytesEqualNilAware`: no bytes at all are as good as an empty string of them. -/
def bytesEqualNilAware (a b : Option Bytes) : Bool := a.getD [] = b.getD []

section

variable (c : Crypto)

/-- The check of a stored hash and its signature, which is the same for receipts and anchors but
for the words of its findings. -/
def checkSeal (sessionID : UUID) (seq : ℤ) (label what : String) (want hash signature : Bytes)
    (signerKeyID : String) : List Break :=
  if want ≠ hash then
    [{ sessionID, seq, kind := .hashMismatch
       detail := label ++ "recomputed " ++ what ++ " does not match the stored hash" }]
  else if signerKeyID ≠ c.keyID then
    [{ sessionID, seq, kind := .unverifiableSignerKey
       detail := label ++ "signed by " ++ Go.quote signerKeyID ++ ", current trusted key is " ++
         Go.quote c.keyID }]
  else if !c.verify hash signature then
    [{ sessionID, seq, kind := .signatureInvalid
       detail := label ++ "signature does not verify against the trusted public key" }]
  else []

def verifyGaps (db : Db) : List Gap :=
  ((orderBy (fun e => toLex (e.sessionID, e.seq)) db.events).filter fun e =>
    !db.receipts.any fun r => r.sessionID = e.sessionID ∧ r.seq = e.seq).map fun e =>
      { sessionID := e.sessionID, missingSeq := e.seq }

/-- The check of one receipt against the hash that should come before it. -/
def checkReceipt (tenantID : UUID) (expectedPrev : Option Bytes) (r : Receipt) : List Break :=
  (if bytesEqualNilAware r.prevHash expectedPrev then []
    else [{ sessionID := r.sessionID, seq := r.seq, kind := .hashMismatch
            detail := "stored prev_hash does not match the previous receipt's hash" }]) ++
  checkSeal c r.sessionID r.seq "" "hash"
    (hashInput c r.prevHash tenantID r.sessionID r.seq r.eventID r.eventType r.payloadDigest)
    r.hash r.signature r.signerKeyID

/-- The loop of `verifyReceiptChain`, with the session it is in and the hash that it expects. -/
def walkReceipts (tenantID : UUID) : Option UUID → Option Bytes → List Receipt → List Break
  | _, _, [] => []
  | curSession, expectedPrev, r :: rest =>
    let expectedPrev := if curSession = some r.sessionID then expectedPrev else none
    checkReceipt c tenantID expectedPrev r ++
      walkReceipts tenantID (some r.sessionID) (some r.hash) rest

def Db.receiptsInOrder (db : Db) : List Receipt :=
  orderBy (fun r => toLex (r.sessionID, r.seq)) db.receipts

def verifyReceiptChain (tenantID : UUID) (db : Db) : List Break :=
  walkReceipts c tenantID none none db.receiptsInOrder

def Db.receiptHashes (db : Db) (fromSeq toSeq : ℤ) : List Bytes :=
  ((orderBy Receipt.receiptSeq db.receipts).filter fun r =>
    fromSeq < r.receiptSeq ∧ r.receiptSeq ≤ toSeq).map Receipt.hash

def checkAnchor (prevAnchorHash : Option Bytes) (receiptHashes : List Bytes) (a : Anchor) :
    List Break :=
  checkSeal c 0 a.toReceiptSeq ("anchor " ++ a.anchorID.string ++ ": ") "aggregate hash"
    (c.sha256 (anchoredBytes prevAnchorHash receiptHashes)) a.hash a.signature a.signerKeyID

/-- The loop of `verifyAnchors`. Each anchor's receipts are read by a query of its own; the
`i`th query reads `read i`. -/
def walkAnchors (read : ℕ → Db) : ℕ → Option Bytes → List Anchor → List Break
  | _, _, [] => []
  | i, prevAnchorHash, a :: rest =>
    checkAnchor c prevAnchorHash ((read i).receiptHashes a.fromReceiptSeq a.toReceiptSeq) a ++
      walkAnchors read (i + 1) (some a.hash) rest

def Db.anchorsInOrder (db : Db) : List Anchor := orderBy Anchor.toReceiptSeq db.anchors

/-- `verifyAnchors`, whose queries may read the tables at different times. -/
def verifyAnchors (db : Db) (read : ℕ → Db) : List Break :=
  walkAnchors c read 0 none db.anchorsInOrder

/-- `Verify`, of tables that do not change meanwhile. -/
def verify (tenantID : UUID) (db : Db) : Report where
  receiptsChecked := db.receipts.length
  anchorsChecked := db.anchors.length
  breaks := verifyReceiptChain c tenantID db ++ verifyAnchors c db fun _ => db
  gaps := verifyGaps db

end

/-! ### What a clean report says -/

variable {c : Crypto} {tenantID : UUID}

lemma checkSeal_eq_nil {sessionID : UUID} {seq : ℤ} {label what : String}
    {want hash signature : Bytes} {signerKeyID : String} :
    checkSeal c sessionID seq label what want hash signature signerKeyID = [] ↔
      want = hash ∧ signerKeyID = c.keyID ∧ c.verify hash signature = true := by
  unfold checkSeal
  by_cases hhash : want = hash
  · by_cases hkey : signerKeyID = c.keyID
    · by_cases hsig : c.verify hash signature = true <;> simp [hhash, hkey, hsig]
    · simp [hhash, hkey]
  · simp [hhash]

structure Sealed (c : Crypto) (tenantID : UUID) (r : Receipt) : Prop where
  hash_eq : hashInput c r.prevHash tenantID r.sessionID r.seq r.eventID r.eventType
    r.payloadDigest = r.hash
  signer : r.signerKeyID = c.keyID
  verifies : c.verify r.hash r.signature = true

/-- Receipts that follow on a hash, each on the one before it. -/
def Chain (c : Crypto) (tenantID : UUID) : Option Bytes → List Receipt → Prop
  | _, [] => True
  | prev, r :: rest => r.prevHash.getD [] = prev.getD [] ∧ Sealed c tenantID r ∧
      Chain c tenantID (some r.hash) rest

lemma checkReceipt_eq_nil {expectedPrev : Option Bytes} {r : Receipt} :
    checkReceipt c tenantID expectedPrev r = [] ↔
      r.prevHash.getD [] = expectedPrev.getD [] ∧ Sealed c tenantID r := by
  unfold checkReceipt bytesEqualNilAware
  rw [List.append_eq_nil_iff, checkSeal_eq_nil]
  refine and_congr ?_ ⟨fun ⟨h, h', h''⟩ => ⟨h, h', h''⟩, fun h => ⟨h.hash_eq, h.signer, h.verifies⟩⟩
  simp

abbrev ofSession (sessionID : UUID) (rs : List Receipt) : List Receipt :=
  rs.filter fun r => r.sessionID = sessionID

/-- A walk in the order of the sessions finds nothing exactly when the receipts of the session
it is in go on from the expected hash, and those of every other session are a chain. -/
theorem walkReceipts_eq_nil {curSession : Option UUID} {expectedPrev : Option Bytes}
    {rs : List Receipt} (hsorted : rs.Pairwise fun r r' => r.sessionID ≤ r'.sessionID)
    (hcur : ∀ s ∈ curSession, ∀ r ∈ rs, s ≤ r.sessionID) :
    walkReceipts c tenantID curSession expectedPrev rs = [] ↔
      ∀ s, Chain c tenantID (if curSession = some s then expectedPrev else none)
        (ofSession s rs) := by
  induction rs generalizing curSession expectedPrev with
  | nil => simp [walkReceipts, Chain]
  | cons r rest ih =>
    obtain ⟨hfirst, hrest⟩ := List.pairwise_cons.1 hsorted
    have hnext : walkReceipts c tenantID (some r.sessionID) (some r.hash) rest = [] ↔
        ∀ s, Chain c tenantID (if some r.sessionID = some s then some r.hash else none)
          (ofSession s rest) := by
      apply ih hrest
      rintro _ ⟨⟩
      exact hfirst
    have hown : ofSession r.sessionID (r :: rest) = r :: ofSession r.sessionID rest :=
      List.filter_cons_of_pos (decide_eq_true rfl)
    have hother {s : UUID} (hs : r.sessionID ≠ s) : ofSession s (r :: rest) = ofSession s rest :=
      List.filter_cons_of_neg (by simpa using hs)
    -- the session that the walk leaves has no further receipts, so it does not matter from
    -- where they would have to go on
    have hleft {s : UUID} (hs : r.sessionID ≠ s) :
        Chain c tenantID (if curSession = some s then expectedPrev else none) (ofSession s rest) ↔
          Chain c tenantID none (ofSession s rest) := by
      split
      · next hcurs =>
        have hgone : ofSession s rest = [] := by
          refine List.filter_eq_nil_iff.2 fun r' hr' => ?_
          have hle := hcur s hcurs r List.mem_cons_self
          have hlt := (lt_of_le_of_ne hle hs.symm).trans_le (hfirst r' hr')
          simpa using hlt.ne'
        rw [hgone]
        exact Iff.rfl
      · exact Iff.rfl
    simp only [walkReceipts, List.append_eq_nil_iff, checkReceipt_eq_nil, hnext]
    constructor
    · rintro ⟨hhead, htail⟩ s
      by_cases hs : r.sessionID = s
      · subst hs
        rw [hown]
        exact ⟨hhead.1, hhead.2, by simpa using htail r.sessionID⟩
      · rw [hother hs, hleft hs]
        simpa [hs] using htail s
    · intro h
      have hhead := h r.sessionID
      rw [hown] at hhead
      refine ⟨⟨hhead.1, hhead.2.1⟩, fun s => ?_⟩
      by_cases hs : r.sessionID = s
      · subst hs
        simpa using hhead.2.2
      · have htail := h s
        rw [hother hs, hleft hs] at htail
        simpa [hs] using htail

/-- The receipts of a session in the order of their sequence numbers. -/
def Db.chainOf (db : Db) (sessionID : UUID) : List Receipt :=
  ofSession sessionID db.receiptsInOrder

lemma verifyReceiptChain_eq_nil {db : Db} :
    verifyReceiptChain c tenantID db = [] ↔ ∀ s, Chain c tenantID none (db.chainOf s) := by
  have hsorted := pairwise_fst_of_lex
    (pairwise_orderBy (fun r : Receipt => toLex (r.sessionID, r.seq)) db.receipts)
  have hwalk : walkReceipts c tenantID none none db.receiptsInOrder = [] ↔
      ∀ s, Chain c tenantID (if none = some s then none else none)
        (ofSession s db.receiptsInOrder) :=
    walkReceipts_eq_nil hsorted fun _ hs => nomatch hs
  exact hwalk

lemma verifyGaps_eq_nil {db : Db} :
    verifyGaps db = [] ↔
      ∀ e ∈ db.events, ∃ r ∈ db.receipts, r.sessionID = e.sessionID ∧ r.seq = e.seq := by
  unfold verifyGaps
  simp [List.map_eq_nil_iff, List.filter_eq_nil_iff]

/-- A clean report has neither gaps nor breaks. -/
lemma verify_ok {db : Db} :
    (verify c tenantID db).ok = true ↔
      verifyGaps db = [] ∧ verifyReceiptChain c tenantID db = [] ∧
        verifyAnchors c db (fun _ => db) = [] := by
  show ((verifyReceiptChain c tenantID db ++ verifyAnchors c db fun _ => db).isEmpty &&
    (verifyGaps db).isEmpty) = true ↔ _
  rw [Bool.and_eq_true, List.isEmpty_iff, List.isEmpty_iff, List.append_eq_nil_iff]
  tauto

/-- The report is clean exactly if every event has a receipt, the receipts of each session alone are
a chain, and the anchors pass. -/
theorem verify_clean_iff {db : Db} :
    (verify c tenantID db).ok = true ↔
      (∀ e ∈ db.events, ∃ r ∈ db.receipts, r.sessionID = e.sessionID ∧ r.seq = e.seq) ∧
        (∀ s, Chain c tenantID none (db.chainOf s)) ∧ verifyAnchors c db (fun _ => db) = [] := by
  rw [verify_ok, verifyGaps_eq_nil, verifyReceiptChain_eq_nil]

end NexusAgent.Audit
