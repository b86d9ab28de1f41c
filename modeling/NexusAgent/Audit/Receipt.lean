import NexusAgent.EventLog.Event
import NexusAgent.Lib.Bytes
import Mathlib.Data.Set.Function

/-!
# Audit receipts

The receipts of the audit chain and what is hashed for them (`internal/audit/chain.go`,
`internal/audit/anchor.go`, `migrations/0003_events.sql`, `migrations/0006_audit.sql`). A
transaction sees and writes the rows of one tenant only, so a `Db` holds the rows of a single
tenant, and the tenant's identifier is a parameter where it is hashed.

SHA-256, the signer and the check of a signature are a `Crypto`, of which no more is said here
than that hashes have 32 bytes and that a signature of the trusted key verifies. Payloads are
never read by the chain; an event row keeps its digest.
-/

namespace NexusAgent.Audit

/-- The hash function, the trusted key and its signatures. -/
structure Crypto where
  sha256 : Bytes → Bytes
  length_sha256 : ∀ b, (sha256 b).length = 32
  /-- The signature of the trusted key. -/
  sign : Bytes → Bytes
  /-- `ed25519.Verify` with the trusted public key: a digest and a signature. -/
  verify : Bytes → Bytes → Bool
  verify_sign : ∀ digest, verify digest (sign digest) = true
  /-- The name of the trusted key. -/
  keyID : String

/-- A rolling hash in the place of SHA-256, and digests that are their own signatures: enough to
run the chain on given rows. -/
def Crypto.rolling : Crypto where
  sha256 b := bigEndian 32 (b.foldl (fun h x => 257 * h + x.toNat + 1) 0)
  length_sha256 _ := length_bigEndian ..
  sign digest := digest
  verify digest signature := digest = signature
  verify_sign _ := decide_eq_true rfl
  keyID := "dev"

/-- A row of `events`, as far as the audit chain is about it. -/
structure EventRow where
  eventID : UUID
  sessionID : UUID
  seq : ℤ
  type : String
  payloadDigest : Bytes
  /-- The key that the payload is sealed under. -/
  keyID : String

/-- `Receipt`: a row of `audit_receipts`. -/
structure Receipt where
  receiptSeq : ℤ
  sessionID : UUID
  seq : ℤ
  eventID : UUID
  eventType : String
  payloadDigest : Bytes
  /-- Nothing for the first receipt of a session. -/
  prevHash : Option Bytes
  hash : Bytes
  signature : Bytes
  signerKeyID : String

/-- `Anchor`: a row of `audit_anchors`. -/
structure Anchor where
  anchorID : UUID
  /-- Where the anchor before it ended. -/
  fromReceiptSeq : ℤ
  /-- The last receipt that is covered. -/
  toReceiptSeq : ℤ
  hash : Bytes
  signature : Bytes
  signerKeyID : String

/-- The rows of a tenant. -/
structure Db where
  events : List EventRow := []
  receipts : List Receipt := []
  anchors : List Anchor := []
  /-- The rows of `encryption_keys` whose status is `shredded`. -/
  shredded : List String := []

/-- `GenesisPrevHash`: stands for the hash before the first. -/
def genesisPrevHash : Bytes := List.replicate 32 0

/-- The bytes that `HashInput` hashes. -/
def hashedBytes (prevHash : Option Bytes) (tenantID sessionID : UUID) (seq : ℤ) (eventID : UUID)
    (eventType : String) (payloadDigest : Bytes) : Bytes :=
  prevHash.getD genesisPrevHash ++ (bigEndian 16 tenantID ++ (bigEndian 16 sessionID ++
    (bigEndian 8 (seq % 2 ^ 64).toNat ++ (bigEndian 16 eventID ++
      (bigEndian 4 (textBytes eventType).length ++ (textBytes eventType ++ payloadDigest))))))

def hashInput (c : Crypto) (prevHash : Option Bytes) (tenantID sessionID : UUID) (seq : ℤ)
    (eventID : UUID) (eventType : String) (payloadDigest : Bytes) : Bytes :=
  c.sha256 (hashedBytes prevHash tenantID sessionID seq eventID eventType payloadDigest)

/-- The receipt of an event that follows on a hash, as the trusted key signs it. -/
def receiptFor (c : Crypto) (tenantID : UUID) (prevHash : Option Bytes) (e : EventRow)
    (receiptSeq : ℤ) : Receipt :=
  let hash := hashInput c prevHash tenantID e.sessionID e.seq e.eventID e.type e.payloadDigest
  { receiptSeq, sessionID := e.sessionID, seq := e.seq, eventID := e.eventID
    eventType := e.type, payloadDigest := e.payloadDigest, prevHash, hash
    signature := c.sign hash, signerKeyID := c.keyID }

def anchoredBytes (prevHash : Option Bytes) (receiptHashes : List Bytes) : Bytes :=
  prevHash.getD genesisPrevHash ++ receiptHashes.flatten

/-- What the columns of a row can hold. -/
def EventRow.Typed (e : EventRow) : Prop :=
  e.eventID < 2 ^ 128 ∧ (textBytes e.type).length < 2 ^ 32

/-- What the columns of a receipt can hold. -/
def Receipt.Typed (r : Receipt) : Prop :=
  r.eventID < 2 ^ 128 ∧ (textBytes r.eventType).length < 2 ^ 32

/-- The bytes that are hashed for a receipt. -/
def Receipt.hashed (tenantID : UUID) (r : Receipt) : Bytes :=
  hashedBytes r.prevHash tenantID r.sessionID r.seq r.eventID r.eventType r.payloadDigest

variable {tenantID tenantID' : UUID} {r r' : Receipt}

lemma hashed_inj (h : r.Typed) (h' : r'.Typed)
    (hprev : (r.prevHash.getD genesisPrevHash).length = (r'.prevHash.getD genesisPrevHash).length)
    (heq : r.hashed tenantID = r'.hashed tenantID') :
    r.prevHash.getD genesisPrevHash = r'.prevHash.getD genesisPrevHash ∧
      bigEndian 16 tenantID = bigEndian 16 tenantID' ∧
      bigEndian 16 r.sessionID = bigEndian 16 r'.sessionID ∧
      bigEndian 8 (r.seq % 2 ^ 64).toNat = bigEndian 8 (r'.seq % 2 ^ 64).toNat ∧
      r.eventID = r'.eventID ∧ r.eventType = r'.eventType ∧
      r.payloadDigest = r'.payloadDigest := by
  -- the fields are read back one after another; the width or the length of each is known
  obtain ⟨hhash, heq⟩ := List.append_inj heq hprev
  obtain ⟨htenant, heq⟩ := List.append_inj heq (by simp)
  obtain ⟨hsession, heq⟩ := List.append_inj heq (by simp)
  obtain ⟨hseq, heq⟩ := List.append_inj heq (by simp)
  obtain ⟨hid, heq⟩ := List.append_inj heq (by simp)
  obtain ⟨hlength, heq⟩ := List.append_inj heq (by simp)
  obtain ⟨htype, hdigest⟩ := List.append_inj heq (bigEndian_inj h.2 h'.2 hlength)
  exact ⟨hhash, htenant, hsession, hseq, bigEndian_inj h.1 h'.1 hid, textBytes_inj htype, hdigest⟩

/-- Receipts that hash to the same value, with a previous hash of 32 bytes or none, have the same
fields; no previous hash and the genesis hash are the same. -/
theorem hashInput_inj {c : Crypto} (h : r.Typed) (h' : r'.Typed)
    (hprev : ∀ b ∈ r.prevHash, b.length = 32) (hprev' : ∀ b ∈ r'.prevHash, b.length = 32)
    (hids : tenantID < 2 ^ 128 ∧ r.sessionID < 2 ^ 128)
    (hids' : tenantID' < 2 ^ 128 ∧ r'.sessionID < 2 ^ 128)
    (hseq : -2 ^ 63 ≤ r.seq ∧ r.seq < 2 ^ 63) (hseq' : -2 ^ 63 ≤ r'.seq ∧ r'.seq < 2 ^ 63)
    (hcollisionFree : Set.InjOn c.sha256 {r.hashed tenantID, r'.hashed tenantID'})
    (heq : hashInput c r.prevHash tenantID r.sessionID r.seq r.eventID r.eventType
        r.payloadDigest =
      hashInput c r'.prevHash tenantID' r'.sessionID r'.seq r'.eventID r'.eventType
        r'.payloadDigest) :
    r.prevHash.getD genesisPrevHash = r'.prevHash.getD genesisPrevHash ∧ tenantID = tenantID' ∧
      r.sessionID = r'.sessionID ∧ r.seq = r'.seq ∧ r.eventID = r'.eventID ∧
      r.eventType = r'.eventType ∧ r.payloadDigest = r'.payloadDigest := by
  have hlength {prev : Option Bytes} (h : ∀ b ∈ prev, b.length = 32) :
      (prev.getD genesisPrevHash).length = 32 := by
    cases prev with
    | none => rfl
    | some b => exact h b rfl
  obtain ⟨hhash, htenant, hsession, hseqs, hid, htype, hdigest⟩ :=
    hashed_inj h h' ((hlength hprev).trans (hlength hprev').symm)
      (hcollisionFree (.inl rfl) (.inr rfl) heq)
  refine ⟨hhash, bigEndian_inj hids.1 hids'.1 htenant, bigEndian_inj hids.2 hids'.2 hsession, ?_,
    hid, htype, hdigest⟩
  have hmod := bigEndian_inj (by omega) (by omega) hseqs
  omega

/-- A first receipt, which has no previous hash. -/
def firstReceipt : Receipt :=
  { receiptSeq := 1, sessionID := 7, seq := 1, eventID := 11, eventType := "thought"
    payloadDigest := [1, 2], prevHash := none, hash := [], signature := [], signerKeyID := "" }

theorem firstReceipt_hashInput :
    ∃ (tenantID : UUID) (r : Receipt), r.prevHash = some genesisPrevHash ∧
      firstReceipt.prevHash.getD genesisPrevHash = r.prevHash.getD genesisPrevHash ∧
      3 = tenantID ∧
      firstReceipt.sessionID = r.sessionID ∧ firstReceipt.seq = r.seq ∧
      firstReceipt.eventID = r.eventID ∧ firstReceipt.eventType = r.eventType ∧
      firstReceipt.payloadDigest = r.payloadDigest := by
  refine ⟨3, { firstReceipt with prevHash := some genesisPrevHash }, rfl, ?_⟩
  refine hashInput_inj (c := .rolling) ⟨by decide, by decide +kernel⟩
    ⟨by decide, by decide +kernel⟩ (by simp [firstReceipt]) (by simp [genesisPrevHash])
    (by decide) (by decide) (by decide) (by decide) ?_ rfl
  rintro _ (rfl | rfl) _ (rfl | rfl) _ <;> rfl

end NexusAgent.Audit
