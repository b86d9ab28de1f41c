import NexusAgent.Audit.Writers

/-!
# Anchors that verify

An anchor pass reads the last anchor, the highest number among the receipts and the hashes of the
receipts in between. Receipts are numbered when they are inserted and are seen when their
transaction commits, so a receipt can turn up below a number that has been read before, and two
passes can read the same last anchor. In both cases an anchor that nobody has tampered with no
longer verifies.

- `Closed`: no receipt up to a number can turn up any more. This is what an anchor needs of the
  transactions around it, and no step undoes it (`Closed.step`).
-/

namespace NexusAgent.Audit

/-- An open transaction. -/
abbrev AuditTx := Tx Job Db LockKey Request Request.Answer

/-! ### The condition -/

def Job.isAnchor : Job → Bool
  | .anchor => true
  | _ => false

/-- The number up to which a transaction is about to read the hashes of the receipts. -/
def readsUpTo (tx : AuditTx) : Option ℤ :=
  match tx.live with
  | .ask (.receiptHashes _ toSeq) _ => some toSeq
  | _ => none

/-- A step that starts no anchor pass while another is open, and that reads the hashes of receipts
only if all receipts of other transactions up to the same number are committed. -/
def Orderly (w : Tables) : TxAction Job Pick → Prop
  | .start job => job.isAnchor = true → ∀ tx ∈ w.txs, tx.job.isAnchor = false
  | .exec i _ => ∀ tx ∈ w.txs[i]?, ∀ toSeq ∈ readsUpTo tx,
      ∀ tx' ∈ w.txs.eraseIdx i, ∀ r ∈ tx'.written.receipts, toSeq < r.receiptSeq
  | _ => True

instance (w : Tables) (a : TxAction Job Pick) : Decidable (Orderly w a) := by
  cases a <;> unfold Orderly <;> infer_instance

/-! ### Chains of anchors -/

def endOf (as : List Anchor) : ℤ := (as.getLast?.map Anchor.toReceiptSeq).getD 0

def lastOf (as : List Anchor) : Option (ℤ × Bytes) :=
  as.getLast?.map fun a => (a.toReceiptSeq, a.hash)

/-- Anchors in the order of their ends, each on the one before it; `hashes` are the hashes of the
receipts after one number, up to another. -/
inductive AnchorChain (c : Crypto) (hashes : ℤ → ℤ → List Bytes) : List Anchor → Prop
  | nil : AnchorChain c hashes []
  | snoc {as : List Anchor} {a : Anchor} :
      AnchorChain c hashes as → a.fromReceiptSeq = endOf as → endOf as < a.toReceiptSeq →
      c.sha256 (anchoredBytes (as.getLast?.map Anchor.hash)
        (hashes a.fromReceiptSeq a.toReceiptSeq)) = a.hash →
      a.signerKeyID = c.keyID → c.verify a.hash a.signature = true →
      AnchorChain c hashes (as ++ [a])

section

variable {c : Crypto} {hashes hashes' : ℤ → ℤ → List Bytes} {as : List Anchor}

@[simp]
lemma endOf_snoc (as : List Anchor) (a : Anchor) : endOf (as ++ [a]) = a.toReceiptSeq := by
  simp [endOf]

namespace AnchorChain

variable (h : AnchorChain c hashes as)
include h

lemma congr
    (hsame : ∀ fromSeq toSeq, toSeq ≤ endOf as → hashes' fromSeq toSeq = hashes fromSeq toSeq) :
    AnchorChain c hashes' as := by
  induction h with
  | nil => exact .nil
  | @snoc as a _ hfrom hlt hhash hsigner hverify ih =>
    rw [endOf_snoc] at hsame
    refine .snoc (ih fun fromSeq toSeq hle => hsame fromSeq toSeq (hle.trans hlt.le)) hfrom hlt ?_
      hsigner hverify
    rw [hsame _ _ le_rfl]
    exact hhash

lemma le_endOf : ∀ a ∈ as, a.toReceiptSeq ≤ endOf as := by
  induction h with
  | nil => exact List.forall_mem_nil _
  | snoc _ _ hlt _ _ _ ih =>
    intro a ha
    rw [endOf_snoc]
    rcases List.mem_append.1 ha with hold | hnew
    · exact (ih a hold).trans hlt.le
    · rw [List.mem_singleton.1 hnew]

lemma pairwise_to :
    as.Pairwise fun a a' => a.toReceiptSeq ≤ a'.toReceiptSeq := by
  induction h with
  | nil => exact .nil
  | snoc h _ hlt _ _ _ ih =>
    refine List.pairwise_append.2 ⟨ih, List.pairwise_singleton _ _, ?_⟩
    intro a ha a' ha'
    rw [List.mem_singleton.1 ha']
    exact (h.le_endOf a ha).trans hlt.le

end AnchorChain

lemma walkAnchors_snoc (read : ℕ → Db) (i : ℕ) (prev : Option Bytes) (as : List Anchor)
    (a : Anchor) :
    walkAnchors c read i prev (as ++ [a]) = walkAnchors c read i prev as ++
      checkAnchor c ((as.getLast?.map Anchor.hash).or prev)
        ((read (i + as.length)).receiptHashes a.fromReceiptSeq a.toReceiptSeq) a := by
  induction as generalizing i prev with
  | nil => simp [walkAnchors]
  | cons a' as ih =>
    have hlast : ((a' :: as).getLast?.map Anchor.hash).or prev =
        (as.getLast?.map Anchor.hash).or (some a'.hash) := by
      cases as with
      | nil => rfl
      | cons a'' as => simp [List.getLast?_cons]
    simp only [List.cons_append, walkAnchors, ih, hlast, List.append_assoc, List.length_cons,
      Nat.add_assoc, Nat.add_comm 1]

lemma AnchorChain.walk_eq_nil (h : AnchorChain c hashes as) (read : ℕ → Db)
    (hread : ∀ i fromSeq toSeq, toSeq ≤ endOf as →
      (read i).receiptHashes fromSeq toSeq = hashes fromSeq toSeq) :
    walkAnchors c read 0 none as = [] := by
  induction h with
  | nil => rfl
  | @snoc as a _ hfrom hlt hhash hsigner hverify ih =>
    rw [endOf_snoc] at hread
    rw [walkAnchors_snoc, ih fun i fromSeq toSeq hle => hread i fromSeq toSeq (hle.trans hlt.le),
      List.nil_append, Option.or_none, hread _ _ _ le_rfl]
    exact checkSeal_eq_nil.2 ⟨hhash, hsigner, hverify⟩

/-- What `verifyAnchors` finds of tables whose anchors are a chain. -/
lemma AnchorChain.verifyAnchors_eq_nil {db : Db} (h : AnchorChain c hashes db.anchors)
    (read : ℕ → Db)
    (hread : ∀ i fromSeq toSeq, toSeq ≤ endOf db.anchors →
      (read i).receiptHashes fromSeq toSeq = hashes fromSeq toSeq) :
    verifyAnchors c db read = [] := by
  unfold verifyAnchors Db.anchorsInOrder
  rw [orderBy_eq_self h.pairwise_to]
  exact h.walk_eq_nil read hread

end

/-! ### No receipt can turn up below a number -/

/-- The hashes up to a number do not change with receipts beyond it. -/
lemma Db.receiptHashes_append {d d' : Db} {toSeq : ℤ}
    (h : ∀ r ∈ d'.receipts, toSeq < r.receiptSeq) (fromSeq : ℤ) :
    (d ++ d').receiptHashes fromSeq toSeq = d.receiptHashes fromSeq toSeq := by
  have hnone :
      (d'.receipts.filter fun r => fromSeq < r.receiptSeq ∧ r.receiptSeq ≤ toSeq) = [] := by
    refine List.filter_eq_nil_iff.2 fun r hr => ?_
    simp [h r hr]
  have happend : (d ++ d').receipts = d.receipts ++ d'.receipts := rfl
  simp only [Db.receiptHashes, filter_orderBy_comm, happend, List.filter_append, hnone,
    List.append_nil]

/-- No receipt up to this number can turn up any more: it is not beyond the sequence, and what the
open transactions have not committed is beyond it. -/
structure Closed (b : ℤ) (w : Tables) : Prop where
  drawn : b ≤ w.shared
  pending : ∀ tx ∈ w.txs, ∀ r ∈ tx.written.receipts, b < r.receiptSeq

section

variable {c : Crypto} {tenantID : UUID} {hashtext : String → ℤ} {w w' : Tables}
  {a : TxAction Job Pick} {b : ℤ}

/-- The receipts that a request adds are beyond the sequence, which never goes back. -/
lemma exec_receipts {v : Db} {n : ℤ} {o : Request} {t : Pick}
    {eff : TxEffect Db LockKey ℤ o.Answer} (h : exec c hashtext v n o t = some eff) :
    n ≤ eff.shared ∧ ∀ r ∈ eff.writes.receipts, n < r.receiptSeq ∧ r.receiptSeq ≤ eff.shared := by
  cases o with
  | insertReceipt r =>
    obtain ⟨receiptSeq, hlt, rfl⟩ := exec_insertReceipt h
    refine ⟨hlt.le, fun r' hr' => ?_⟩
    rw [List.mem_singleton.1 hr']
    exact ⟨hlt, le_rfl⟩
  | advisoryLock | insertEvent | insertAnchor =>
    obtain rfl := exec_plain h trivial rfl
    exact ⟨le_rfl, List.forall_mem_nil _⟩
  | _ =>
    have hreads := exec_reads h trivial
    refine ⟨hreads.shared.ge, fun r hr => ?_⟩
    rw [hreads.receipts] at hr
    exact absurd hr List.not_mem_nil

/-- A number stays closed, and the hashes up to it stay what they are. -/
theorem Closed.step (h : Closed b w) (hst : (tables c tenantID hashtext).Taken w a w') :
    Closed b w' ∧ ∀ fromSeq toSeq, toSeq ≤ b →
      w'.committed.receiptHashes fromSeq toSeq = w.committed.receiptHashes fromSeq toSeq := by
  obtain ⟨hdrawn, hpending⟩ := h
  cases hst with
  | start job =>
    refine ⟨⟨hdrawn, List.forall_mem_append.2 ⟨hpending, ?_⟩⟩, fun _ _ _ => rfl⟩
    exact List.forall_mem_singleton.2 (List.forall_mem_nil _)
  | exec htxs hlive heff hfree =>
    obtain ⟨hshared, hnew⟩ := exec_receipts heff
    rw [htxs, List.forall_mem_split] at hpending
    refine ⟨⟨hdrawn.trans hshared, List.forall_mem_split.2 ⟨?_, hpending.2⟩⟩, fun _ _ _ => rfl⟩
    refine List.forall_mem_append.2 ⟨hpending.1, fun r hr => ?_⟩
    exact hdrawn.trans_lt (hnew r hr).1
  | commit htxs hlive =>
    rw [htxs, List.forall_mem_split] at hpending
    refine ⟨⟨hdrawn, hpending.2⟩, fun fromSeq toSeq hle => ?_⟩
    exact Db.receiptHashes_append (fun r hr => hle.trans_lt (hpending.1 r hr)) fromSeq
  | rollback htxs =>
    rw [htxs, List.forall_mem_split] at hpending
    exact ⟨⟨hdrawn, hpending.2⟩, fun _ _ _ => rfl⟩

lemma Closed.receiptHashes_of_reaches {G : Tables → TxAction Job Pick → Prop} (h : Closed b w)
    (hw : (tables c tenantID hashtext).machine.ReachesBy G w w') {toSeq : ℤ} (hle : toSeq ≤ b)
    (fromSeq : ℤ) :
    w'.committed.receiptHashes fromSeq toSeq = w.committed.receiptHashes fromSeq toSeq := by
  refine (hw.invariant (I := fun t => Closed b t ∧ t.committed.receiptHashes fromSeq toSeq =
    w.committed.receiptHashes fromSeq toSeq) ⟨h, rfl⟩ ?_).2
  rintro t a t' ⟨hclosed, heq⟩ - hst
  obtain ⟨hclosed', hsame⟩ := hclosed.step (TxStore.taken_of_step hst)
  exact ⟨hclosed', (hsame fromSeq toSeq hle).trans heq⟩

end

/-! ### The protocol of an anchor pass -/

/-- What a transaction has read for an anchor, and the anchor that it has inserted. -/
inductive PassStage
  /-- Not an anchor pass. -/
  | aside
  | ready
  | began (last : Option (ℤ × Bytes))
  | bounded (last : Option (ℤ × Bytes)) (maxSeq : ℤ)
  | hashed (last : Option (ℤ × Bytes)) (maxSeq : ℤ) (hashes : List Bytes)
  | inserted (a : Anchor)

/-- Where an anchor starts that follows on the last. -/
def startOf (last : Option (ℤ × Bytes)) : ℤ := (last.map Prod.fst).getD 0

def PassStage.after (q : PassStage) : (o : Request) → o.Answer → PassStage
  | .lastAnchor, last => .began last
  | .maxReceiptSeq, maxSeq =>
    match q with
    | .began last => .bounded last maxSeq
    | _ => q
  | .receiptHashes _ _, hashes =>
    match q with
    | .bounded last maxSeq => .hashed last maxSeq hashes
    | _ => q
  | .insertAnchor a, _ => .inserted a
  | _, _ => q

/-- What the programs keep to, as far as anchors are concerned. -/
def anchoring (c : Crypto) : Protocol PassStage Request Request.Answer where
  admits q
    | .insertReceipt _ => q = .aside
    | .lastAnchor => q = .ready
    | .maxReceiptSeq => ∃ last, q = .began last
    | .receiptHashes fromSeq toSeq =>
      ∃ last, q = .bounded last toSeq ∧ fromSeq = startOf last ∧ startOf last < toSeq
    | .insertAnchor a => ∃ last hashes, q = .hashed last a.toReceiptSeq hashes ∧
        a.fromReceiptSeq = startOf last ∧
        a.hash = c.sha256 (anchoredBytes (last.map Prod.snd) hashes) ∧
        a.signature = c.sign a.hash ∧ a.signerKeyID = c.keyID
    | _ => True
  step q o answer q' := q' = q.after o answer ∧
    match o, answer with
    | .sign digest, signed =>
      (signed : Option (Bytes × String)) = none ∨ signed = some (c.sign digest, c.keyID)
    | _, _ => True

section

variable {c : Crypto} {tenantID : UUID}

open Routine

lemma wp_anchor {R : Unit → Unit → PassStage → Prop} (hR : ∀ q, R () () q) :
    wp (anchoring c) (anchor c) R (fun _ => True) () .ready := by
  refine wp_ask rfl ?_
  rintro (last : Option (ℤ × Bytes)) _ ⟨rfl, -⟩
  refine wp_ask ⟨last, rfl⟩ ?_
  rintro (maxSeq : ℤ) _ ⟨rfl, -⟩
  by_cases hnew : maxSeq ≤ (last.map Prod.fst).getD 0
  · rw [if_pos hnew]
    exact hR _
  · rw [if_neg hnew]
    refine wp_ask ⟨last, rfl, rfl, not_le.1 hnew⟩ ?_
    rintro hashes _ ⟨rfl, -⟩
    refine wp_bind.2 (wp_ask trivial ?_)
    rintro signed _ ⟨rfl, rfl | rfl⟩
    · trivial
    · refine wp_ask trivial ?_
      rintro anchorID _ ⟨rfl, -⟩
      refine wp_request.2 ⟨⟨last, hashes, rfl, rfl, rfl, rfl, rfl⟩, ?_⟩
      rintro _ _ ⟨rfl, -⟩
      exact hR _

/-- The requests that are not about anchors. -/
def Request.Aside : Request → Prop
  | .lastAnchor | .maxReceiptSeq | .receiptHashes _ _ | .insertAnchor _ => False
  | _ => True

lemma keeps_request_aside {o : Request} (ho : o.Aside) :
    ∀ q, q = .aside → (anchoring c).admits q o ∧
      ∀ a q', (anchoring c).step q o a q' → q' = .aside := by
  rintro _ rfl
  cases o with
  | lastAnchor | maxReceiptSeq | receiptHashes | insertAnchor => exact ho.elim
  | insertReceipt => exact ⟨rfl, fun _ _ hst => hst.1⟩
  | _ => exact ⟨trivial, fun _ _ hst => hst.1⟩

lemma Request.Lookup.aside {o : Request} (ho : o.Lookup) : o.Aside := by
  cases o with
  | lastAnchor | maxReceiptSeq | receiptHashes | insertAnchor => exact ho.elim
  | _ => trivial

/-- Transactions that are not anchor passes read and insert no anchors. -/
lemma keeps_aside {job : Job} (hjob : job.isAnchor = false) :
    Keeps (anchoring c) (fun _ q => q = .aside) (job.program c tenantID) := by
  apply Job.keeps
  · exact fun o ho => keeps_request_aside ho.aside
  · intro d
    have hrequest (o : Request) (ho : o.Aside) :
        Keeps (anchoring c) (fun _ q => q = .aside) (request o : Work o.Answer) :=
      keeps_request fun _ => keeps_request_aside ho
    refine keeps_bind (keeps_bind (hrequest _ trivial) fun _ =>
      keeps_bind (hrequest _ trivial) fun _ => keeps_pure _) fun e => ?_
    refine keeps_bind (keeps_bind (hrequest _ trivial) fun prevHash =>
      keeps_bind (keeps_bind (hrequest _ trivial) fun signed => ?_) fun _ =>
        keeps_bind (hrequest _ trivial) fun _ => keeps_pure _) fun _ => keeps_pure e
    match signed with
    | none => exact keeps_stop fun _ _ _ => trivial
    | some signed => exact keeps_pure signed
  · rintro rfl
    nomatch hjob

end

/-! ### What is true of an anchor pass -/

/-- A transaction that has written neither receipts nor anchors. -/
def Unwritten (tx : AuditTx) : Prop := tx.written.receipts = [] ∧ tx.written.anchors = []

/-- What the tables look like to a transaction at a stage. -/
def AtStage (c : Crypto) (w : Tables) (tx : AuditTx) : PassStage → Prop
  | .aside => tx.job.isAnchor = false ∧ tx.written.anchors = []
  | .ready => tx.job.isAnchor = true ∧ Unwritten tx
  | .began last => tx.job.isAnchor = true ∧ Unwritten tx ∧ last = lastOf w.committed.anchors
  | .bounded last maxSeq => tx.job.isAnchor = true ∧ Unwritten tx ∧
      last = lastOf w.committed.anchors ∧ maxSeq ≤ w.shared
  | .hashed last maxSeq hashes => tx.job.isAnchor = true ∧ Unwritten tx ∧
      last = lastOf w.committed.anchors ∧ startOf last < maxSeq ∧ Closed maxSeq w ∧
      hashes = w.committed.receiptHashes (startOf last) maxSeq
  | .inserted a => tx.job.isAnchor = true ∧ tx.written.receipts = [] ∧ tx.written.anchors = [a] ∧
      Closed a.toReceiptSeq w ∧
      AnchorChain c w.committed.receiptHashes (w.committed.anchors ++ [a])

/-- What holds in every state of an orderly run. -/
structure AnchorsSound (c : Crypto) (w : Tables) : Prop where
  chain : AnchorChain c w.committed.receiptHashes w.committed.anchors
  closed : Closed (endOf w.committed.anchors) w
  numbered : ∀ r ∈ w.committed.receipts, r.receiptSeq ≤ w.shared
  pending : ∀ tx ∈ w.txs, ∀ r ∈ tx.written.receipts, r.receiptSeq ≤ w.shared
  nonneg : 0 ≤ w.shared
  staged : ∀ tx ∈ w.txs, ∃ q, AtStage c w tx q ∧
    tx.live.Follows (anchoring c) q fun _ _ => True
  single : w.txs.Pairwise fun tx tx' => tx.job.isAnchor = false ∨ tx'.job.isAnchor = false

section

variable {c : Crypto} {tenantID : UUID} {hashtext : String → ℤ} {w w' : Tables}
  {a : TxAction Job Pick} {tx : AuditTx} {q : PassStage}

/-- The sequence never goes back. -/
lemma shared_le_of_taken (hst : (tables c tenantID hashtext).Taken w a w') :
    w.shared ≤ w'.shared := by
  cases hst with
  | exec htxs hlive heff hfree => exact (exec_receipts heff).1
  | _ => exact le_rfl

theorem AtStage.step (h : AtStage c w tx q) (hst : (tables c tenantID hashtext).Taken w a w')
    (hanchors : w'.committed.anchors = w.committed.anchors) : AtStage c w' tx q := by
  cases q with
  | aside | ready => exact h
  | began last =>
    obtain ⟨hjob, hunwritten, hlast⟩ := h
    exact ⟨hjob, hunwritten, hlast.trans (congrArg lastOf hanchors.symm)⟩
  | bounded last maxSeq =>
    obtain ⟨hjob, hunwritten, hlast, hle⟩ := h
    exact ⟨hjob, hunwritten, hlast.trans (congrArg lastOf hanchors.symm),
      hle.trans (shared_le_of_taken hst)⟩
  | hashed last maxSeq hashes =>
    obtain ⟨hjob, hunwritten, hlast, hlt, hclosed, rfl⟩ := h
    obtain ⟨hclosed', hsame⟩ := hclosed.step hst
    exact ⟨hjob, hunwritten, hlast.trans (congrArg lastOf hanchors.symm), hlt, hclosed',
      (hsame _ _ le_rfl).symm⟩
  | inserted a =>
    obtain ⟨hjob, hreceipts, hown, hclosed, hchain⟩ := h
    obtain ⟨hclosed', hsame⟩ := hclosed.step hst
    refine ⟨hjob, hreceipts, hown, hclosed', ?_⟩
    rw [hanchors]
    exact hchain.congr fun fromSeq toSeq hle => hsame fromSeq toSeq (by simpa using hle)

lemma AtStage.congr {tx' : AuditTx} (h : AtStage c w tx q) (hjob : tx'.job = tx.job)
    (hreceipts : tx'.written.receipts = tx.written.receipts)
    (hanchors : tx'.written.anchors = tx.written.anchors) : AtStage c w tx' q := by
  cases q <;> simpa only [AtStage, Unwritten, hjob, hreceipts, hanchors] using h

lemma AnchorChain.snoc_of_last {as : List Anchor} {hashes : ℤ → ℤ → List Bytes}
    (h : AnchorChain c hashes as) {a : Anchor} (hfrom : a.fromReceiptSeq = startOf (lastOf as))
    (hlt : startOf (lastOf as) < a.toReceiptSeq)
    (hhash : a.hash = c.sha256 (anchoredBytes ((lastOf as).map Prod.snd)
      (hashes (startOf (lastOf as)) a.toReceiptSeq)))
    (hsign : a.signature = c.sign a.hash) (hsigner : a.signerKeyID = c.keyID) :
    AnchorChain c hashes (as ++ [a]) := by
  have hstart : startOf (lastOf as) = endOf as := by
    simp [startOf, lastOf, endOf, Function.comp_def]
  have hlast : (lastOf as).map Prod.snd = as.getLast?.map Anchor.hash := by
    simp [lastOf, Function.comp_def]
  rw [hstart] at hfrom hlt hhash
  rw [hlast, ← hfrom] at hhash
  exact .snoc h hfrom hlt hhash.symm hsigner (hsign ▸ c.verify_sign a.hash)

section

variable {n : ℤ} {o : Request} {t : Pick} {eff : TxEffect Db LockKey ℤ o.Answer}
  {k : o.Answer → Process Request Request.Answer (Option (Unit × Unit))}

/-- A request that adds neither receipts nor anchors leaves the stage. -/
lemma AtStage.unwritten (h : AtStage c w tx q) (hreceipts : eff.writes.receipts = [])
    (hanchors : eff.writes.anchors = []) : AtStage c w (tx.after k eff) q := by
  refine h.congr rfl ?_ ?_
  · exact (congrArg (tx.written.receipts ++ ·) hreceipts).trans (List.append_nil _)
  · exact (congrArg (tx.written.anchors ++ ·) hanchors).trans (List.append_nil _)

/-- A request of the transaction itself leads to its next stage. -/
lemma AtStage.exec (h : AtStage c w tx q) (hadmits : (anchoring c).admits q o)
    (heff : Audit.exec c hashtext (w.committed ++ tx.written) n o t = some eff)
    (hchain : AnchorChain c w.committed.receiptHashes w.committed.anchors)
    (hnumbered : ∀ r ∈ w.committed.receipts, r.receiptSeq ≤ w.shared) (hnonneg : 0 ≤ w.shared)
    (hclosed : ∀ fromSeq toSeq, o = .receiptHashes fromSeq toSeq → Unwritten tx →
      toSeq ≤ w.shared → Closed toSeq w) :
    AtStage c w (tx.after k eff) (q.after o eff.answer) := by
  cases o with
  | lastAnchor =>
    obtain rfl := hadmits
    have hreads := exec_reads heff trivial
    obtain ⟨hjob, hunwritten⟩ := h.unwritten (k := k) hreads.receipts hreads.anchors
    refine ⟨hjob, hunwritten, (congrArg TxEffect.answer (exec_plain heff trivial rfl)).trans ?_⟩
    -- the transaction has inserted no anchor, so it has read what is committed
    have hown : (w.committed ++ tx.written).anchors = w.committed.anchors :=
      (congrArg (w.committed.anchors ++ ·) h.2.2).trans (List.append_nil _)
    rw [hown, lastBy_eq_getLast? hchain.pairwise_to, lastOf]
  | maxReceiptSeq =>
    obtain ⟨last, rfl⟩ := hadmits
    have hreads := exec_reads heff trivial
    obtain ⟨hjob, hunwritten, hlast⟩ := h.unwritten (k := k) hreads.receipts hreads.anchors
    refine ⟨hjob, hunwritten, hlast, (le_of_eq (α := ℤ) (congrArg TxEffect.answer
      (exec_plain heff trivial rfl))).trans ?_⟩
    have hown : (w.committed ++ tx.written).receipts = w.committed.receipts :=
      (congrArg (w.committed.receipts ++ ·) h.2.1.1).trans (List.append_nil _)
    rw [hown]
    cases hmax : lastBy Receipt.receiptSeq w.committed.receipts with
    | none => exact hnonneg
    | some r => exact hnumbered r (mem_of_lastBy_eq_some hmax)
  | receiptHashes fromSeq toSeq =>
    obtain ⟨last, rfl, rfl, hlt⟩ := hadmits
    have hreads := exec_reads heff trivial
    obtain ⟨hjob, hunwritten, hlast, hle⟩ := h.unwritten (k := k) hreads.receipts hreads.anchors
    refine ⟨hjob, hunwritten, hlast, hlt, hclosed _ _ rfl h.2.1 hle, ?_⟩
    refine (congrArg TxEffect.answer (exec_plain heff trivial rfl)).trans
      (Db.receiptHashes_append (fun r hr => ?_) _)
    rw [h.2.1.1] at hr
    exact absurd hr List.not_mem_nil
  | insertAnchor a =>
    obtain ⟨last, hashes, rfl, hfrom, hhash, hsign, hsigner⟩ := hadmits
    obtain ⟨hjob, hunwritten, rfl, hlt, hclosed, rfl⟩ := h
    obtain rfl := exec_plain heff trivial rfl
    refine ⟨hjob, ?_, ?_, hclosed, hchain.snoc_of_last hfrom hlt hhash hsign hsigner⟩
    · exact (congrArg (· ++ []) hunwritten.1).trans (List.append_nil _)
    · exact congrArg (· ++ [a]) hunwritten.2
  | insertReceipt r =>
    obtain rfl := hadmits
    obtain ⟨receiptSeq, -, rfl⟩ := exec_insertReceipt heff
    exact ⟨h.1, (congrArg (· ++ []) h.2).trans (List.append_nil _)⟩
  | advisoryLock | insertEvent =>
    obtain rfl := exec_plain heff trivial rfl
    exact h.unwritten rfl rfl
  | _ =>
    have hreads := exec_reads heff trivial
    exact h.unwritten hreads.receipts hreads.anchors

/-- Every answer is one that the protocol allows for. -/
lemma anchoring_step (heff : Audit.exec c hashtext (w.committed ++ tx.written) n o t = some eff) :
    (anchoring c).step q o eff.answer (q.after o eff.answer) := by
  cases o with
  | sign digest => exact ⟨rfl, exec_sign heff⟩
  | _ => exact ⟨rfl, trivial⟩

end

/-! ### One step -/

/-- At most one of the transactions is an anchor pass. -/
lemma single_split {before after : List AuditTx} :
    ((before ++ tx :: after).Pairwise fun tx tx' =>
        tx.job.isAnchor = false ∨ tx'.job.isAnchor = false) ↔
      (∀ tx' ∈ before ++ after, tx.job.isAnchor = false ∨ tx'.job.isAnchor = false) ∧
      ((before ++ after).Pairwise fun tx tx' =>
        tx.job.isAnchor = false ∨ tx'.job.isAnchor = false) := by
  rw [List.pairwise_middle Or.symm, List.pairwise_cons]

lemma AtStage.inserted_of_ne (h : AtStage c w tx q) (hanchors : tx.written.anchors ≠ []) :
    ∃ a, q = .inserted a := by
  cases q with
  | inserted a => exact ⟨a, rfl⟩
  | aside => exact absurd h.2 hanchors
  | ready => exact absurd h.2.2 hanchors
  | began | bounded | hashed => exact absurd h.2.1.2 hanchors

namespace AnchorsSound

variable {job : Job} {before after : List AuditTx} (h : AnchorsSound c w)
include h

lemma start (hg : Orderly w (.start job)) :
    AnchorsSound c { w with txs := w.txs ++ [(tables c tenantID hashtext).begun job] } := by
  have hst : (tables c tenantID hashtext).Taken w (.start job) _ := .start job
  refine ⟨h.chain, (h.closed.step hst).1, h.numbered, ?_, h.nonneg, ?_, ?_⟩
  · refine List.forall_mem_snoc h.pending fun r hr => ?_
    exact absurd hr List.not_mem_nil
  · refine List.forall_mem_snoc (fun tx htx => ?_) ?_
    · obtain ⟨q, hstage, hfollows⟩ := h.staged tx htx
      exact ⟨q, hstage.step hst rfl, hfollows⟩
    · cases hjob : job.isAnchor with
      | false =>
        refine ⟨.aside, ⟨hjob, rfl⟩, ?_⟩
        exact Process.Follows.mono (keeps_aside hjob () .aside rfl) fun _ _ _ => trivial
      | true =>
        refine ⟨.ready, ⟨hjob, rfl, rfl⟩, ?_⟩
        cases job with
        | anchor =>
          exact Process.Follows.mono (wp_anchor (R := fun _ _ _ => True) fun _ => trivial)
            fun _ _ _ => trivial
        | _ => nomatch hjob
  · refine List.pairwise_append.2 ⟨h.single, List.pairwise_singleton _ _, ?_⟩
    intro tx htx tx' htx'
    rw [List.mem_singleton.1 htx']
    cases hjob : job.isAnchor with
    | false => exact .inr hjob
    | true => exact .inl (hg hjob tx htx)

lemma exec {o : Request} {t : Pick}
    {k : o.Answer → Process Request Request.Answer (Option (Unit × Unit))}
    {eff : TxEffect Db LockKey ℤ o.Answer} (hg : Orderly w (.exec before.length t))
    (htxs : w.txs = before ++ tx :: after) (hlive : tx.live = .ask o k)
    (heff : Audit.exec c hashtext (w.committed ++ tx.written) w.shared o t = some eff)
    (hst : (tables c tenantID hashtext).Taken w (.exec before.length t)
      { w with shared := eff.shared, txs := before ++ tx.after k eff :: after }) :
    AnchorsSound c { w with shared := eff.shared, txs := before ++ tx.after k eff :: after } := by
  obtain ⟨hshared, hnew⟩ := exec_receipts heff
  have hpending := h.pending
  have hstaged := h.staged
  have hsingle := h.single
  rw [htxs, List.forall_mem_split] at hpending hstaged
  rw [htxs, single_split] at hsingle
  have hnumbered : ∀ r ∈ w.committed.receipts, r.receiptSeq ≤ eff.shared :=
    fun r hr => (h.numbered r hr).trans hshared
  refine ⟨h.chain, (h.closed.step hst).1, hnumbered, ?_, h.nonneg.trans hshared, ?_, ?_⟩
  · refine List.forall_mem_split.2 ⟨List.forall_mem_append.2 ⟨fun r hr => ?_, fun r hr => ?_⟩,
      fun tx' htx' r hr => ?_⟩
    · exact (hpending.1 r hr).trans hshared
    · exact (hnew r hr).2
    · exact (hpending.2 tx' htx' r hr).trans hshared
  · refine List.forall_mem_split.2 ⟨?_, fun tx' htx' => ?_⟩
    · obtain ⟨q, hstage, hfollows⟩ := hstaged.1
      rw [hlive] at hfollows
      refine ⟨q.after o eff.answer, ?_, hfollows.2 _ _ (anchoring_step heff)⟩
      refine (hstage.step hst rfl).exec hfollows.1 heff h.chain hnumbered
        (h.nonneg.trans hshared) ?_
      rintro fromSeq toSeq rfl hunwritten hle
      refine ⟨hle, List.forall_mem_split.2 ⟨fun r hr => ?_, fun tx' htx' r hr => ?_⟩⟩
      · have hnone : (tx.after k eff).written.receipts = [] := by
          refine (congrArg (tx.written.receipts ++ ·) (exec_reads heff trivial).receipts).trans ?_
          rw [List.append_nil, hunwritten.1]
        rw [hnone] at hr
        exact absurd hr List.not_mem_nil
      · -- the step is orderly
        have hat : w.txs[before.length]? = some tx := by simp [htxs]
        have hothers : w.txs.eraseIdx before.length = before ++ after := by
          rw [htxs, List.eraseIdx_append_of_length_le le_rfl]
          simp
        refine hg tx hat toSeq ?_ tx' (hothers ▸ htx') r hr
        simp [readsUpTo, hlive]
    · obtain ⟨q, hstage, hfollows⟩ := hstaged.2 tx' htx'
      exact ⟨q, hstage.step hst rfl, hfollows⟩
  · exact single_split.2 hsingle

lemma commit (htxs : w.txs = before ++ tx :: after)
    (hst : (tables c tenantID hashtext).Taken w (.commit before.length)
      { w with committed := w.committed ++ tx.written, txs := before ++ after }) :
    AnchorsSound c { w with committed := w.committed ++ tx.written, txs := before ++ after } := by
  have hpending := h.pending
  have hstaged := h.staged
  have hsingle := h.single
  rw [htxs, List.forall_mem_split] at hpending hstaged
  rw [htxs, single_split] at hsingle
  have hnumbered : ∀ r ∈ (w.committed ++ tx.written).receipts, r.receiptSeq ≤ w.shared :=
    List.forall_mem_append.2 ⟨h.numbered, hpending.1⟩
  obtain ⟨q, hstage, -⟩ := hstaged.1
  by_cases hown : tx.written.anchors = []
  · -- no anchor is committed
    have hanchors : (w.committed ++ tx.written).anchors = w.committed.anchors :=
      (congrArg (w.committed.anchors ++ ·) hown).trans (List.append_nil _)
    obtain ⟨hclosed, hsame⟩ := h.closed.step hst
    refine ⟨?_, ?_, hnumbered, hpending.2, h.nonneg, fun tx' htx' => ?_, hsingle.2⟩
    · rw [hanchors]
      exact h.chain.congr hsame
    · rw [hanchors]
      exact hclosed
    · obtain ⟨q', hstage', hfollows⟩ := hstaged.2 tx' htx'
      exact ⟨q', hstage'.step hst hanchors, hfollows⟩
  · -- the anchor of the only pass that is open
    obtain ⟨a, rfl⟩ := hstage.inserted_of_ne hown
    obtain ⟨hjob, -, hone, hclosed, hchain⟩ := hstage
    obtain ⟨hclosed', hsame⟩ := hclosed.step hst
    have hanchors : (w.committed ++ tx.written).anchors = w.committed.anchors ++ [a] :=
      congrArg (w.committed.anchors ++ ·) hone
    refine ⟨?_, ?_, hnumbered, hpending.2, h.nonneg, fun tx' htx' => ?_, hsingle.2⟩
    · rw [hanchors]
      exact hchain.congr fun fromSeq toSeq hle => hsame fromSeq toSeq (by simpa using hle)
    · rw [hanchors, endOf_snoc]
      exact hclosed'
    · obtain ⟨q', hstage', hfollows⟩ := hstaged.2 tx' htx'
      have haside : tx'.job.isAnchor = false :=
        (hsingle.1 tx' htx').resolve_left (by simp [hjob])
      cases q' with
      | aside => exact ⟨.aside, hstage', hfollows⟩
      | _ => exact absurd hstage'.1 (by simp [haside])

theorem step (hg : Orderly w a)
    (hst : (tables c tenantID hashtext).Taken w a w') : AnchorsSound c w' := by
  have htaken := hst
  cases hst with
  | start job => exact h.start hg
  | exec htxs hlive heff hfree => exact h.exec hg htxs hlive heff htaken
  | commit htxs hlive => exact h.commit htxs htaken
  | rollback htxs =>
    have hpending := h.pending
    have hstaged := h.staged
    have hsingle := h.single
    rw [htxs, List.forall_mem_split] at hpending hstaged
    rw [htxs, single_split] at hsingle
    refine ⟨h.chain, (h.closed.step htaken).1, h.numbered, hpending.2, h.nonneg,
      fun tx' htx' => ?_, hsingle.2⟩
    obtain ⟨q, hstage, hfollows⟩ := hstaged.2 tx' htx'
    exact ⟨q, hstage.step htaken rfl, hfollows⟩

end AnchorsSound

/-! ### Verification -/

lemma anchorsSound_of_reaches {lastReceiptSeq : ℤ} (hseq : 0 ≤ lastReceiptSeq)
    (hw : (tables c tenantID hashtext).machine.ReachesBy Orderly
      { committed := ∅, shared := lastReceiptSeq } w) : AnchorsSound c w := by
  refine hw.invariant ⟨.nil, ⟨hseq, ?_⟩, ?_, ?_, hseq, ?_, .nil⟩ ?_
  · exact List.forall_mem_nil _
  · exact List.forall_mem_nil _
  · exact List.forall_mem_nil _
  · exact List.forall_mem_nil _
  · exact fun _ _ _ h hg hst => h.step hg (TxStore.taken_of_step hst)

/-- A verification inside a transaction, which sees what the transaction has written. -/
lemma AnchorsSound.verify_own (h : AnchorsSound c w) (htx : tx ∈ w.txs) (read : ℕ → Tables)
    (hread : ∀ i, (tables c tenantID hashtext).machine.Reaches w (read i)) :
    verifyAnchors c (w.committed ++ tx.written) (fun i => (read i).committed ++ tx.written) =
      [] := by
  obtain ⟨q, hstage, -⟩ := h.staged tx htx
  by_cases hown : tx.written.anchors = []
  · have hanchors : (w.committed ++ tx.written).anchors = w.committed.anchors :=
      (congrArg (w.committed.anchors ++ ·) hown).trans (List.append_nil _)
    have hchain := h.chain
    rw [← hanchors] at hchain
    refine hchain.verifyAnchors_eq_nil _ fun i fromSeq toSeq hle => ?_
    rw [hanchors] at hle
    -- its own receipts are beyond the anchors
    rw [Db.receiptHashes_append fun r hr => hle.trans_lt (h.closed.pending tx htx r hr)]
    exact h.closed.receiptHashes_of_reaches (hread i) hle fromSeq
  · obtain ⟨a, rfl⟩ := hstage.inserted_of_ne hown
    obtain ⟨-, hreceipts, hone, hclosed, hchain⟩ := hstage
    have hanchors : (w.committed ++ tx.written).anchors = w.committed.anchors ++ [a] :=
      congrArg (w.committed.anchors ++ ·) hone
    rw [← hanchors] at hchain
    refine hchain.verifyAnchors_eq_nil _ fun i fromSeq toSeq hle => ?_
    rw [hanchors, endOf_snoc] at hle
    rw [Db.receiptHashes_append fun r hr => ?_]
    · exact hclosed.receiptHashes_of_reaches (hread i) hle fromSeq
    · rw [hreceipts] at hr
      exact absurd hr List.not_mem_nil

end

/-- In an orderly run no verification finds a break among the anchors, neither one that sees what
is committed nor one that a transaction makes with what it has written itself. The verification
reads the anchors in the state `w` and the hashes for each of them in any state after it. -/
theorem anchors_verify (c : Crypto) (tenantID : UUID) (hashtext : String → ℤ)
    (lastReceiptSeq : ℤ) (hseq : 0 ≤ lastReceiptSeq) (w : Tables)
    (hw : (tables c tenantID hashtext).machine.ReachesBy Orderly
      { committed := ∅, shared := lastReceiptSeq } w)
    (read : ℕ → Tables)
    (hread : ∀ i, (tables c tenantID hashtext).machine.Reaches w (read i)) :
    verifyAnchors c w.committed (fun i => (read i).committed) = [] ∧
      ∀ tx ∈ w.txs, verifyAnchors c (w.committed ++ tx.written)
        (fun i => (read i).committed ++ tx.written) = [] := by
  have h := anchorsSound_of_reaches hseq hw
  refine ⟨h.chain.verifyAnchors_eq_nil _ fun i fromSeq toSeq hle => ?_,
    fun tx htx => h.verify_own htx read hread⟩
  exact h.closed.receiptHashes_of_reaches (hread i) hle fromSeq

/-- The tables of a tenant with a hash of identifiers that tells the sessions of the runs below
apart. -/
def sampleTables : TxStore Job Db LockKey ℤ Request Request.Answer Pick :=
  tables .rolling 3 fun s => (s.toList.getLast?.map Char.toNat).getD 0

/-- The kernel's log appends an event to a session, up to the receipt and its number. -/
def appendUpTo (i : ℕ) (sessionID : UUID) (receiptSeq : ℤ) : List (TxAction Job Pick) :=
  [.start (.log { eventID := 10 + sessionID, sessionID, type := "content", payloadDigest := [1]
                  keyID := "k" }),
   .exec i .none, .exec i .none, .exec i .none, .exec i .none, .exec i (.drawn receiptSeq)]

/-- The requests of an anchor pass that finds receipts. -/
def anchorPass (i : ℕ) (anchorID : UUID) : List (TxAction Job Pick) :=
  [.exec i .none, .exec i .none, .exec i .none, .exec i .none, .exec i (.uuid anchorID),
   .exec i .none]

/-- Two anchors, the second of which is verified while a receipt is pending. -/
theorem twoPasses_verify :
    ∃ w, sampleTables.machine.ReachesBy Orderly { committed := ∅, shared := 0 } w ∧
      w.committed.anchors.map Anchor.toReceiptSeq = [1, 2] ∧ w.txs.length = 1 ∧
      verifyAnchors .rolling w.committed (fun _ => w.committed) = [] := by
  refine Machine.ReachesBy.exists_of_runBy_imp
    (appendUpTo 0 1 1 ++ [.commit 0, .start .anchor] ++ anchorPass 0 20 ++ [.commit 0] ++
      appendUpTo 0 2 2 ++ [.commit 0] ++ appendUpTo 0 1 3 ++ [.start .anchor] ++
      anchorPass 1 21 ++ [.commit 1])
    (fun w => w.committed.anchors.map Anchor.toReceiptSeq = [1, 2] ∧ w.txs.length = 1) ?_
    fun w hw ⟨hanchors, hopen⟩ => ⟨hanchors, hopen,
      (anchors_verify .rolling 3 _ 0 le_rfl w hw (fun _ => w) fun _ => .refl).1⟩
  decide +kernel

def lateCommit : List (TxAction Job Pick) :=
  appendUpTo 0 1 1 ++ appendUpTo 1 2 2 ++ [.commit 1, .start .anchor] ++ anchorPass 1 20 ++
    [.commit 1, .commit 0]

/-- Two passes follow on the same last anchor, here on none. -/
def overlappingPasses : List (TxAction Job Pick) :=
  appendUpTo 0 1 1 ++ [.commit 0, .start .anchor, .start .anchor] ++ anchorPass 0 20 ++
    anchorPass 1 21 ++ [.commit 0, .commit 0]

/-- False alarms: the verifier finds an anchor whose hash does not match, in tables that only these
transactions have written. -/
theorem anchors_falseAlarm :
    (∃ w, sampleTables.machine.run { committed := ∅, shared := 0 } lateCommit = some w ∧
      w.txs.length = 0 ∧
      (verifyAnchors .rolling w.committed fun _ => w.committed).map Break.kind =
        [.hashMismatch]) ∧
    ∃ w, sampleTables.machine.run { committed := ∅, shared := 0 } overlappingPasses = some w ∧
      w.txs.length = 0 ∧
      (verifyAnchors .rolling w.committed fun _ => w.committed).map Break.kind =
        [.hashMismatch] := by
  constructor
  all_goals
    apply Machine.exists_run
    decide +kernel

end NexusAgent.Audit
