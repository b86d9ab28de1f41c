import NexusAgent.Audit.Writers

/-!
# The receipt chain is complete

Events are numbered and receipted by three statements of a transaction that holds the advisory
lock of the session: the insert of the event, which reads the last number, the read of the last
receipt's hash, and the insert of the receipt. Whatever transactions run, in whatever order their
statements are taken and wherever they fail, what is committed for a session is a `Ledger`: its
events numbered from one on, and for each of them one receipt that follows on the receipt before.

- `receipting`: the protocol that the programs keep to. A transaction inserts events of sessions
  that it has locked only, and the receipt of an event before anything else is inserted.
-/

namespace NexusAgent.Audit

/-! ### Ledgers -/

/-- The hash that the next receipt follows on. -/
def headOf (rs : List Receipt) : Option Bytes := rs.getLast?.map Receipt.hash

/-- Events in the order of their numbers, and the chain of their receipts. -/
inductive Ledger (c : Crypto) (tenantID : UUID) : List EventRow → List Receipt → Prop
  | nil : Ledger c tenantID [] []
  | snoc {es : List EventRow} {rs : List Receipt} {e : EventRow} (receiptSeq : ℤ) :
      Ledger c tenantID es rs → e.seq = es.length + 1 →
      Ledger c tenantID (es ++ [e]) (rs ++ [receiptFor c tenantID (headOf rs) e receiptSeq])

/-- What an event is, as far as its receipt says. -/
def EventRow.facts (e : EventRow) : UUID × ℤ × UUID × String × Bytes :=
  (e.sessionID, e.seq, e.eventID, e.type, e.payloadDigest)

def Receipt.facts (r : Receipt) : UUID × ℤ × UUID × String × Bytes :=
  (r.sessionID, r.seq, r.eventID, r.eventType, r.payloadDigest)

section

variable {c : Crypto} {tenantID : UUID} {es : List EventRow} {rs : List Receipt}

/-- A chain goes on with a receipt that follows on its last. -/
lemma Chain.snoc {prev : Option Bytes} {r : Receipt} (h : Chain c tenantID prev rs)
    (hprev : r.prevHash = (headOf rs).or prev) (hsealed : Sealed c tenantID r) :
    Chain c tenantID prev (rs ++ [r]) := by
  induction rs generalizing prev with
  | nil => exact ⟨by simpa [headOf] using congrArg (Option.getD · []) hprev, hsealed, trivial⟩
  | cons r' rest ih =>
    refine ⟨h.1, h.2.1, ih h.2.2 ?_⟩
    rw [hprev]
    cases rest with
    | nil => rfl
    | cons r'' rest =>
      obtain ⟨last, hlast⟩ : ∃ last, (r'' :: rest).getLast? = some last :=
        ⟨_, List.getLast?_eq_some_getLast (List.cons_ne_nil _ _)⟩
      simp only [headOf, List.getLast?_cons_cons, hlast, Option.map_some, Option.some_or]

namespace Ledger

section

variable (h : Ledger c tenantID es rs)
include h

lemma map_seq : es.map EventRow.seq = (List.range es.length).map fun i : ℕ => (i : ℤ) + 1 := by
  induction h with
  | nil => rfl
  | snoc _ _ hseq ih => simp [ih, hseq, List.range_succ]

lemma map_facts : rs.map Receipt.facts = es.map EventRow.facts := by
  induction h with
  | nil => rfl
  | snoc _ _ _ ih =>
    rw [List.map_append, List.map_append, ih]
    rfl

lemma chain : Chain c tenantID none rs := by
  induction h with
  | nil => trivial
  | snoc _ _ _ ih => exact ih.snoc (by simp [receiptFor]) ⟨rfl, rfl, c.verify_sign _⟩

lemma pairwise_seq : es.Pairwise fun e e' => e.seq < e'.seq := by
  rw [← List.pairwise_map (R := (· < ·)), h.map_seq, List.pairwise_map]
  refine List.pairwise_lt_range.imp fun hlt => ?_
  omega

lemma pairwise_receipts : rs.Pairwise fun r r' => r.seq < r'.seq := by
  have hseqs : rs.map Receipt.seq = es.map EventRow.seq := by
    simpa [Receipt.facts, EventRow.facts, Function.comp_def] using
      congrArg (List.map fun f => f.2.1) h.map_facts
  rw [← List.pairwise_map (R := (· < ·)), hseqs, List.pairwise_map]
  exact h.pairwise_seq

lemma next_seq : ((lastBy EventRow.seq es).map EventRow.seq).getD 0 + 1 = es.length + 1 := by
  rw [lastBy_eq_getLast? (h.pairwise_seq.imp le_of_lt)]
  cases h with
  | nil => rfl
  | snoc _ _ hseq => simp [hseq]

lemma head_hash : (lastBy Receipt.seq rs).map Receipt.hash = headOf rs := by
  rw [lastBy_eq_getLast? (h.pairwise_receipts.imp le_of_lt), headOf]

end

end Ledger

end

/-! ### The protocol of the programs -/

/-- Where a transaction stands. -/
structure Stage where
  /-- The sessions whose lock it has taken. -/
  locked : List UUID := []
  /-- The event that it has inserted and not yet receipted. -/
  owed : Option EventRow := none
  /-- The head that it has read since, and of which session. -/
  head : Option (UUID × Option Bytes) := none

/-- What the programs keep to. -/
def receipting (c : Crypto) (tenantID : UUID) : Protocol Stage Request Request.Answer where
  admits q
    | .insertEvent d => d.sessionID ∈ q.locked ∧ q.owed = none
    | .insertReceipt r => ∃ e prev, q.owed = some e ∧ q.head = some (e.sessionID, prev) ∧
        r = receiptFor c tenantID prev e 0
    | _ => True
  step q o answer q' :=
    match o, answer with
    | .advisoryLock sessionID, _ => q' = { q with locked := sessionID :: q.locked }
    | .insertEvent d, seq => q' = { q with owed := some (d.row seq), head := none }
    | .headHash sessionID, hash => q' = { q with head := some (sessionID, hash) }
    | .sign digest, signed =>
      q' = q ∧ ((signed : Option (Bytes × String)) = none ∨ signed = some (c.sign digest, c.keyID))
    | .insertReceipt _, _ => q' = { q with owed := none }
    | _, _ => q' = q

section

variable {c : Crypto} {tenantID : UUID} {q : Stage}

open Routine

lemma wp_sign {R : Bytes × String → Unit → Stage → Prop} {digest : Bytes}
    (h : R (c.sign digest, c.keyID) () q) :
    wp (receipting c tenantID) (sign digest) R (fun _ => True) () q := by
  refine wp_ask trivial ?_
  rintro signed _ ⟨rfl, rfl | rfl⟩
  · trivial
  · exact h

lemma keeps_appendSealed (d : EventDraft) :
    Keeps (receipting c tenantID) (fun _ q => q.owed = none) (appendSealed c tenantID d) := by
  intro _ q hq
  refine wp_bind.2 (wp_ask trivial ?_)
  rintro _ _ rfl
  refine wp_ask ⟨List.mem_cons_self, hq⟩ ?_
  rintro seq _ rfl
  refine wp_bind.2 (wp_ask trivial ?_)
  rintro prevHash _ rfl
  refine wp_bind.2 (wp_sign (wp_ask ⟨_, _, rfl, rfl, rfl⟩ ?_))
  rintro receiptSeq _ rfl
  exact rfl

/-- The anchor pass inserts neither events nor receipts. -/
lemma keeps_anchor : Keeps (receipting c tenantID) (fun _ q => q.owed = none) (anchor c) := by
  intro _ q hq
  refine wp_ask trivial ?_
  rintro (last : Option (ℤ × Bytes)) _ rfl
  refine wp_ask trivial ?_
  rintro (maxSeq : ℤ) _ rfl
  by_cases hnew : maxSeq ≤ (last.map Prod.fst).getD 0
  · rw [if_pos hnew]
    exact hq
  · rw [if_neg hnew]
    refine wp_ask trivial ?_
    rintro hashes _ rfl
    refine wp_bind.2 (wp_sign (wp_ask trivial ?_))
    rintro anchorID _ rfl
    refine wp_request.2 ⟨trivial, ?_⟩
    rintro _ _ rfl
    exact hq

lemma keeps_program (job : Job) :
    Keeps (receipting c tenantID) (fun _ q => q.owed = none) (job.program c tenantID) := by
  apply Job.keeps
  · intro o ho q hq
    cases o with
    | activeKeyID | unwrap | newUUID | shredTenant | shred | keysOfSession | sessionsForKeys
    | erasureDigest =>
      refine ⟨trivial, ?_⟩
      rintro _ _ rfl
      exact hq
    | _ => exact ho.elim
  · exact keeps_appendSealed
  · exact fun _ => keeps_anchor

end

/-! ### What a transaction holds -/

@[simp]
lemma Db.eventsOf_append (d d' : Db) (s : UUID) :
    (d ++ d').eventsOf s = d.eventsOf s ++ d'.eventsOf s :=
  List.filter_append ..

@[simp]
lemma Db.eventsOf_empty (s : UUID) : (∅ : Db).eventsOf s = [] := rfl

@[simp]
lemma Db.receiptsOf_append (d d' : Db) (s : UUID) :
    (d ++ d').receiptsOf s = d.receiptsOf s ++ d'.receiptsOf s :=
  List.filter_append ..

def lockOf (hashtext : String → ℤ) (sessionID : UUID) : LockKey :=
  .advisory (hashtext sessionID.string)

def Stage.owedBy (q : Stage) (s : UUID) : List EventRow :=
  q.owed.toList.filter fun e => e.sessionID = s

/-- The rows of a session as a transaction at this stage sees them, if it has the lock: a ledger,
and the event that it still owes. -/
def Accounted (c : Crypto) (tenantID : UUID) (q : Stage) (s : UUID) (es : List EventRow)
    (rs : List Receipt) : Prop :=
  ∃ paid, es = paid ++ q.owedBy s ∧ Ledger c tenantID paid rs ∧
    ∀ e ∈ q.owedBy s, e.seq = paid.length + 1 ∧
      ∀ hash, q.head = some (s, hash) → hash = headOf rs

/-- The writes and the locks of a transaction at a stage, where `d` is committed. -/
structure Held (c : Crypto) (tenantID : UUID) (hashtext : String → ℤ) (d : Db) (q : Stage)
    (written : Db) (locks : List LockKey) : Prop where
  locked : ∀ s ∈ q.locked, lockOf hashtext s ∈ locks
  owed_locked : ∀ e, q.owed = some e → e.sessionID ∈ q.locked
  outside : ∀ s, lockOf hashtext s ∉ locks → written.eventsOf s = [] ∧ written.receiptsOf s = []
  inside : ∀ s, lockOf hashtext s ∈ locks →
    Accounted c tenantID q s ((d ++ written).eventsOf s) ((d ++ written).receiptsOf s)

section

variable {c : Crypto} {tenantID : UUID} {hashtext : String → ℤ} {d : Db} {q : Stage}
  {written : Db} {locks : List LockKey} {s : UUID}

@[simp]
lemma Db.receiptsOf_empty (s : UUID) : (∅ : Db).receiptsOf s = [] := rfl

lemma accounted_none {es : List EventRow} {rs : List Receipt} (hq : q.owedBy s = []) :
    Accounted c tenantID q s es rs ↔ Ledger c tenantID es rs := by
  unfold Accounted
  rw [hq]
  simp

lemma owedBy_of_none (hq : q.owed = none) : q.owedBy s = [] := by
  rw [Stage.owedBy, hq]
  rfl

lemma owedBy_of_some {e : EventRow} (hq : q.owed = some e) :
    q.owedBy s = if e.sessionID = s then [e] else [] := by
  rw [Stage.owedBy, hq]
  simp [List.filter_singleton]

namespace Held

section

variable (h : Held c tenantID hashtext d q written locks)
include h

lemma owedBy_outside (hs : lockOf hashtext s ∉ locks) : q.owedBy s = [] := by
  cases howed : q.owed with
  | none => exact owedBy_of_none howed
  | some e =>
    rw [owedBy_of_some howed, if_neg]
    rintro rfl
    exact hs (h.locked _ (h.owed_locked e howed))

lemma quiet {writes : Db} {more : List LockKey} {head : Option (UUID × Option Bytes)}
    (hevents : writes.events = []) (hreceipts : writes.receipts = [])
    (hmore : ∀ key, .advisory key ∉ more)
    (hhead : ∀ s, lockOf hashtext s ∈ locks → q.owedBy s ≠ [] → ∀ hash, head = some (s, hash) → hash
      = headOf ((d ++ written).receiptsOf s)) :
    Held c tenantID hashtext d { q with head } (written ++ writes) (locks ++ more) := by
  have hnone (s : UUID) : writes.eventsOf s = [] ∧ writes.receiptsOf s = [] := by
    simp [Db.eventsOf, Db.receiptsOf, hevents, hreceipts]
  have hold {s : UUID} (hs : lockOf hashtext s ∈ locks ++ more) : lockOf hashtext s ∈ locks :=
    (List.mem_append.1 hs).resolve_right (hmore _)
  refine ⟨fun s hs => List.mem_append_left _ (h.locked s hs), h.owed_locked, ?_, ?_⟩
  · intro s hs
    simp only [Db.eventsOf_append, Db.receiptsOf_append, hnone s, List.append_nil]
    exact h.outside s fun hin => hs (List.mem_append_left _ hin)
  · intro s hs
    simp only [Db.eventsOf_append, Db.receiptsOf_append, hnone s, List.append_nil]
    obtain ⟨paid, hes, hledger, howed⟩ := h.inside s (hold hs)
    simp only [Db.eventsOf_append, Db.receiptsOf_append] at hes hledger
    refine ⟨paid, hes, hledger, fun e he => ⟨(howed e he).1, fun hash hh => ?_⟩⟩
    simpa using hhead s (hold hs) (List.ne_nil_of_mem he) hash hh

lemma advisoryLock (hcommitted : ∀ s, Ledger c tenantID (d.eventsOf s) (d.receiptsOf s))
    (sessionID : UUID) :
    Held c tenantID hashtext d { q with locked := sessionID :: q.locked } (written ++ ∅)
      (locks ++ [lockOf hashtext sessionID]) := by
  refine ⟨?_, fun e he => List.mem_cons_of_mem _ (h.owed_locked e he), ?_, ?_⟩
  · intro s hs
    rcases List.mem_cons.1 hs with rfl | hs
    · exact List.mem_append_right _ (List.mem_singleton_self _)
    · exact List.mem_append_left _ (h.locked s hs)
  · intro s hs
    simpa using h.outside s fun hin => hs (List.mem_append_left _ hin)
  · intro s hs
    by_cases hin : lockOf hashtext s ∈ locks
    · have hinside : Accounted c tenantID { q with locked := sessionID :: q.locked } s _ _ :=
        h.inside s hin
      simpa using hinside
    · -- a session whose lock is new has no rows of this transaction
      refine (accounted_none (h.owedBy_outside hin)).2 ?_
      simpa [h.outside s hin] using hcommitted s

lemma insertEvent {draft : EventDraft} (hlocked : draft.sessionID ∈ q.locked) (hq : q.owed = none)
    {seq : ℤ}
    (hseq : seq = ((lastBy EventRow.seq ((d ++ written).eventsOf draft.sessionID)).map
      EventRow.seq).getD 0 + 1) :
    Held c tenantID hashtext d { q with owed := some (draft.row seq), head := none }
      (written ++ { events := [draft.row seq] }) (locks ++ []) := by
  have hrow (s : UUID) : ({ events := [draft.row seq] } : Db).eventsOf s =
      if draft.sessionID = s then [draft.row seq] else [] := by
    simp [Db.eventsOf, EventDraft.row, List.filter_singleton]
  have hnone (s : UUID) : ({ events := [draft.row seq] } : Db).receiptsOf s = [] := rfl
  rw [List.append_nil]
  refine ⟨h.locked, ?_, ?_, ?_⟩
  · rintro e ⟨⟩
    exact hlocked
  · intro s hs
    have hne : draft.sessionID ≠ s := by
      rintro rfl
      exact hs (h.locked _ hlocked)
    simpa [hrow, hnone, hne] using h.outside s hs
  · intro s hs
    have hledger := (accounted_none (owedBy_of_none hq)).1 (h.inside s hs)
    have howed : ({ q with owed := some (draft.row seq), head := none } : Stage).owedBy s =
        if draft.sessionID = s then [draft.row seq] else [] :=
      owedBy_of_some (e := draft.row seq) rfl
    refine ⟨(d ++ written).eventsOf s, ?_, ?_, ?_⟩
    · simp [hrow, howed]
    · simpa [hnone] using hledger
    · intro e he
      rw [howed] at he
      split at he
      · next heq =>
        obtain rfl := List.mem_singleton.1 he
        subst heq
        exact ⟨hseq.trans hledger.next_seq, (fun _ hhash => nomatch hhash)⟩
      · exact absurd he List.not_mem_nil

lemma insertReceipt {e : EventRow} {prev : Option Bytes} (hq : q.owed = some e)
    (hhead : q.head = some (e.sessionID, prev)) (receiptSeq : ℤ) :
    Held c tenantID hashtext d { q with owed := none }
      (written ++ { receipts := [receiptFor c tenantID prev e receiptSeq] }) (locks ++ []) := by
  have hrow (s : UUID) : ({ receipts := [receiptFor c tenantID prev e receiptSeq] } : Db).receiptsOf
      s = if e.sessionID = s then [receiptFor c tenantID prev e receiptSeq] else [] := by
    simp [Db.receiptsOf, ofSession, receiptFor, List.filter_singleton]
  have hnone (s : UUID) :
      ({ receipts := [receiptFor c tenantID prev e receiptSeq] } : Db).eventsOf s = [] := rfl
  rw [List.append_nil]
  refine ⟨h.locked, (fun _ he => nomatch he), ?_, ?_⟩
  · intro s hs
    have hne : e.sessionID ≠ s := by
      rintro rfl
      exact hs (h.locked _ (h.owed_locked e hq))
    simpa [hrow, hnone, hne] using h.outside s hs
  · intro s hs
    rw [accounted_none (owedBy_of_none rfl)]
    obtain ⟨paid, hes, hledger, howed⟩ := h.inside s hs
    rw [owedBy_of_some hq] at hes howed
    by_cases heq : e.sessionID = s
    · subst heq
      rw [if_pos rfl] at hes howed
      obtain ⟨hseq, hlast⟩ := howed e (List.mem_singleton_self e)
      have hsnoc := Ledger.snoc receiptSeq hledger hseq
      rw [← hes, ← hlast prev hhead] at hsnoc
      simpa [hrow, hnone] using hsnoc
    · rw [if_neg heq, List.append_nil] at hes
      rw [← hes] at hledger
      simpa [hrow, hnone, heq] using hledger

/-- A transaction that owes nothing leaves ledgers. -/
lemma ledger (hcommitted : ∀ s, Ledger c tenantID (d.eventsOf s) (d.receiptsOf s))
    (hq : q.owed = none) (s : UUID) :
    Ledger c tenantID ((d ++ written).eventsOf s) ((d ++ written).receiptsOf s) := by
  by_cases hs : lockOf hashtext s ∈ locks
  · exact (accounted_none (owedBy_of_none hq)).1 (h.inside s hs)
  · simpa [h.outside s hs] using hcommitted s

/-- A commit of rows of sessions that this transaction has not locked. -/
lemma frame {writes : Db}
    (hapart : ∀ s, lockOf hashtext s ∈ locks → writes.eventsOf s = [] ∧ writes.receiptsOf s = []) :
    Held c tenantID hashtext (d ++ writes) q written locks := by
  refine ⟨h.locked, h.owed_locked, h.outside, fun s hs => ?_⟩
  simpa [hapart s hs] using h.inside s hs

end

end Held

/-- Some stage that the transaction can be at. -/
def Accountable (c : Crypto) (tenantID : UUID) (hashtext : String → ℤ) (d : Db)
    (tx : Tx Job Db LockKey Request Request.Answer) : Prop :=
  ∃ q, Held c tenantID hashtext d q tx.written tx.locks ∧
    tx.live.Follows (receipting c tenantID) q fun r q' => ∀ x, r = some x → q'.owed = none

lemma accountable_begun (d : Db) (job : Job) :
    Accountable c tenantID hashtext d ((tables c tenantID hashtext).begun job) := by
  refine ⟨{}, ⟨?_, ?_, ?_, ?_⟩, ?_⟩
  · exact List.forall_mem_nil _
  · exact fun e he => nomatch he
  · exact fun s _ => ⟨rfl, rfl⟩
  · exact fun s hs => absurd hs List.not_mem_nil
  · refine Process.Follows.mono (keeps_program job () {} rfl) fun r q' hr x hx => ?_
    subst hx
    exact hr

section

variable {tx : Tx Job Db LockKey Request Request.Answer} {o : Request} {n : ℤ} {t : Pick}
  {eff : TxEffect Db LockKey ℤ o.Answer}

/-- A request that the stage does not record, or only as the head that was read. -/
lemma Held.reads (h : Held c tenantID hashtext d q written locks)
    (hunobserved : Unobserved n eff) {head : Option (UUID × Option Bytes)}
    (hhead : ∀ s, lockOf hashtext s ∈ locks → q.owedBy s ≠ [] → ∀ hash, head = some (s, hash) →
      hash = headOf ((d ++ written).receiptsOf s)) :
    Held c tenantID hashtext d { q with head } (written ++ eff.writes) (locks ++ eff.locks) :=
  h.quiet hunobserved.events hunobserved.receipts hunobserved.locks hhead

lemma Held.head_eq (h : Held c tenantID hashtext d q written locks) :
    ∀ s, lockOf hashtext s ∈ locks → q.owedBy s ≠ [] → ∀ hash, q.head = some (s, hash) →
      hash = headOf ((d ++ written).receiptsOf s) := by
  intro s hs howes hash hhead
  obtain ⟨paid, -, -, howed⟩ := h.inside s hs
  obtain ⟨e, he⟩ := List.exists_mem_of_ne_nil _ howes
  exact (howed e he).2 hash hhead

/-- Each request leads to a stage of the transaction. -/
lemma accountable_exec {k : o.Answer → Process Request Request.Answer (Option (Unit × Unit))}
    (hcommitted : ∀ s, Ledger c tenantID (d.eventsOf s) (d.receiptsOf s))
    (h : Accountable c tenantID hashtext d tx) (hlive : tx.live = .ask o k)
    (heff : exec c hashtext (d ++ tx.written) n o t = some eff) :
    Accountable c tenantID hashtext d (tx.after k eff) := by
  obtain ⟨q, hheld, hfollows⟩ := h
  rw [hlive] at hfollows
  obtain ⟨hadmits, hnext⟩ := hfollows
  cases o with
  | advisoryLock sessionID =>
    obtain rfl := exec_plain heff trivial rfl
    exact ⟨_, hheld.advisoryLock hcommitted sessionID, hnext _ _ rfl⟩
  | insertEvent draft =>
    obtain rfl := exec_plain heff trivial rfl
    exact ⟨_, hheld.insertEvent hadmits.1 hadmits.2 rfl, hnext _ _ rfl⟩
  | headHash sessionID =>
    refine ⟨_, hheld.reads (exec_reads heff trivial) ?_, hnext _ _ rfl⟩
    rintro _ hs - _ ⟨⟩
    -- the rows of the session are a ledger but for the event that is owed
    obtain ⟨paid, -, hledger, -⟩ := hheld.inside _ hs
    obtain rfl := exec_plain heff trivial rfl
    exact hledger.head_hash
  | sign digest =>
    exact ⟨_, hheld.reads (exec_reads heff trivial) hheld.head_eq, hnext _ _ ⟨rfl, exec_sign heff⟩⟩
  | insertReceipt r =>
    obtain ⟨e, prev, howed, hhead, rfl⟩ := hadmits
    obtain ⟨receiptSeq, -, rfl⟩ := exec_insertReceipt heff
    exact ⟨_, hheld.insertReceipt howed hhead receiptSeq, hnext _ _ rfl⟩
  | insertAnchor a =>
    obtain rfl := exec_plain heff trivial rfl
    exact ⟨q, hheld.quiet rfl rfl (fun _ => List.not_mem_nil) hheld.head_eq, hnext _ _ rfl⟩
  | _ => exact ⟨q, hheld.reads (exec_reads heff trivial) hheld.head_eq, hnext _ _ rfl⟩

end

/-- What is committed are ledgers, and every transaction is accountable for what it has locked. -/
def ledgers (c : Crypto) (tenantID : UUID) (hashtext : String → ℤ) :
    Isolation (tables c tenantID hashtext) where
  Committed d := ∀ s, Ledger c tenantID (d.eventsOf s) (d.receiptsOf s)
  Own := Accountable c tenantID hashtext
  begun := accountable_begun
  exec := accountable_exec
  commit := by
    rintro d tx r hcommitted ⟨q, hheld, hfollows⟩ hlive
    rw [hlive] at hfollows
    exact hheld.ledger hcommitted (hfollows r rfl)
  frame := by
    rintro d tx tx' r - ⟨q, hheld, hfollows⟩ ⟨q', hheld', -⟩ hapart -
    exact ⟨q, hheld.frame fun s hs => hheld'.outside s (hapart hs), hfollows⟩

end

/-! ### What the verifier finds -/

section

variable {c : Crypto} {tenantID : UUID} {db : Db}

lemma verifyGaps_of_ledgers (h : ∀ s, Ledger c tenantID (db.eventsOf s) (db.receiptsOf s)) :
    verifyGaps db = [] := by
  refine verifyGaps_eq_nil.2 fun e he => ?_
  have hfacts : e.facts ∈ (db.receiptsOf e.sessionID).map Receipt.facts := by
    rw [(h e.sessionID).map_facts]
    exact List.mem_map_of_mem (List.mem_filter.2 ⟨he, by simp⟩)
  obtain ⟨r, hr, hr'⟩ := List.mem_map.1 hfacts
  exact ⟨r, List.mem_of_mem_filter hr, congrArg Prod.fst hr', congrArg (fun f => f.2.1) hr'⟩

lemma verifyReceiptChain_of_ledgers (h : ∀ s, Ledger c tenantID (db.eventsOf s) (db.receiptsOf s)) :
    verifyReceiptChain c tenantID db = [] := by
  refine verifyReceiptChain_eq_nil.2 fun s => ?_
  have hchain : db.chainOf s = db.receiptsOf s := by
    apply filter_orderBy
    refine List.Pairwise.imp_of_mem ?_ (h s).pairwise_receipts
    intro r r' hr hr' hlt
    have hr : r.sessionID = s := by simpa using (List.mem_filter.1 hr).2
    have hr' : r'.sessionID = s := by simpa using (List.mem_filter.1 hr').2
    exact Prod.Lex.toLex_lt_toLex.2 (.inr ⟨hr.trans hr'.symm, hlt⟩)
  rw [hchain]
  exact (h s).chain

end

/-- However the transactions interleave and wherever they fail, the events of a session are
numbered 1, 2, ..., n, its receipts are those of its events, one by one and in their order, and
the verifier finds no gap and no break, whichever keys are shredded. -/
theorem receiptChain_complete (c : Crypto) (tenantID : UUID) (hashtext : String → ℤ)
    (lastReceiptSeq : ℤ) (w : Tables)
    (hw : (tables c tenantID hashtext).machine.Reaches
      { committed := ∅, shared := lastReceiptSeq } w) :
    (∀ s, (w.committed.eventsOf s).map EventRow.seq =
        (List.range (w.committed.eventsOf s).length).map fun i : ℕ => (i : ℤ) + 1) ∧
      (∀ s, (w.committed.receiptsOf s).map Receipt.facts =
        (w.committed.eventsOf s).map EventRow.facts) ∧
      verifyGaps w.committed = [] ∧ verifyReceiptChain c tenantID w.committed = [] := by
  have hinit : (ledgers c tenantID hashtext).Holds
      { committed := ∅, shared := lastReceiptSeq } :=
    ⟨fun _ => .nil, List.forall_mem_nil _, .nil⟩
  have hledgers := ((ledgers c tenantID hashtext).holds hw hinit).committed
  exact ⟨fun s => (hledgers s).map_seq, fun s => (hledgers s).map_facts,
    verifyGaps_of_ledgers hledgers, verifyReceiptChain_of_ledgers hledgers⟩

/-- A unit of work appends the first event of a session. The kernel's log waits for the lock and
appends the second, and then the session is erased. -/
def erasedRun : List (TxAction Job Pick) :=
  [.start (.unit (.ask (.appendFirst 1 .userMessage [1] "k") fun _ => .done true)),
   .exec 0 (.uuid 10), .exec 0 .none, .exec 0 .none,
   .start (.log { eventID := 11, sessionID := 1, type := "content", payloadDigest := [2]
                  keyID := "k" }),
   .exec 0 .none, .exec 0 .none, .exec 0 (.drawn 5), .commit 0,
   .exec 0 .none, .exec 0 .none, .exec 0 .none, .exec 0 .none, .exec 0 (.drawn 7), .commit 0,
   .start (.eraseSession 1 "request of the user"),
   .exec 0 (.keys ["k"]), .exec 0 (.found true), .exec 0 (.digest [9]), .exec 0 (.uuid 12),
   .exec 0 .none, .exec 0 .none, .exec 0 .none, .exec 0 .none, .exec 0 (.drawn 8), .commit 0]

/-- The chain of an erased session. -/
theorem erasedRun_complete :
    ∃ w, (tables .rolling 3 fun _ => 0).machine.Reaches { committed := ∅, shared := 0 } w ∧
      w.committed.shredded = ["k"] ∧
      (w.committed.eventsOf 1).map EventRow.seq = [1, 2, 3] ∧
      (w.committed.receiptsOf 1).map Receipt.eventID = [10, 11, 12] ∧
      verifyGaps w.committed = [] ∧ verifyReceiptChain .rolling 3 w.committed = [] := by
  refine Machine.Reaches.exists_of_run_imp erasedRun (fun w => w.committed.shredded = ["k"] ∧
    (w.committed.eventsOf 1).map EventRow.seq = [1, 2, 3] ∧
    (w.committed.receiptsOf 1).map Receipt.eventID = [10, 11, 12]) ?_
    fun w hw ⟨hshredded, hseqs, hids⟩ => ?_
  · decide +kernel
  obtain ⟨-, -, hgaps, hchain⟩ := receiptChain_complete .rolling 3 (fun _ => 0) 0 w hw
  exact ⟨hshredded, hseqs, hids, hgaps, hchain⟩

end NexusAgent.Audit
