import NexusAgent.Audit.Verify

/-!
# What a clean report is evidence of

The tables of a tenant as anyone with access to their rows could have left them. Nothing is known
about the rows but what the columns and the unique constraints enforce; hashes do not collide and
signatures cannot be forged.

`Verify` compares the receipts with each other and with the trusted key. With the events it
compares no more than the sessions and sequence numbers: the event, the type and the digest that
a receipt was signed for are those in the receipt, and nothing asks whether the event row still
has them.
-/

namespace NexusAgent.Audit

/-- The unique constraints of the tables. -/
structure Db.Keyed (db : Db) : Prop where
  events : (db.events.map fun e => (e.sessionID, e.seq)).Nodup
  receipts : (db.receipts.map fun r => (r.sessionID, r.seq)).Nodup

/-- The rows fit their columns. -/
structure Db.Typed (db : Db) : Prop where
  events : ∀ e ∈ db.events, e.Typed
  receipts : ∀ r ∈ db.receipts, r.Typed

/-- The bytes that are hashed for a receipt, and those that would have been hashed for an event
in its place. -/
def hashedFor (tenantID : UUID) (db : Db) : Set Bytes :=
  { b | ∃ r ∈ db.receipts,
      b = hashedBytes r.prevHash tenantID r.sessionID r.seq r.eventID r.eventType
        r.payloadDigest ∨
      ∃ e ∈ db.events,
        b = hashedBytes r.prevHash tenantID r.sessionID r.seq e.eventID e.type e.payloadDigest }

/-- What the tables are evidence of: every event has a receipt for its type and digest, and the
receipts of every session, in the order of their sequence numbers, are one chain of hashes that
the trusted key has signed. -/
structure Evident (c : Crypto) (tenantID : UUID) (signed : Bytes → Prop) (db : Db) : Prop where
  receipted : ∀ e ∈ db.events, ∃ r ∈ db.receipts,
    (r.sessionID = e.sessionID ∧ r.seq = e.seq) ∧
      r.eventID = e.eventID ∧ r.eventType = e.type ∧ r.payloadDigest = e.payloadDigest
  chained : ∀ s, Chain c tenantID none (db.chainOf s)
  ordered : ∀ s, (db.chainOf s).Pairwise fun r r' => r.seq < r'.seq
  signed : ∀ r ∈ db.receipts, signed r.hash

/-- Every event row, put in the place of its receipt, hashes to the hash of the receipt. -/
def EventsHashed (c : Crypto) (tenantID : UUID) (db : Db) : Prop :=
  ∀ e ∈ db.events, ∀ r ∈ db.receipts, r.sessionID = e.sessionID → r.seq = e.seq →
    hashInput c r.prevHash tenantID r.sessionID r.seq e.eventID e.type e.payloadDigest = r.hash

variable {c : Crypto} {tenantID : UUID} {db : Db}

lemma Db.Keyed.pairwise_chainOf (h : db.Keyed) (s : UUID) :
    (db.chainOf s).Pairwise fun r r' => r.seq < r'.seq := by
  have hkeys : (db.receipts.map fun r => toLex (r.sessionID, r.seq)).Nodup := h.receipts
  have hlex := (pairwise_orderBy_lt hkeys).filter fun r => r.sessionID = s
  refine List.Pairwise.imp_of_mem ?_ hlex
  intro r r' hr hr' hlt
  have hr : r.sessionID = s := by simpa using (List.mem_filter.1 hr).2
  have hr' : r'.sessionID = s := by simpa using (List.mem_filter.1 hr').2
  rcases Prod.Lex.toLex_lt_toLex.1 hlt with hfst | ⟨-, hsnd⟩
  · exact absurd hfst (by simp [hr, hr'])
  · exact hsnd

lemma mem_chainOf {r : Receipt} {s : UUID} :
    r ∈ db.chainOf s ↔ r ∈ db.receipts ∧ r.sessionID = s := by
  unfold Db.chainOf Db.receiptsInOrder
  simp

lemma Chain.sealed {prev : Option Bytes} {rs : List Receipt} (h : Chain c tenantID prev rs) :
    ∀ r ∈ rs, Sealed c tenantID r := by
  induction rs generalizing prev with
  | nil => exact List.forall_mem_nil _
  | cons r rest ih =>
    intro r' hr'
    rcases List.mem_cons.1 hr' with rfl | hrest
    · exact h.2.1
    · exact ih h.2.2 r' hrest

/-- A receipt's hash is that of its own fields. -/
lemma sealed_of_clean (h : verifyReceiptChain c tenantID db = []) {r : Receipt}
    (hr : r ∈ db.receipts) : Sealed c tenantID r :=
  (verifyReceiptChain_eq_nil.1 h r.sessionID).sealed r (mem_chainOf.2 ⟨hr, rfl⟩)

/-- Of tables with a clean report: they are evidence of the events exactly if every event row
hashes to the hash of its receipt. -/
theorem evident_iff_eventsHashed (c : Crypto) (tenantID : UUID) (signed : Bytes → Prop) (db : Db)
    (hkeyed : db.Keyed) (htyped : db.Typed)
    (hcollisionFree : Set.InjOn c.sha256 (hashedFor tenantID db))
    (hunforged : ∀ r ∈ db.receipts, c.verify r.hash r.signature = true → signed r.hash)
    (hok : (verify c tenantID db).ok = true) :
    Evident c tenantID signed db ↔ EventsHashed c tenantID db := by
  obtain ⟨hgaps, hchain, -⟩ := verify_ok.1 hok
  constructor
  · intro h e he r hr hsession hseq
    -- the receipt in the place of the event is the one that was signed for it
    obtain ⟨r', hr', hplace, hid, htype, hdigest⟩ := h.receipted e he
    obtain rfl : r = r' := by
      apply List.inj_on_of_nodup_map hkeyed.receipts hr hr'
      simp [hsession, hseq, hplace]
    rw [← hid, ← htype, ← hdigest]
    exact (sealed_of_clean hchain hr).hash_eq
  · intro h
    refine ⟨?_, verifyReceiptChain_eq_nil.1 hchain, hkeyed.pairwise_chainOf, ?_⟩
    · intro e he
      obtain ⟨r, hr, hplace⟩ := verifyGaps_eq_nil.1 hgaps e he
      -- both the receipt and the event hash to the stored hash, so they have the same fields
      have hhash := (h e he r hr hplace.1 hplace.2).trans (sealed_of_clean hchain hr).hash_eq.symm
      have hbytes := hcollisionFree ⟨r, hr, .inr ⟨e, he, rfl⟩⟩ ⟨r, hr, .inl rfl⟩ hhash
      obtain ⟨-, -, -, -, hid, htype, hdigest⟩ := hashed_inj
        (r := { r with
          eventID := e.eventID, eventType := e.type, payloadDigest := e.payloadDigest })
        (htyped.events e he) (htyped.receipts r hr) rfl hbytes
      exact ⟨r, hr, hplace, hid.symm, htype.symm, hdigest.symm⟩
    · exact fun r hr => hunforged r hr (sealed_of_clean hchain hr).verifies

def oneEvent : Db :=
  let e : EventRow := { eventID := 11, sessionID := 7, seq := 1, type := "tool_result"
                        payloadDigest := [1, 2], keyID := "k" }
  { events := [e], receipts := [receiptFor .rolling 3 none e 1] }

theorem oneEvent_evident :
    Evident .rolling 3 (· ∈ oneEvent.receipts.map Receipt.hash) oneEvent := by
  have hkeyed : oneEvent.Keyed := ⟨by decide +kernel, by decide +kernel⟩
  have htyped : oneEvent.Typed :=
    ⟨by unfold EventRow.Typed; decide +kernel, by unfold Receipt.Typed; decide +kernel⟩
  have hcollisionFree : Set.InjOn Crypto.rolling.sha256 (hashedFor 3 oneEvent) := by
    -- the event is hashed as its receipt was
    have hone : ∀ b ∈ hashedFor 3 oneEvent, b = hashedBytes none 3 7 1 11 "tool_result" [1, 2] := by
      rintro b ⟨r, hr, hb⟩
      obtain rfl := List.mem_singleton.1 hr
      rcases hb with rfl | ⟨e, he, rfl⟩
      · rfl
      · obtain rfl := List.mem_singleton.1 he
        rfl
    intro b hb b' hb' _
    rw [hone b hb, hone b' hb']
  refine (evident_iff_eventsHashed .rolling 3 _ oneEvent hkeyed htyped hcollisionFree
    (fun r hr _ => List.mem_map_of_mem hr) (by decide +kernel)).2 ?_
  unfold EventsHashed
  decide +kernel

/-- The tables of `oneEvent` after the type of the event was altered. -/
def alteredEvent : Db :=
  { oneEvent with events := oneEvent.events.map fun e => { e with type := "tool_use" } }

/-- No receipt was signed for the type that the event row has, and the report is clean. -/
theorem alteredEvent_passes :
    (alteredEvent.Keyed ∧ alteredEvent.Typed) ∧ (verify .rolling 3 alteredEvent).ok = true ∧
      ∃ e ∈ alteredEvent.events, ∀ r ∈ alteredEvent.receipts, r.eventType ≠ e.type := by
  refine ⟨⟨⟨by decide +kernel, by decide +kernel⟩, ?_, ?_⟩, by decide +kernel, by decide +kernel⟩
  · unfold EventRow.Typed
    decide +kernel
  · unfold Receipt.Typed
    decide +kernel

end NexusAgent.Audit
