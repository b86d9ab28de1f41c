import NexusAgent.Kernel.Rules
import NexusAgent.Kernel.Wire

/-!
# Turns are written one after the other

The events of a model's turn stand together in the log: its reasoning, its text and its tool uses,
then the results of those. `batch` reads from a log which tool uses wait for a result. `turnwise` is
the protocol of a kernel call in these terms, with the log as the call knows it for a state and with
pruning and condensation off: a new turn is begun when nothing waits, a tool use is added before the
first result of its turn, a result is one that is waited for, and the model is shown the wire of the
log. How much more is asked of a call depends on its `Mode`.
-/

namespace NexusAgent.Kernel

open EventLog Provider Routine Exchange

/-! ### What waits for a result -/

/-- The tool uses that have no result, and whether a result of their turn is there already. -/
structure Batch where
  owed : List UUID := []
  closing : Bool := false

def Batch.event (b : Batch) (e : Event Payload) : Batch :=
  match e.type with
  | .toolUse => { b with owed := b.owed ++ [e.eventID] }
  | .toolResult =>
    let owed := b.owed.filter fun ref => e.pairRef ≠ some ref
    { owed, closing := !owed.isEmpty }
  | _ => b

def batch (log : List (Event Payload)) : Batch := log.foldl Batch.event {}

def replayed (k : Kernel) (log : List (Event Payload)) : Replay := log.foldl (Replay.event k) {}

variable {k : Kernel} {e : Event Payload} {history q : List (Event Payload)} {ref : UUID}

lemma batch_snoc (q : List (Event Payload)) (e : Event Payload) :
    batch (q ++ [e]) = (batch q).event e := by
  simp [batch]

lemma replayed_snoc (k : Kernel) (q : List (Event Payload)) (e : Event Payload) :
    replayed k (q ++ [e]) = (replayed k q).event k e := by
  simp [replayed]

lemma batch_of_bookkeeping (he : Bookkeeping e.type) (b : Batch) : b.event e = b := by
  unfold Batch.event
  split <;> simp_all [Bookkeeping]

lemma replay_of_bookkeeping (he : Bookkeeping e.type) (r : Replay) : r.event k e = r := by
  unfold Replay.event
  split <;> simp_all [Bookkeeping]

/-- Once nothing waits, no turn is being closed. -/
lemma batch_of_owed_nil (h : (batch q).owed = []) : batch q = {} := by
  have hclosing : (batch q).owed = [] → (batch q).closing = false := by
    induction q using List.reverseRecOn with
    | nil => exact fun _ => rfl
    | append_singleton q e ih =>
      rw [batch_snoc]
      unfold Batch.event
      split <;> simp_all
  generalize batch q = b at *
  obtain ⟨owed, closing⟩ := b
  simp_all

/-! ### What hygiene finds -/

def usesOf (history : List (Event Payload)) : List UUID := (toolUses history).map Event.eventID

/-- A result of a known tool use is kept, unless the tool use has been answered before. -/
lemma keepPaired_answered {known : UUID → Bool} (hknown : known ref = true)
    (seen : List UUID) (es : List (Event Payload)) (hans : ref ∈ answers es) :
    ref ∈ seen ∨ ref ∈ answers (keepPaired known seen es).1 := by
  fun_induction keepPaired known seen es <;> grind [answers, answer]

lemma mem_answers_hygiene (href : ref ∈ usesOf history) :
    ref ∈ answers (hygiene history).1 ↔ ref ∈ answers history := by
  constructor
  · exact fun h => ((hygiene_sublist history).filterMap answer).subset h
  · intro hans
    have hknown := (toolUseOf_isSome history ref).2 href
    exact (keepPaired_answered hknown [] history hans).resolve_left List.not_mem_nil

/-- The history of a call and the log as the call knows it agree on what waits for a result. -/
structure Level (history q : List (Event Payload)) : Prop where
  known : ∀ ref, ref ∈ usesOf history ∨ ref ∈ answers history → ref ∈ q.map Event.eventID
  owed : ∀ ref, ref ∈ (batch q).owed ↔ ref ∈ usesOf history ∧ ref ∉ answers history
  nodup : (batch q).owed.Nodup
  referenced : Referenced q

lemma level_nil : Level [] [] :=
  ⟨by simp [usesOf, toolUses], by simp [batch, usesOf, toolUses], List.nodup_nil,
    List.forall_mem_nil _⟩

namespace Level

variable (h : Level history q)
include h

lemma known_of_owed (href : ref ∈ (batch q).owed) : ref ∈ q.map Event.eventID :=
  h.known ref (.inl ((h.owed ref).1 href).1)

lemma snoc (hnew : e.eventID ∉ q.map Event.eventID)
    (hpair : e.type = .toolResult → ∃ ref ∈ q.map Event.eventID, e.pairRef = some ref) :
    Level (history ++ [e]) (q ++ [e]) := by
  have huses : usesOf (history ++ [e]) =
      usesOf history ++ if e.type = .toolUse then [e.eventID] else [] := by
    by_cases huse : e.type = .toolUse <;> simp [usesOf, toolUses, huse]
  have hanswers : answers (history ++ [e]) = answers history ++ (answer e).toList := by
    cases he : answer e <;> simp [answers, he]
  have hids : (q ++ [e]).map Event.eventID = q.map Event.eventID ++ [e.eventID] := by simp
  have hopen (ref : UUID) (href : ref ∈ (batch q).owed) := h.known_of_owed href
  have hreferenced : Referenced (q ++ [e]) := h.referenced.snoc fun hresult => by
    obtain ⟨ref, -, href⟩ := hpair hresult
    exact href ▸ rfl
  obtain ⟨hknown, howed, hnodup, -⟩ := h
  by_cases huse : e.type = .toolUse
  · have hbatch : (batch (q ++ [e])).owed = (batch q).owed ++ [e.eventID] := by
      rw [batch_snoc, Batch.event, huse]
    have hnone : answer e = none := answer_of_ne (huse ▸ by decide)
    refine ⟨?_, ?_, ?_, hreferenced⟩ <;> grind
  by_cases hresult : e.type = .toolResult
  · obtain ⟨ref, href, hpair⟩ := hpair hresult
    have hbatch : (batch (q ++ [e])).owed = (batch q).owed.filter (ref ≠ ·) := by
      rw [batch_snoc, Batch.event, hresult]
      simp [hpair]
    have hsome : answer e = some ref := (if_pos hresult).trans hpair
    refine ⟨?_, ?_, ?_, hreferenced⟩ <;> grind
  · have hbatch : (batch (q ++ [e])).owed = (batch q).owed := by
      rw [batch_snoc]
      unfold Batch.event
      split <;> simp_all
    rw [answer_of_ne hresult, Option.toList_none, List.append_nil] at hanswers
    refine ⟨?_, ?_, ?_, hreferenced⟩ <;> grind

lemma hygiene : Level (hygiene history).1 q := by
  have huses : usesOf (Kernel.hygiene history).1 = usesOf history := by
    unfold usesOf
    rw [← toolUses_others, hygiene_others, toolUses_others]
  refine ⟨fun ref href => h.known ref ?_, fun ref => ?_, h.nodup, h.referenced⟩
  · rw [huses] at href
    exact href.imp_right fun hans => ((hygiene_sublist history).filterMap answer).subset hans
  · rw [h.owed, huses]
    exact and_congr_right fun href => not_congr (mem_answers_hygiene href).symm

lemma mem_synthetic :
    ref ∈ (Kernel.hygiene history).2.map SyntheticResult.pairRef ↔ ref ∈ (batch q).owed := by
  rw [(synthetic_perm history).mem_iff, mem_unanswered, h.owed]
  exact and_congr_right fun href => not_congr (mem_answers_hygiene href)

end Level

/-! ### The protocol -/

/-- The identifiers of the tool uses that a stream offers. -/
def offered : Except StreamError (List Chunk × Option StreamError) → List String
  | .ok (chunks, _) => chunks.filterMap fun
    | .toolUse toolUseID _ _ => some toolUseID
    | _ => none
  | .error _ => []

/-- The identifiers are distinct, and none of them is one of the journal. -/
def Fresh (q : List (Exchange UUID String)) (ids : List String) : Prop :=
  ids.Nodup ∧ ∀ id ∈ ids, ∀ ref, .asked ref id ∉ q

/-- What is asked of a call beyond the order of its events. -/
inductive Mode
  /-- A fresh run: the model is shown what is read back from the log. -/
  | first
  /-- A run that may be continued: nothing waits when the user is heard. -/
  | next
  /-- Any call: a provider that gives new identifiers gives them to all tool uses. -/
  | any

/-- An event that may be next in a log. -/
def Fits (mode : Mode) (q : List (Event Payload)) (d : Draft) : Prop :=
  match d.type with
  | .toolUse => (batch q).closing = false ∧
      (mode = .any → ∀ ref, .asked ref d.payload.toolUseRequest.toolUseID ∉ journal q)
  | .toolResult => ∃ ref ∈ (batch q).owed, d.pairRef = some ref
  | .thought | .content => (batch q).owed = []
  | .userMessage => mode ≠ .any → (batch q).owed = []
  | _ => True

/-- What a kernel call may do, seen from the log as the call knows it. -/
def turnwise (k : Kernel) (mode : Mode) : Protocol (List (Event Payload)) Op Op.Answer where
  admits q
    | .append d => Fits mode q d
    | .stream p _ => (batch q).owed = [] ∧ signalsOf p.messages = wire "" (journal q) ∧
        (mode = .first → p.messages = (rehydrate k q).1)
    | _ => True
  step q
    | .append d, answer, q' =>
      match answer with
      | .ok (eventID, seq) => eventID ∉ q.map Event.eventID ∧ q' = q ++ [d.event eventID seq]
      | .error _ => q' = q
    | .stream .., answer, q' => q' = q ∧ (mode = .any → Fresh (journal q) (offered answer))
    | _, _, q' => q' = q

variable {mode : Mode} {α : Type} {s s' : RunState} {q' : List (Event Payload)}

lemma journal_of_other (huse : e.type ≠ .toolUse) (hresult : e.type ≠ .toolResult) :
    journal (q ++ [e]) = journal q := by
  rw [journal_snoc, exchange_of_other huse hresult]
  exact List.append_nil _

lemma journal_of_toolResult (hresult : e.type = .toolResult) (hpair : e.pairRef = some ref) :
    journal (q ++ [e]) = journal q ++ [.answered ref] := by
  rw [journal_snoc, exchange_of_toolResult hresult, hpair]
  rfl

/-- A call leaves a log that agrees with itself on what waits. -/
lemma Level.step {o : Op} {answer : o.Answer} (h : Level q q)
    (hadm : (turnwise k mode).admits q o) (hst : (turnwise k mode).step q o answer q') :
    Level q' q' := by
  cases o with
  | append d =>
    match answer with
    | .ok (eventID, seq) =>
      obtain ⟨hnew, rfl⟩ := hst
      refine h.snoc (e := d.event eventID seq) hnew fun hresult => ?_
      change Fits mode q d at hadm
      rw [Fits, show d.type = .toolResult from hresult] at hadm
      obtain ⟨ref, href, hpair⟩ := hadm
      exact ⟨ref, h.known_of_owed href, hpair⟩
    | .error _ => exact Eq.subst (motive := fun q => Level q q) (Eq.symm hst) h
  | stream p tools => exact hst.1 ▸ h
  | _ => exact Eq.subst (motive := fun q => Level q q) (Eq.symm hst) h

/-- What bookkeeping leaves as it is. -/
structure Still (k : Kernel) (s : RunState) (q : List (Event Payload)) (s' : RunState)
    (q' : List (Event Payload)) : Prop where
  transcript_eq : s'.transcript = s.transcript
  ids_eq : s'.toolUseIDs = s.toolUseIDs
  journal_eq : journal q' = journal q
  replayed_eq : replayed k q' = replayed k q
  batch_eq : batch q' = batch q
  level : Level s.history q → Level s'.history q'

/-- Whatever is no part of the conversation leaves its state as it is. -/
lemma stillness : Frame (turnwise k mode) (Still k) where
  steady _ o ho := by cases o <;> first | exact ho.elim | exact ⟨trivial, fun _ _ hst => hst⟩
  refl _ _ := ⟨rfl, rfl, rfl, rfl, rfl, id⟩
  trans h h' := ⟨h'.1.trans h.1, h'.2.trans h.2, h'.3.trans h.3, h'.4.trans h.4, h'.5.trans h.5,
    h'.6 ∘ h.6⟩
  append s q d htype := by
    have hne {type : EventType} (h : ¬ Bookkeeping type) : d.type ≠ type :=
      fun heq => h (heq ▸ htype)
    constructor
    · show Fits mode q d
      unfold Fits
      split <;> simp_all [Bookkeeping]
    rintro eventID seq q' ⟨hnew, rfl⟩
    have hbook : Bookkeeping (d.event eventID seq).type := htype
    refine ⟨rfl, rfl, journal_of_other (hne (by decide)) (hne (by decide)), ?_, ?_, fun h => ?_⟩
    · rw [replayed_snoc, replay_of_bookkeeping hbook]
    · rw [batch_snoc, batch_of_bookkeeping hbook]
    · exact h.snoc hnew fun hresult => absurd hresult (hne (by decide))

lemma classify_nil_ne (text : String) : classify [] text ≠ .toolCalls := by
  simp only [classify]
  split_ifs <;> simp_all

/-- An event that fits is appended and handed over. -/
lemma wp_write {type : EventType} {actor : Actor} {toolID : Option String}
    {pairRef : Option UUID} {payload : Payload} {c : Event Payload → Call α}
    {R : α → RunState → List (Event Payload) → Prop}
    (hfits : Fits mode q (s.draft type actor toolID pairRef payload))
    (hc : ∀ eventID seq, eventID ∉ q.map Event.eventID →
      let ev := (s.draft type actor toolID pairRef payload).event eventID seq
      ∀ s' q', Still k (s.appended ev) (q ++ [ev]) s' q' →
        wp (turnwise k mode) (c ev) R (fun _ => True) s' q') :
    wp (turnwise k mode) (do
      let ev ← appendEvent type actor toolID pairRef payload
      emit ev
      c ev) R (fun _ => True) s q := by
  refine wp_bind.2 (wp_appendEvent hfits (fun _ q' _ => ⟨stillness.quiet q', trivial⟩) ?_)
  rintro eventID seq q' ⟨hnew, rfl⟩
  intro ev
  exact wp_seq (stillness.emit ev _ _) fun _ s₁ q₁ => hc eventID seq hnew s₁ q₁

/-! ### What is said -/

/-- The session of a call and the log as the call knows it. The blocks `bs` are written and not yet
said. -/
structure InStep (s : RunState) (q : List (Event Payload)) (bs : List ContentBlock) : Prop where
  level : Level s.history q
  signals_eq : wire "" (journal q) = signalsOf s.transcript ++ signals bs

namespace InStep

variable {bs bs' : List ContentBlock} (h : InStep s q bs)
include h

lemma still (hstill : Still k s q s' q') : InStep s' q' bs := by
  refine ⟨hstill.level h.level, ?_⟩
  rw [hstill.journal_eq, hstill.transcript_eq]
  exact h.signals_eq

lemma say (role : Role) :
    InStep { s with transcript := s.transcript ++ [{ role, blocks := bs }] } q [] := by
  refine ⟨h.level, ?_⟩
  rw [signalsOf_snoc, h.signals_eq]
  exact (List.append_nil _).symm

lemma snoc (hnew : e.eventID ∉ q.map Event.eventID)
    (hpair : e.type = .toolResult → ∃ ref ∈ q.map Event.eventID, e.pairRef = some ref)
    (hwire : wire "" (journal (q ++ [e])) = wire "" (journal q) ++ signals bs') :
    InStep (s.appended e) (q ++ [e]) (bs ++ bs') := by
  refine ⟨h.level.snoc hnew hpair, ?_⟩
  rw [hwire, h.signals_eq, signals_append, List.append_assoc]
  rfl

/-- A result that is waited for. -/
lemma result (hnew : e.eventID ∉ q.map Event.eventID) (htype : e.type = .toolResult)
    (hpair : e.pairRef = some ref) (howed : ref ∈ (batch q).owed) {id : String}
    (hid : (idOf "" (journal q) ref).getD "" = id) (text : String) (isError : Bool) :
    InStep (s.appended e) (q ++ [e]) (bs ++ [.toolResult id text isError]) := by
  refine h.snoc hnew (fun _ => ⟨ref, h.level.known_of_owed howed, hpair⟩) ?_
  rw [journal_of_toolResult htype hpair, wire_answered, hid]
  rfl

end InStep

/-! ### The assistant's side of a turn -/

/-- The blocks `A` of a turn are written and not yet said, and the tool uses `owed` among them.
Those with the identifiers `offers` are not written yet. -/
structure Collecting (k : Kernel) (mode : Mode) (s : RunState) (q : List (Event Payload))
    (A : List ContentBlock) (owed : List UUID) (offers : List String) : Prop
    extends InStep s q A where
  batch_eq : batch q = { owed }
  fresh : mode = .any → Fresh (journal q) offers
  replays : mode = .first → (replayed k q).flushResults.transcript = s.transcript ∧
    (replayed k q).pendingAssistant = A

lemma fresh_nil (l : List (Exchange UUID String)) : Fresh l [] :=
  ⟨List.nodup_nil, List.forall_mem_nil _⟩

variable {A bs : List ContentBlock} {owed owed' : List UUID} {offers offers' : List String}

lemma Collecting.still (h : Collecting k mode s q A owed offers) (hstill : Still k s q s' q') :
    Collecting k mode s' q' A owed offers := by
  refine ⟨h.toInStep.still hstill, hstill.batch_eq.trans h.batch_eq, ?_, ?_⟩
  · rw [hstill.journal_eq]
    exact h.fresh
  · rw [hstill.replayed_eq, hstill.transcript_eq]
    exact h.replays

lemma Replay.flushResults_assistant (r : Replay) (bs : List ContentBlock) :
    (r.assistant bs).flushResults.transcript = r.flushResults.transcript ∧
      (r.assistant bs).pendingAssistant = r.pendingAssistant ++ bs := by
  have hnone := r.pendingResults_flushResults
  constructor
  · rw [Replay.assistant, Replay.flushResults]
    simp [hnone]
  · unfold Replay.assistant Replay.flushResults
    split <;> rfl

/-- An event of the assistant's side joins the log. -/
lemma Collecting.snoc (h : Collecting k mode s q A owed offers)
    (hnew : e.eventID ∉ q.map Event.eventID) (htype : e.type ≠ .toolResult)
    (hbatch : (batch q).event e = { owed := owed' })
    (hwire : wire "" (journal (q ++ [e])) = wire "" (journal q) ++ signals bs)
    (hfresh : mode = .any → Fresh (journal (q ++ [e])) offers')
    (hreplay : ∀ r : Replay, ∃ ids, r.event k e = { r.assistant bs with toolUseIDs := ids }) :
    Collecting k mode (s.appended e) (q ++ [e]) (A ++ bs) owed' offers' := by
  refine ⟨h.toInStep.snoc hnew (fun h => absurd h htype) hwire, (batch_snoc q e).trans hbatch,
    hfresh, fun hfirst => ?_⟩
  obtain ⟨hshown, hpending⟩ := h.replays hfirst
  obtain ⟨ids, hids⟩ := hreplay (replayed k q)
  obtain ⟨htranscript, hblocks⟩ := (replayed k q).flushResults_assistant bs
  rw [replayed_snoc, hids]
  refine ⟨Eq.trans ?_ (htranscript.trans hshown), hblocks.trans (by rw [hpending])⟩
  unfold Replay.flushResults
  split <;> rfl

section

variable (h : Collecting k mode s q A [] offers)
include h

/-- Reasoning or text joins the log. -/
lemma Collecting.said (hnew : e.eventID ∉ q.map Event.eventID)
    (htype : e.type = .thought ∨ e.type = .content) (hbs : signals bs = [])
    (hreplay : ∀ r : Replay, ∃ ids, r.event k e = { r.assistant bs with toolUseIDs := ids }) :
    Collecting k mode (s.appended e) (q ++ [e]) (A ++ bs) [] offers := by
  have hjournal : journal (q ++ [e]) = journal q := by
    rcases htype with htype | htype <;> exact journal_of_other (htype ▸ nofun) (htype ▸ nofun)
  refine h.snoc hnew ?_ ?_ ?_ ?_ hreplay
  · rcases htype with htype | htype <;> exact htype ▸ nofun
  · rw [h.batch_eq, Batch.event]
    rcases htype with htype | htype <;> rw [htype]
  · rw [hjournal, hbs, List.append_nil]
  · rw [hjournal]
    exact h.fresh

lemma Collecting.wp_appendThoughts (raws : List (List UInt8)) :
    wp (turnwise k mode) (appendThoughts k raws)
      (fun bs s' q' => Collecting k mode s' q' (A ++ bs) [] offers) (fun _ => True) s q := by
  induction raws generalizing s q A with
  | nil => exact wp_pure.2 (by rwa [List.append_nil])
  | cons raw rest ih =>
    refine wp_write (congrArg Batch.owed h.batch_eq) fun eventID seq hnew => ?_
    intro ev s₁ q₁ hstill
    have h₁ := (h.said (e := ev) hnew (.inl rfl) (Replay.signals_thinkingBlock k raw)
      fun r => ⟨_, rfl⟩).still hstill
    refine wp_seq (ih h₁) fun bs s₂ q₂ h₂ => ?_
    exact wp_pure.2 (by rwa [← List.append_assoc])

lemma Collecting.wp_appendContent (text : String) :
    wp (turnwise k mode) (appendContent text)
      (fun bs s' q' => Collecting k mode s' q' (A ++ bs) [] offers) (fun _ => True) s q := by
  unfold appendContent
  split
  · exact wp_pure.2 (by rwa [List.append_nil])
  · refine wp_write (congrArg Batch.owed h.batch_eq) fun eventID seq hnew => ?_
    intro ev s₁ q₁ hstill
    exact wp_pure.2 ((h.said (e := ev) hnew (.inr rfl) rfl fun r => ⟨_, rfl⟩).still hstill)

end

abbrev Calls := List (ToolUseRequest × Event Payload)

/-- A tool use joins the log, under a new identifier. -/
lemma Collecting.ask {id : String} (h : Collecting k mode s q A owed (id :: offers))
    (hnew : e.eventID ∉ q.map Event.eventID) (htype : e.type = .toolUse)
    (hid : e.payload.toolUseRequest.toolUseID = id) :
    Collecting k mode (s.appended e) (q ++ [e]) (A ++ [e.payload.toolUseRequest.block])
      (owed ++ [e.eventID]) offers := by
  have hjournal : journal (q ++ [e]) = journal q ++ [.asked e.eventID id] := by
    rw [journal_snoc, exchange_of_toolUse htype, hid]
    rfl
  refine h.snoc hnew (htype ▸ nofun) ?_ ?_ (fun hany => ?_) fun r => ?_
  · rw [h.batch_eq, Batch.event, htype]
  · rw [hjournal, wire_asked, ← hid]
    rfl
  · -- the identifiers of the others are still new
    obtain ⟨hnodup, hfresh⟩ := h.fresh hany
    rw [List.nodup_cons] at hnodup
    rw [hjournal]
    refine ⟨hnodup.2, fun id' hid' ref hasked => ?_⟩
    rcases List.mem_append.1 hasked with hold | hlast
    · exact hfresh id' (List.mem_cons_of_mem id hid') ref hold
    · obtain ⟨rfl, rfl⟩ := Exchange.asked.inj (List.mem_singleton.1 hlast)
      exact hnodup.1 hid'
  · rw [Replay.event, htype]
    exact ⟨_, rfl⟩

/-- The tool uses of a turn, under new identifiers. -/
lemma Collecting.wp_appendToolUses {tus : List ToolUseRequest}
    (h : Collecting k mode s q A owed (tus.map ToolUseRequest.toolUseID)) :
    wp (turnwise k mode) (appendToolUses tus)
      (fun calls s' q' => calls.map Prod.fst = tus ∧
        Collecting k mode s' q' (A ++ calls.map fun c => c.1.block)
          (owed ++ calls.map fun c => c.2.eventID) [] ∧
        (∀ ref ∈ owed, idOf "" (journal q') ref = idOf "" (journal q) ref) ∧
        ∀ c ∈ calls, idOf "" (journal q') c.2.eventID = some c.1.toolUseID)
      (fun _ => True) s q := by
  induction tus generalizing s q A owed with
  | nil => exact wp_pure.2 ⟨rfl, by simpa using h, fun _ _ => rfl, by simp⟩
  | cons tu rest ih =>
    refine wp_write ⟨congrArg Batch.closing h.batch_eq, fun hany =>
      (h.fresh hany).2 _ List.mem_cons_self⟩ fun eventID seq hnew => ?_
    intro ev s₂ q₂ h₂
    have h₁ : Collecting k mode (s.appended ev) (q ++ [ev]) (A ++ [tu.block])
        (owed ++ [ev.eventID]) (rest.map ToolUseRequest.toolUseID) := h.ask hnew rfl rfl
    have hids : idOf "" (journal (q ++ [ev])) =
        Function.update (idOf "" (journal q)) ev.eventID (some tu.toolUseID) := by
      rw [journal_snoc]
      exact idOf_asked
    refine wp_seq (ih (h₁.still h₂)) ?_
    rintro calls s₃ q₃ ⟨hfst, h₃, hkept, hcalls⟩
    rw [h₂.journal_eq, hids] at hkept
    refine wp_pure.2 ⟨by rw [List.map_cons, hfst], by simpa using h₃, fun ref href => ?_, ?_⟩
    · -- the new event is none of those that waited before
      have hne : ref ≠ ev.eventID := by
        rintro rfl
        exact hnew (h.level.known_of_owed (h.batch_eq ▸ href))
      rw [hkept ref (List.mem_append_left _ href), Function.update_of_ne hne]
    · intro c hc
      rcases List.mem_cons.1 hc with rfl | hc
      · exact (hkept ev.eventID (by simp)).trans (Function.update_self ..)
      · exact hcalls c hc

/-! ### Results -/

/-- The results `R` of a turn are written and not yet said, and the calls `calls` wait for
theirs. -/
structure Answering (k : Kernel) (mode : Mode) (s : RunState) (q : List (Event Payload))
    (R : List ContentBlock) (calls : Calls) : Prop extends InStep s q R where
  owed_eq : (batch q).owed = calls.map fun c => c.2.eventID
  ids : ∀ c ∈ calls, idOf "" (journal q) c.2.eventID = some c.1.toolUseID
  replays : mode = .first → (replayed k q).flushAssistant.transcript = s.transcript ∧
    (replayed k q).pendingResults = R

lemma Collecting.wp_assistantTurn {out : Output}
    (h : Collecting k mode s q [] [] (out.toolUses.map ToolUseRequest.toolUseID)) :
    wp (turnwise k mode) (assistantTurn k out)
      (fun calls s' q' => calls.map Prod.fst = out.toolUses ∧
        (calls ≠ [] → Answering k mode s' q' [] calls)) (fun _ => True) s q := by
  refine wp_seq (h.wp_appendThoughts _) fun thoughts s₁ q₁ h₁ => ?_
  refine wp_seq (stillness.hushed _ (stillness.terminate _) s₁ q₁) ?_
  intro _ s₂ q₂ h₂
  refine wp_seq (stillness.hushed _ (stillness.terminate _) s₂ q₂) ?_
  intro _ s₃ q₃ h₃
  refine wp_seq (((h₁.still h₂).still h₃).wp_appendContent _) fun text s₄ q₄ h₄ => ?_
  refine wp_seq h₄.wp_appendToolUses ?_
  rintro calls s₅ q₅ ⟨hfst, h₅, -, hids⟩
  refine wp_bind.2 (wp_when (fun _ => wp_modify.2 (wp_pure.2 ⟨hfst, fun hcalls => ?_⟩)) ?_)
  · refine ⟨h₅.toInStep.say .assistant, congrArg Batch.owed h₅.batch_eq, hids, fun hfirst => ?_⟩
    obtain ⟨hshown, hpending⟩ := h₅.replays hfirst
    have hnil : (replayed k q₅).pendingAssistant ≠ [] := by simp [hpending, hcalls]
    have hresults := (agrees_foldl k h₅.level.referenced).pending.resolve_left hnil
    refine ⟨?_, hresults⟩
    change (replayed k q₅).pendingResults = [] at hresults
    show _ = s₅.transcript ++ [_]
    rw [← hshown, Replay.flushAssistant, Replay.flushResults]
    simp [hresults, hpending, hcalls]
  · intro hempty
    refine wp_pure.2 ⟨hfst, fun hcalls => absurd hempty ?_⟩
    simp [hcalls]

variable {R : List ContentBlock} {calls : Calls}

lemma Answering.snoc {c : ToolUseRequest × Event Payload}
    (h : Answering k mode s q R (c :: calls)) (hnew : e.eventID ∉ q.map Event.eventID)
    {result : ToolResult} (htype : e.type = .toolResult) (hpair : e.pairRef = some c.2.eventID)
    (hpayload : e.payload = .toolResult result) :
    Answering k mode (s.appended e) (q ++ [e])
      (R ++ [.toolResult c.1.toolUseID (resultText result) result.isError]) calls := by
  have hmem : c.2.eventID ∈ (batch q).owed := by simp [h.owed_eq]
  have hid := h.ids c List.mem_cons_self
  have hnodup := h.level.nodup
  rw [h.owed_eq, List.map_cons, List.nodup_cons] at hnodup
  refine ⟨h.toInStep.result hnew htype hpair hmem (by rw [hid]; rfl) _ _, ?_, fun c' hc' => ?_,
    fun hfirst => ?_⟩
  · -- the other calls of the turn still wait
    rw [batch_snoc, Batch.event, htype]
    show (batch q).owed.filter _ = _
    rw [h.owed_eq, List.map_cons, List.filter_cons_of_neg (by simp [hpair])]
    refine List.filter_eq_self.2 fun ref href => ?_
    simpa [hpair] using fun heq : c.2.eventID = ref => hnodup.1 (heq ▸ href)
  · rw [journal_of_toolResult htype hpair, idOf_answered]
    exact h.ids c' (List.mem_cons_of_mem c hc')
  · obtain ⟨hshown, hresults⟩ := h.replays hfirst
    have hnil := (replayed k q).pendingAssistant_flushAssistant
    have hids := (agrees_foldl k h.level.referenced).flushAssistant.ids_eq
    have hevent : (replayed k q).event k e = { (replayed k q).flushAssistant with
        pendingResults := (replayed k q).flushAssistant.pendingResults ++
          [.toolResult c.1.toolUseID (resultText result) result.isError] } := by
      rw [Replay.event, htype]
      show ({ (replayed k q).flushAssistant with pendingResults := _ } : Replay) = _
      rw [show (replayed k q).flushAssistant.toolUseIDs = _ from hids]
      simp [hpair, hpayload, hid, Payload.result]
    rw [replayed_snoc, hevent]
    refine ⟨Eq.trans ?_ hshown, ?_⟩
    · rw [Replay.flushAssistant]
      simp [hnil]
    · rw [← hresults]
      unfold Replay.flushAssistant
      split <;> rfl

lemma Answering.still (h : Answering k mode s q R calls) (hstill : Still k s q s' q') :
    Answering k mode s' q' R calls := by
  refine ⟨h.toInStep.still hstill, hstill.batch_eq ▸ h.owed_eq, ?_, ?_⟩
  · rw [hstill.journal_eq]
    exact h.ids
  · rw [hstill.replayed_eq, hstill.transcript_eq]
    exact h.replays

lemma Answering.wp_dispatch (cfg : RunConfig) (h : Answering k mode s q R calls) :
    wp (turnwise k mode) (dispatch cfg calls)
      (fun blocks s' q' => blocks.length = calls.length ∧
        Answering k mode s' q' (R ++ blocks) []) (fun _ => True) s q := by
  induction calls generalizing s q R with
  | nil => exact wp_pure.2 ⟨rfl, by rwa [List.append_nil]⟩
  | cons c rest ih =>
    refine wp_bind.2 (stillness.wp_dispatchCall fun result => ?_)
    refine wp_appendEvent ⟨c.2.eventID, by simp [h.owed_eq], rfl⟩
      (fun _ q' _ => ⟨stillness.quiet q', trivial⟩) ?_
    rintro eventID seq q' ⟨hnew, rfl⟩ ev s₁ q₁ hstill
    refine wp_seq (ih ((h.snoc (e := ev) hnew rfl rfl rfl).still hstill)) ?_
    rintro blocks s₂ q₂ ⟨hlength, h₂⟩
    exact wp_pure.2 ⟨by simp [hlength], by simpa using h₂⟩

/-! ### Between two turns -/

/-- All is said, and the identifiers of the tool uses that wait are known. In a fresh run there are
none. -/
structure Between (k : Kernel) (mode : Mode) (s : RunState) (q : List (Event Payload)) : Prop
    extends InStep s q [] where
  ids : ∀ ref ∈ (batch q).owed, s.toolUseIDs ref = idOf "" (journal q) ref
  collecting : mode = .first → Collecting k mode s q [] [] []

lemma Between.still (h : Between k mode s q) (hstill : Still k s q s' q') :
    Between k mode s' q' := by
  refine ⟨h.toInStep.still hstill, ?_, fun hfirst => (h.collecting hfirst).still hstill⟩
  rw [hstill.batch_eq, hstill.ids_eq, hstill.journal_eq]
  exact h.ids

lemma Collecting.between (h : Collecting k mode s q [] [] []) : Between k mode s q := by
  refine ⟨h.toInStep, fun ref href => ?_, fun _ => h⟩
  rw [h.batch_eq] at href
  nomatch href

lemma Answering.collecting (h : Answering k mode s q R []) (hR : R ≠ []) :
    Collecting k mode { s with transcript := s.transcript ++ [{ role := .tool, blocks := R }] } q
      [] [] [] := by
  refine ⟨h.toInStep.say .tool, batch_of_owed_nil h.owed_eq, fun _ => fresh_nil _, fun hfirst => ?_⟩
  obtain ⟨hshown, hresults⟩ := h.replays hfirst
  have hnil : (replayed k q).pendingAssistant = [] :=
    (agrees_foldl k h.level.referenced).pending.resolve_right (hresults ▸ hR)
  refine ⟨?_, hnil⟩
  show _ = s.transcript ++ [_]
  rw [← hshown, Replay.flushAssistant, Replay.flushResults]
  simp [hnil, hresults, hR]

/-- The results that hygiene found owed. -/
lemma InStep.wp_appendSynthetic (h : InStep s q R) {synth : List SyntheticResult}
    (hnodup : (synth.map SyntheticResult.pairRef).Nodup)
    (howed : ∀ ref, ref ∈ synth.map SyntheticResult.pairRef ↔ ref ∈ (batch q).owed)
    (hids : ∀ ref ∈ (batch q).owed, s.toolUseIDs ref = idOf "" (journal q) ref) :
    wp (turnwise k mode) (appendSynthetic synth)
      (fun blocks s' q' => InStep s' q' (R ++ blocks) ∧ (batch q').owed = []) (fun _ => True)
      s q := by
  induction synth generalizing s q R with
  | nil =>
    refine wp_pure.2 ⟨by rwa [List.append_nil], List.eq_nil_iff_forall_not_mem.2 fun ref href => ?_⟩
    nomatch (howed ref).2 href
  | cons x rest ih =>
    have hx := (howed x.pairRef).1 List.mem_cons_self
    refine wp_bind.2 (wp_appendEvent ⟨_, hx, rfl⟩ (fun _ q' _ => ⟨stillness.quiet q', trivial⟩) ?_)
    rintro eventID seq q' ⟨hnew, rfl⟩
    intro ev
    have hid : (idOf "" (journal q) x.pairRef).getD "" = (s.appended ev).toolUseID x.pairRef := by
      rw [← hids _ hx]
      rfl
    have h₁ := h.result (e := ev) hnew rfl rfl hx hid ("[synthetic error] " ++ x.reason) true
    have hbatch : (batch (q ++ [ev])).owed = (batch q).owed.filter (some x.pairRef ≠ some ·) := by
      rw [batch_snoc]
      rfl
    refine wp_bind.2 (wp_get.2 (wp_seq (stillness.emit ev _ _) ?_))
    intro _ s₂ q₂ h₂
    rw [List.map_cons, List.nodup_cons] at hnodup
    refine wp_seq (ih (h₁.still h₂) hnodup.2 (fun ref => ?_) fun ref href => ?_) ?_
    · rw [h₂.batch_eq, hbatch]
      grind
    · rw [h₂.batch_eq, hbatch] at href
      rw [h₂.ids_eq, h₂.journal_eq, journal_of_toolResult rfl rfl, idOf_answered]
      exact hids ref (List.mem_of_mem_filter href)
    · rintro blocks s₃ q₃ ⟨h₃, hnone⟩
      exact wp_pure.2 ⟨by simpa using h₃, hnone⟩

lemma Between.wp_repair (h : Between k mode s q) :
    wp (turnwise k mode) repair (fun _ s' q' => Collecting k mode s' q' [] [] []) (fun _ => True)
      s q := by
  have hnodup := (synthetic_perm s.history).nodup_iff.2 (nodup_unanswered s.history)
  have hkept : InStep { s with history := (hygiene s.history).1 } q [] :=
    ⟨h.level.hygiene, h.signals_eq⟩
  rw [wp_repair_iff]
  by_cases hfirst : mode = .first
  · -- nothing waits, so that hygiene has nothing to add
    have hcollecting := h.collecting hfirst
    have hnone : (hygiene s.history).2.map SyntheticResult.pairRef = [] := by
      refine List.eq_nil_iff_forall_not_mem.2 fun ref href => ?_
      rw [h.level.mem_synthetic, hcollecting.batch_eq] at href
      nomatch href
    rw [List.map_eq_nil_iff.1 hnone]
    exact ⟨hkept, hcollecting.batch_eq, hcollecting.fresh, hcollecting.replays⟩
  · refine wp_seq (hkept.wp_appendSynthetic hnodup (fun _ => h.level.mem_synthetic) h.ids) ?_
    rintro blocks s₁ q₁ ⟨h₁, hnone⟩
    have hdone {s' : RunState} (h' : InStep s' q₁ []) : Collecting k mode s' q₁ [] [] [] :=
      ⟨h', batch_of_owed_nil hnone, fun _ => fresh_nil _, fun h => absurd h hfirst⟩
    refine wp_when (fun _ => wp_modify.2 (hdone (h₁.say .tool))) fun hempty => hdone ?_
    obtain rfl : blocks = [] := by simpa using hempty
    exact h₁

/-! ### Turns -/

structure Windowless (k : Kernel) : Prop where
  prune : k.prunePolicy.Off
  condense : k.condenseThresholdBytes ≤ 0

lemma condenseView_off {k : Kernel} (hk : Windowless k) (cfg : RunConfig)
    (view : List Message) : condenseView k cfg view = pure view := by
  unfold condenseView
  rw [Promptctx.shouldCondense, if_pos hk.condense]

lemma toolUses_ofChunks (chunks : List Chunk) (streamErr : Option StreamError) :
    (Output.ofChunks chunks).toolUses.map ToolUseRequest.toolUseID =
      offered (.ok (chunks, streamErr)) := by
  have hfold (o : Output) : (chunks.foldl Output.chunk o).toolUses.map ToolUseRequest.toolUseID =
      o.toolUses.map ToolUseRequest.toolUseID ++ offered (.ok (chunks, streamErr)) := by
    induction chunks generalizing o with
    | nil => simp [offered]
    | cons c chunks ih =>
      rw [List.foldl_cons, ih]
      cases c <;> simp [Output.chunk, offered]
  exact hfold {}

/-- What is shown between two turns is the wire of the log, and in a fresh run what is read back
from it. -/
lemma Collecting.admits_stream (h : Collecting k mode s q [] [] []) (cfg : RunConfig) :
    (turnwise k mode).admits q (.stream (Promptctx.build cfg.system s.transcript) cfg.catalog) := by
  refine ⟨congrArg Batch.owed h.batch_eq, ?_, fun hfirst => ?_⟩
  · rw [h.signals_eq]
    exact (List.append_nil _).symm
  · obtain ⟨hshown, hpending⟩ := h.replays hfirst
    show s.transcript = (replayed k q).flushAssistant.flushResults.transcript
    rw [← hshown]
    unfold Replay.flushAssistant
    simp [hpending]

lemma Between.wp_turn (hk : Windowless k) (cfg : RunConfig) (h : Between k mode s q) :
    wp (turnwise k mode) (turn k cfg) (fun _ s' q' => Between k mode s' q') (fun _ => True)
      s q := by
  refine wp_seq h.wp_repair fun _ s₁ q₁ h₁ => ?_
  refine wp_seq (stillness.reserveTurn cfg s₁ q₁) fun res s₂ q₂ h₂ => ?_
  have hready := h₁.still h₂
  refine wp_bind.2 (wp_pruneView_off hk.prune ?_)
  rw [condenseView_off hk]
  refine wp_bind.2 (wp_pure.2 ?_)
  refine wp_bind.2 (stillness.wp_streamTurn (hready.admits_stream cfg) ?_)
  rintro chunks q₃ ⟨rfl, hfresh⟩
  rw [← toolUses_ofChunks] at hfresh
  have hoffered : Collecting k mode s₂ q₃ [] []
      ((Output.ofChunks chunks).toolUses.map ToolUseRequest.toolUseID) :=
    { hready with fresh := hfresh }
  refine wp_seq hoffered.wp_assistantTurn ?_
  rintro calls s₄ q₄ ⟨hfst, hanswering⟩
  match hclass : classify (Output.ofChunks chunks).toolUses (Output.ofChunks chunks).text with
  | .content => exact stillness.wp_reply cfg
  | .empty => exact stillness.wp_reply cfg
  | .toolCalls =>
    have hcalls : calls ≠ [] := by
      rintro rfl
      exact classify_nil_ne _ (hfst ▸ hclass)
    refine wp_seq ((hanswering hcalls).wp_dispatch cfg) ?_
    rintro blocks s₅ q₅ ⟨hlength, h₅⟩
    have hblocks : blocks ≠ [] := by
      rintro rfl
      exact hcalls (List.length_eq_zero_iff.1 hlength.symm)
    refine wp_when (fun _ => wp_modify.2 (h₅.collecting hblocks).between) fun hempty => ?_
    simp [hblocks] at hempty

lemma Between.wp_turnsFrom (hk : Windowless k) (cfg : RunConfig) (n : ℕ) (h : Between k mode s q) :
    wp (turnwise k mode) (turnsFrom k cfg n) (fun _ _ _ => True) (fun _ => True) s q := by
  induction n generalizing s q with
  | zero => exact wp_terminate (stillness.terminate _ s q)
  | succ n ih => exact wp_seq (h.wp_turn hk cfg) fun _ s' q' h' => ih h'

/-! ### Kernel calls -/

lemma Between.wp_hear (h : Between k mode s q) (howed : mode ≠ .any → (batch q).owed = [])
    (input : String) :
    wp (turnwise k mode) (hear input) (fun _ s' q' => Between k mode s' q') (fun _ => True)
      s q := by
  refine wp_bind.2 (wp_appendEvent howed (fun _ q' _ => ⟨stillness.quiet q', trivial⟩) ?_)
  rintro eventID seq q' ⟨hnew, rfl⟩
  intro ev
  have hjournal : journal (q ++ [ev]) = journal q := journal_of_other nofun nofun
  have hbatch : batch (q ++ [ev]) = batch q := batch_snoc q ev
  have hwritten : InStep (s.appended ev) (q ++ [ev]) [.text input] :=
    h.toInStep.snoc hnew nofun (by rw [hjournal]; exact (List.append_nil _).symm)
  have hsaid := hwritten.say .user
  refine wp_bind.2 (wp_modify.2 (wp_mono (stillness.emit ev _ _) fun _ _ _ h₂ => ?_))
  refine Between.still ⟨hsaid, ?_, fun hfirst => ⟨hsaid, ?_, fun _ => fresh_nil _, fun _ => ?_⟩⟩ h₂
  · rw [hbatch, hjournal]
    exact h.ids
  · exact hbatch.trans (h.collecting hfirst).batch_eq
  · obtain ⟨hshown, hpending⟩ := (h.collecting hfirst).replays hfirst
    have hflush : (replayed k q).flushAssistant = replayed k q := by
      simp [Replay.flushAssistant, hpending]
    have hevent : (replayed k q).event k ev = { (replayed k q).flushResults with
        transcript := (replayed k q).flushResults.transcript ++ [textMessage .user input] } := by
      show ({ (replayed k q).flushAssistant.flushResults with
        transcript := (replayed k q).flushAssistant.flushResults.transcript ++
          [textMessage .user input] } : Replay) = _
      rw [hflush]
    have hnone := (replayed k q).pendingResults_flushResults
    have hassistant : (replayed k q).flushResults.pendingAssistant = [] := by
      unfold Replay.flushResults
      split <;> exact hpending
    rw [replayed_snoc, hevent, hshown]
    refine ⟨?_, hassistant⟩
    rw [Replay.flushResults, hnone]
    rfl

/-- A suspended tool use gets its result. -/
lemma Between.wp_pairResult (h : Between k .any s q) (howed : ref ∈ (batch q).owed)
    (toolID : String) (result : ToolResult) :
    wp (turnwise k .any) (pairResult ref toolID result) (fun _ s' q' => Between k .any s' q')
      (fun _ => True) s q := by
  refine wp_bind.2 (wp_appendEvent ⟨ref, howed, rfl⟩
    (fun _ q' _ => ⟨stillness.quiet q', trivial⟩) ?_)
  rintro eventID seq q' ⟨hnew, rfl⟩
  intro ev
  have hid : (idOf "" (journal q) ref).getD "" = s.toolUseID ref := by
    rw [← h.ids ref howed]
    rfl
  have hsaid := (h.toInStep.result (e := ev) hnew rfl rfl howed hid (resultText result)
    result.isError).say .tool
  refine wp_bind.2 (wp_get.2 (wp_bind.2 (wp_modify.2 (wp_mono (stillness.emit ev _ _) ?_))))
  intro _ s₂ q₂ h₂
  refine Between.still ⟨hsaid, fun ref' href' => ?_, nofun⟩ h₂
  rw [journal_of_toolResult rfl rfl, idOf_answered]
  rw [batch_snoc] at href'
  exact h.ids ref' (List.mem_of_mem_filter href')

/-- The calls that a mode is for. A fresh run has an empty log, and a call that resolves a
suspension names a tool use that waits for its result. -/
def Entry.Suits (mode : Mode) (history : List (Event Payload)) : Entry → Prop
  | .run _ => history = []
  | .continueRun _ => mode ≠ .first
  | .resumeConversation .. => mode = .any
  | .resume _ res => mode = .any ∧ res.toolUseEventID ∈ (batch history).owed
  | .resumeDelegation _ res => mode = .any ∧ res.toolUseEventID ∈ (batch history).owed

lemma Between.wp_run (hk : Windowless k) (cfg : RunConfig) (h : Between k mode s q)
    (howed : mode ≠ .any → (batch q).owed = []) :
    wp (turnwise k mode) (run k cfg) (fun _ _ _ => True) (fun _ => True) s q := by
  refine wp_bind.2 (wp_seq (stillness.markRunning s q) fun _ s₁ q₁ h₁ => ?_)
  refine wp_seq (stillness.appendToolsLoaded _ s₁ q₁) fun _ s₂ q₂ h₂ => ?_
  refine wp_seq (stillness.hushed _ (stillness.note (by decide)) s₂ q₂) ?_
  intro _ s₃ q₃ h₃
  have hready := ((h.still h₁).still h₂).still h₃
  rw [← h₁.batch_eq, ← h₂.batch_eq, ← h₃.batch_eq] at howed
  exact wp_when (fun _ => wp_mono (hready.wp_hear howed _) fun _ _ _ h₄ => h₄.wp_turnsFrom hk cfg _)
    fun _ => hready.wp_turnsFrom hk cfg _

lemma Between.wp_call (hk : Windowless k) (entry : Entry) (h : Between k mode s q)
    (hentry : entry.Suits mode q) :
    wp (turnwise k mode) (entry.call k) (fun _ _ _ => True) (fun _ => True) s q := by
  have hrun {s : RunState} {q : List (Event Payload)} (cfg : RunConfig) (h : Between k mode s q) :
      wp (turnwise k mode) (runTurns k cfg) (fun _ _ _ => True) (fun _ => True) s q :=
    h.wp_turnsFrom hk cfg cfg.turns
  have hmark : Framed (turnwise k mode) (Still k) markRunning :=
    stillness.markRunning
  match entry with
  | .run cfg =>
    obtain rfl := hentry
    exact h.wp_run hk cfg fun _ => rfl
  | .continueRun cfg =>
    exact wp_seq (hmark s q) fun _ _ _ h₁ => hrun cfg (h.still h₁)
  | .resumeConversation cfg input =>
    refine wp_seq (hmark s q) fun _ s₁ q₁ h₁ => ?_
    exact wp_seq ((h.still h₁).wp_hear (fun hne => absurd hentry hne) input)
      fun _ _ _ => hrun cfg
  | .resume cfg res =>
    obtain ⟨rfl, howed⟩ := hentry
    refine wp_seq (hmark s q) fun _ s₁ q₁ h₁ => ?_
    refine wp_seq (stillness.resolveApproval cfg res s₁ q₁) ?_
    intro result s₂ q₂ h₂
    rw [← h₁.batch_eq, ← h₂.batch_eq] at howed
    refine wp_seq (((h.still h₁).still h₂).wp_pairResult howed _ result) ?_
    intro _ s₃ q₃ h₃
    refine wp_seq (stillness.hushed _ (stillness.terminate _) s₃ q₃) ?_
    intro _ s₄ q₄ h₄
    refine wp_seq (stillness.hushed _ (stillness.fail _) s₄ q₄) ?_
    exact fun _ _ _ h₅ => hrun cfg ((h₃.still h₄).still h₅)
  | .resumeDelegation cfg res =>
    obtain ⟨rfl, howed⟩ := hentry
    refine wp_seq (hmark s q) fun _ s₁ q₁ h₁ => ?_
    rw [← h₁.batch_eq] at howed
    exact wp_seq ((h.still h₁).wp_pairResult howed _ _) fun _ _ _ => hrun cfg

/-- Whatever its surroundings answer, a kernel call writes its session turn by turn. -/
theorem Entry.follows_turnwise (hk : Windowless k) (tenantID sessionID : UUID)
    (hlevel : Level history history) (entry : Entry) (hentry : entry.Suits mode history) :
    (entry.start k tenantID sessionID history).Follows (turnwise k mode) history
      fun _ _ => True := by
  have hcall {s : RunState} (h : Between k mode s history) :
      ((entry.call k) s).run.Follows (turnwise k mode) history fun _ _ => True :=
    Process.Follows.mono (h.wp_call hk entry hentry) fun _ _ _ => trivial
  -- what is read back from the log is in step with it
  have hloaded (hfirst : mode ≠ .first) :
      Between k mode (loadState k tenantID sessionID history) history := by
    refine ⟨⟨hlevel, ?_⟩, fun ref _ => ?_, fun h => absurd h hfirst⟩
    · exact (rehydrate_signals k hlevel.referenced).symm.trans (List.append_nil _).symm
    · exact congrFun (agrees_foldl k hlevel.referenced).flushAssistant.flushResults.ids_eq ref
  match entry with
  | .run cfg =>
    obtain rfl := hentry
    exact hcall (Collecting.between ⟨⟨level_nil, rfl⟩, rfl, fun _ => fresh_nil _,
      fun _ => ⟨rfl, rfl⟩⟩)
  | .continueRun .. => exact hcall (hloaded hentry)
  | .resumeConversation .. => exact hcall (hloaded (hentry ▸ nofun))
  | .resume .. | .resumeDelegation .. => exact hcall (hloaded (hentry.1 ▸ nofun))

end NexusAgent.Kernel
