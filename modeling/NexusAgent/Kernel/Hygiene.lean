import Mathlib.Data.List.Dedup
import NexusAgent.Kernel.History

/-!
# What hygiene leaves of a history

`Hygiene` runs before every model call. It drops the tool results that answer nothing, or
answer a tool use for the second time, and reports the results that are owed. The results of
this module hold for every history: tool results without a reference, orphans, duplicates,
and tool uses with repeated identifiers included.
-/

namespace NexusAgent.Kernel

open EventLog

/-! ### Answers -/

/-- The tool use that an event is the result of. -/
def answer (e : Event Payload) : Option UUID := if e.type = .toolResult then e.pairRef else none

/-- The tool uses that the events of a history answer, in order. -/
def answers (history : List (Event Payload)) : List UUID := history.filterMap answer

/-- The events that are not results. -/
def others (history : List (Event Payload)) : List (Event Payload) :=
  history.filter fun e => e.type ≠ .toolResult

@[simp]
lemma answers_nil : answers [] = [] := rfl

@[simp]
lemma answers_append (h h' : List (Event Payload)) :
    answers (h ++ h') = answers h ++ answers h' :=
  List.filterMap_append

variable {e : Event Payload} {history results : List (Event Payload)} {ref : UUID}

lemma answers_cons_of_none (he : answer e = none) (es : List (Event Payload)) :
    answers (e :: es) = answers es :=
  List.filterMap_cons_none he

lemma answers_cons_of_some (he : answer e = some ref) (es : List (Event Payload)) :
    answers (e :: es) = ref :: answers es :=
  List.filterMap_cons_some he

/-- Every tool result of `es` answers a known tool use, none of those in `seen`, and no two
answer the same. -/
structure WellAnswered (known : UUID → Bool) (seen : List UUID) (es : List (Event Payload)) :
    Prop where
  paired : ∀ e ∈ es, e.type = .toolResult → e.pairRef.isSome
  known : ∀ ref ∈ answers es, known ref = true
  fresh : ∀ ref ∈ answers es, ref ∉ seen
  once : (answers es).Nodup

section Loop

variable {known : UUID → Bool} {seen : List UUID} {e : Event Payload} {es : List (Event Payload)}

lemma keepPaired_other (he : e.type ≠ .toolResult) :
    keepPaired known seen (e :: es) =
      (e :: (keepPaired known seen es).1, (keepPaired known seen es).2) := by
  rw [keepPaired, if_neg he]

lemma keepPaired_answer {ref : UUID} (he : answer e = some ref) (hknown : known ref = true)
    (hseen : ref ∉ seen) :
    keepPaired known seen (e :: es) =
      (e :: (keepPaired known (ref :: seen) es).1, (keepPaired known (ref :: seen) es).2) := by
  obtain ⟨htype, hpair⟩ := Option.ite_none_right_eq_some.1 he
  rw [keepPaired, if_pos htype, hpair]
  exact if_pos ⟨hknown, hseen⟩

/-- The three things the loop can do with an event. -/
lemma keepPaired_cons (known : UUID → Bool) (seen : List UUID) (e : Event Payload)
    (es : List (Event Payload)) :
    (e.type ≠ .toolResult ∧ keepPaired known seen (e :: es) =
      (e :: (keepPaired known seen es).1, (keepPaired known seen es).2)) ∨
    (e.type = .toolResult ∧ keepPaired known seen (e :: es) = keepPaired known seen es) ∨
    ∃ ref, answer e = some ref ∧ known ref = true ∧ ref ∉ seen ∧
      keepPaired known seen (e :: es) =
        (e :: (keepPaired known (ref :: seen) es).1, (keepPaired known (ref :: seen) es).2) := by
  by_cases htype : e.type = .toolResult
  · right
    cases hpair : e.pairRef with
    | none =>
      refine .inl ⟨htype, ?_⟩
      rw [keepPaired, if_pos htype, hpair]
    | some ref =>
      by_cases hkeep : known ref = true ∧ ref ∉ seen
      · have he : answer e = some ref := (if_pos htype).trans hpair
        exact .inr ⟨ref, he, hkeep.1, hkeep.2, keepPaired_answer he hkeep.1 hkeep.2⟩
      · refine .inl ⟨htype, ?_⟩
        rw [keepPaired, if_pos htype, hpair]
        exact if_neg hkeep
  · exact .inl ⟨htype, keepPaired_other htype⟩

lemma answer_of_ne (he : e.type ≠ .toolResult) : answer e = none := if_neg he

lemma wellAnswered_nil : WellAnswered known seen [] := by
  constructor <;> simp

lemma WellAnswered.cons_other (he : e.type ≠ .toolResult) (h : WellAnswered known seen es) :
    WellAnswered known seen (e :: es) := by
  have heq := answers_cons_of_none (answer_of_ne he) es
  refine ⟨?_, heq ▸ h.known, heq ▸ h.fresh, heq ▸ h.once⟩
  intro e' he' htype
  rcases List.mem_cons.1 he' with rfl | hmem
  · exact absurd htype he
  · exact h.paired e' hmem htype

lemma WellAnswered.cons_answer {ref : UUID} (he : answer e = some ref) (hknown : known ref = true)
    (hseen : ref ∉ seen) (h : WellAnswered known (ref :: seen) es) :
    WellAnswered known seen (e :: es) := by
  have heq := answers_cons_of_some he es
  refine ⟨fun e' he' htype => ?_, fun r hr => ?_, fun r hr => ?_, ?_⟩
  · rcases List.mem_cons.1 he' with rfl | hmem
    · rw [(Option.ite_none_right_eq_some.1 he).2]
      rfl
    · exact h.paired e' hmem htype
  · rcases List.mem_cons.1 (heq ▸ hr) with rfl | hmem
    · exact hknown
    · exact h.known r hmem
  · rcases List.mem_cons.1 (heq ▸ hr) with rfl | hmem
    · exact hseen
    · exact fun hr => h.fresh r hmem (List.mem_cons_of_mem ref hr)
  · rw [heq, List.nodup_cons]
    exact ⟨fun hr => h.fresh ref hr List.mem_cons_self, h.once⟩

/-- The loop keeps a part of the history, everything that is no tool result, and tool results
that answer each tool use once. The tool uses it has seen are those answered by what it
keeps. -/
theorem keepPaired_spec (known : UUID → Bool) (seen : List UUID) (es : List (Event Payload)) :
    (keepPaired known seen es).1.Sublist es ∧
      others (keepPaired known seen es).1 = others es ∧
      WellAnswered known seen (keepPaired known seen es).1 ∧
      ∀ ref, ref ∈ (keepPaired known seen es).2 ↔
        ref ∈ seen ∨ ref ∈ answers (keepPaired known seen es).1 := by
  induction es generalizing seen with
  | nil =>
    show List.Sublist [] [] ∧ others [] = others [] ∧ WellAnswered known seen [] ∧
      ∀ ref, ref ∈ seen ↔ ref ∈ seen ∨ ref ∈ answers []
    exact ⟨List.Sublist.slnil, rfl, wellAnswered_nil, fun ref => by simp⟩
  | cons e es ih =>
    rcases keepPaired_cons known seen e es with
      ⟨htype, heq⟩ | ⟨htype, heq⟩ | ⟨ref, hans, hknown, hseen, heq⟩ <;> rw [heq]
    · obtain ⟨hsub, hothers, hwell, hmem⟩ := ih seen
      refine ⟨hsub.cons_cons e, ?_, hwell.cons_other htype, ?_⟩
      · simpa [others, htype] using hothers
      · rw [answers_cons_of_none (answer_of_ne htype)]
        exact hmem
    · obtain ⟨hsub, hothers, hwell, hmem⟩ := ih seen
      exact ⟨hsub.cons e, by simpa [others, htype] using hothers, hwell, hmem⟩
    · obtain ⟨hsub, hothers, hwell, hmem⟩ := ih (ref :: seen)
      have htype : e.type = .toolResult := (Option.ite_none_right_eq_some.1 hans).1
      refine ⟨hsub.cons_cons e, ?_, hwell.cons_answer hans hknown hseen, fun r => ?_⟩
      · simpa [others, htype] using hothers
      · rw [hmem, answers_cons_of_some hans, List.mem_cons, List.mem_cons]
        tauto

/-- A history whose tool results are in order is kept as it is. -/
lemma keepPaired_of_wellAnswered (h : WellAnswered known seen es) :
    (keepPaired known seen es).1 = es := by
  induction es generalizing seen with
  | nil => rfl
  | cons e es ih =>
    by_cases htype : e.type = .toolResult
    · -- the first result is kept, and the rest is in order also when it counts as seen
      obtain ⟨ref, hpair⟩ := Option.isSome_iff_exists.1 (h.paired e List.mem_cons_self htype)
      have hans : answer e = some ref := (if_pos htype).trans hpair
      have heq := answers_cons_of_some hans es
      have hmem : ref ∈ answers (e :: es) := heq ▸ List.mem_cons_self
      rw [keepPaired_answer hans (h.known ref hmem) (h.fresh ref hmem)]
      have honce := List.nodup_cons.1 (heq ▸ h.once)
      have htail {r : UUID} (hr : r ∈ answers es) : r ∈ answers (e :: es) :=
        heq ▸ List.mem_cons_of_mem ref hr
      refine congrArg (e :: ·) (ih ⟨fun e' he' => h.paired e' (List.mem_cons_of_mem e he'),
        fun r hr => h.known r (htail hr), fun r hr hseen => ?_, honce.2⟩)
      rcases List.mem_cons.1 hseen with rfl | hseen
      · exact honce.1 hr
      · exact h.fresh r (htail hr) hseen
    · rw [keepPaired_other htype]
      have heq := answers_cons_of_none (answer_of_ne htype) es
      exact congrArg (e :: ·) (ih ⟨fun e' he' => h.paired e' (List.mem_cons_of_mem e he'),
        heq ▸ h.known, heq ▸ h.fresh, heq ▸ h.once⟩)

end Loop

/-! ### The pass -/

lemma toolUseOf_isSome (history : List (Event Payload)) (ref : UUID) :
    (toolUseOf history ref).isSome = true ↔ ref ∈ (toolUses history).map Event.eventID := by
  simp [toolUseOf]

lemma mem_toolUses : e ∈ toolUses history ↔ e ∈ history ∧ e.type = .toolUse := by
  simp [toolUses]

/-- The tool uses that have no result once hygiene is through. -/
def unanswered (history : List (Event Payload)) : List UUID :=
  ((toolUses history).map Event.eventID).dedup.filter (· ∉ answers (hygiene history).1)

lemma mem_unanswered :
    ref ∈ unanswered history ↔
      ref ∈ (toolUses history).map Event.eventID ∧ ref ∉ answers (hygiene history).1 := by
  simp [unanswered]

section

variable (history : List (Event Payload))

lemma toolUses_others : toolUses (others history) = toolUses history := by
  unfold toolUses others
  rw [List.filter_filter]
  refine List.filter_congr fun e _ => ?_
  by_cases htype : e.type = .toolUse <;> simp [htype]

lemma hygiene_kept :
    WellAnswered (fun ref => (toolUseOf history ref).isSome) [] (hygiene history).1 :=
  (keepPaired_spec _ [] history).2.2.1

lemma hygiene_sublist : (hygiene history).1.Sublist history :=
  (keepPaired_spec _ [] history).1

lemma hygiene_others : others (hygiene history).1 = others history :=
  (keepPaired_spec _ [] history).2.1

lemma nodup_unanswered : (unanswered history).Nodup :=
  (List.nodup_dedup _).filter _

/-- A result is synthesized for each of them, in the order of their identifiers. -/
lemma synthetic_perm :
    ((hygiene history).2.map SyntheticResult.pairRef).Perm (unanswered history) := by
  have hseen (ref : UUID) : ref ∈ (keepPaired (fun ref => (toolUseOf history ref).isSome) []
      history).2 ↔ ref ∈ answers (hygiene history).1 := by
    show _ ↔ ref ∈ answers (keepPaired (fun ref => (toolUseOf history ref).isSome) [] history).1
    simpa using (keepPaired_spec (fun ref => (toolUseOf history ref).isSome) [] history).2.2.2 ref
  have hfilter : ((toolUses history).map Event.eventID).dedup.filter (fun ref =>
      ref ∉ (keepPaired (fun ref => (toolUseOf history ref).isSome) [] history).2) =
      unanswered history := by
    exact List.filter_congr fun ref _ => decide_eq_decide.2 (not_congr (hseen ref))
  have hsort : (hygiene history).2.Perm ((unanswered history).map (synthesize history)) := by
    rw [← hfilter]
    exact List.perm_insertionSort _ _
  have hmap := hsort.map SyntheticResult.pairRef
  rwa [List.map_map, show SyntheticResult.pairRef ∘ synthesize history = id from rfl,
    List.map_id] at hmap

end

/-! ### The law -/

/-- `results` has one tool result for each synthesized one, in order. -/
abbrev Backfills (synth : List SyntheticResult) (results : List (Event Payload)) : Prop :=
  List.Forall₂ (fun s e => e.type = .toolResult ∧ e.pairRef = some s.pairRef) synth results

/-- What hygiene is for: `kept` and `synth` are what it makes of `history`. -/
structure Lawful (history kept : List (Event Payload)) (synth : List SyntheticResult) : Prop where
  sublist : kept.Sublist history
  others_eq : others kept = others history
  one_result : ∀ tu ∈ toolUses history,
    (kept.countP fun e => e.type = .toolResult ∧ e.pairRef = some tu.eventID) +
      (synth.countP fun s => s.pairRef = tu.eventID) = 1
  valid : ∀ before e after, kept = before ++ e :: after → e.type = .toolResult →
    ∃ ref, e.pairRef = some ref ∧ (∃ tu ∈ toolUses history, tu.eventID = ref) ∧
      ∀ e' ∈ before, e'.type = .toolResult → e'.pairRef ≠ some ref
  /-- With the synthesized results appended, a second pass finds nothing to do. -/
  stable : ∀ results, Backfills synth results → hygiene (kept ++ results) = (kept ++ results, [])

lemma countP_result (history : List (Event Payload)) (ref : UUID) :
    (history.countP fun e => e.type = .toolResult ∧ e.pairRef = some ref) =
      (answers history).count ref := by
  unfold answers
  rw [List.count_filterMap]
  refine List.countP_congr fun e _ => ?_
  by_cases htype : e.type = .toolResult <;> simp [answer, htype]

lemma hygiene_one_result (history : List (Event Payload))
    (href : ref ∈ (toolUses history).map Event.eventID) :
    ((hygiene history).1.countP fun e => e.type = .toolResult ∧ e.pairRef = some ref) +
      ((hygiene history).2.countP fun s => s.pairRef = ref) = 1 := by
  have hsynth : ((hygiene history).2.countP fun s => s.pairRef = ref) =
      (unanswered history).count ref := by
    rw [← (synthetic_perm history).count_eq, List.count, List.countP_map]
    exact List.countP_congr fun s _ => by simp
  rw [countP_result, hsynth]
  by_cases hans : ref ∈ answers (hygiene history).1
  · rw [List.count_eq_one_of_mem (hygiene_kept history).once hans,
      List.count_eq_zero_of_not_mem fun h => (mem_unanswered.1 h).2 hans]
  · rw [List.count_eq_zero_of_not_mem hans,
      List.count_eq_one_of_mem (nodup_unanswered history) (mem_unanswered.2 ⟨href, hans⟩)]

lemma Backfills.answers_eq {synth : List SyntheticResult} (h : Backfills synth results) :
    answers results = synth.map SyntheticResult.pairRef := by
  induction h with
  | nil => rfl
  | cons hse _ ih =>
    rw [answers_cons_of_some ((if_pos hse.1).trans hse.2), ih]
    rfl

lemma Backfills.paired {synth : List SyntheticResult} (h : Backfills synth results) :
    ∀ e ∈ results, e.type = .toolResult ∧ e.pairRef.isSome := by
  induction h with
  | nil => exact fun e he => nomatch he
  | cons hse _ ih =>
    intro e he
    rcases List.mem_cons.1 he with rfl | hmem
    · exact ⟨hse.1, hse.2 ▸ rfl⟩
    · exact ih e hmem

section

variable (h : Backfills (hygiene history).2 results)
include h

lemma wellAnswered_repaired :
    WellAnswered (fun ref => (toolUseOf history ref).isSome) []
      ((hygiene history).1 ++ results) := by
  have hkept := hygiene_kept history
  have hanswers := h.answers_eq
  have hmem (ref : UUID) : ref ∈ answers results ↔ ref ∈ unanswered history := by
    rw [hanswers, (synthetic_perm history).mem_iff]
  refine ⟨fun e he htype => ?_, fun ref href => ?_, fun ref _ => List.not_mem_nil, ?_⟩
  · rcases List.mem_append.1 he with hold | hnew
    · exact hkept.paired e hold htype
    · exact (h.paired e hnew).2
  · rcases List.mem_append.1 (answers_append .. ▸ href) with hold | hnew
    · exact hkept.known ref hold
    · exact (toolUseOf_isSome history ref).2 (mem_unanswered.1 ((hmem ref).1 hnew)).1
  · rw [answers_append, List.nodup_append']
    refine ⟨hkept.once, ?_, fun ref hold hnew => ?_⟩
    · rw [hanswers, (synthetic_perm history).nodup_iff]
      exact nodup_unanswered history
    · exact (mem_unanswered.1 ((hmem ref).1 hnew)).2 hold

lemma toolUses_repaired : toolUses ((hygiene history).1 ++ results) = toolUses history := by
  have hresults : toolUses results = [] := by
    refine List.filter_eq_nil_iff.2 fun e he => ?_
    simp [(h.paired e he).1]
  have hsplit : toolUses ((hygiene history).1 ++ results) =
      toolUses (hygiene history).1 ++ toolUses results := List.filter_append ..
  rw [hsplit, hresults, List.append_nil, ← toolUses_others, hygiene_others, toolUses_others]

/-- A second pass over a repaired history finds nothing to do. -/
lemma hygiene_repaired :
    hygiene ((hygiene history).1 ++ results) = ((hygiene history).1 ++ results, []) := by
  have huses := toolUses_repaired h
  have hknown (ref : UUID) : toolUseOf ((hygiene history).1 ++ results) ref =
      toolUseOf history ref := by
    unfold toolUseOf
    rw [huses]
  have hkept : (hygiene ((hygiene history).1 ++ results)).1 = (hygiene history).1 ++ results := by
    show (keepPaired (fun ref => (toolUseOf ((hygiene history).1 ++ results) ref).isSome) []
      ((hygiene history).1 ++ results)).1 = _
    simp only [hknown]
    exact keepPaired_of_wellAnswered (wellAnswered_repaired h)
  -- every tool use is answered, by what was kept or by what was appended
  have hnone : unanswered ((hygiene history).1 ++ results) = [] := by
    refine List.eq_nil_iff_forall_not_mem.2 fun ref href => ?_
    obtain ⟨huse, hopen⟩ := mem_unanswered.1 href
    rw [huses] at huse
    rw [hkept, answers_append, List.mem_append, not_or] at hopen
    refine hopen.2 ?_
    rw [h.answers_eq, (synthetic_perm history).mem_iff, mem_unanswered]
    exact ⟨huse, hopen.1⟩
  have hsynth : (hygiene ((hygiene history).1 ++ results)).2 = [] := by
    have hperm := synthetic_perm ((hygiene history).1 ++ results)
    rw [hnone] at hperm
    exact List.map_eq_nil_iff.1 hperm.eq_nil
  exact Prod.ext hkept hsynth

end

/-- For every history, hygiene keeps a part of it with everything but tool results in it,
answers each tool use exactly once, and has nothing to do for a history it has repaired. -/
theorem hygiene_lawful (history : List (Event Payload)) :
    Lawful history (hygiene history).1 (hygiene history).2 where
  sublist := hygiene_sublist history
  others_eq := hygiene_others history
  one_result tu htu := hygiene_one_result history (List.mem_map_of_mem htu)
  valid before e after hsplit htype := by
    have hkept := hygiene_kept history
    rw [hsplit] at hkept
    obtain ⟨ref, hpair⟩ := Option.isSome_iff_exists.1 (hkept.paired e (by simp) htype)
    have hans : answer e = some ref := (if_pos htype).trans hpair
    have honce := hkept.once
    rw [answers_append, answers_cons_of_some hans] at honce
    refine ⟨ref, hpair, ?_, fun e' he' htype' hpair' => ?_⟩
    · have hknown : (toolUseOf history ref).isSome = true := by
        refine hkept.known ref ?_
        rw [answers_append, answers_cons_of_some hans]
        simp
      obtain ⟨tu, htu, hid⟩ := List.mem_map.1 ((toolUseOf_isSome history ref).1 hknown)
      exact ⟨tu, htu, hid⟩
    · have hmem : ref ∈ answers before :=
        List.mem_filterMap.2 ⟨e', he', (if_pos htype').trans hpair'⟩
      exact List.disjoint_of_nodup_append honce hmem List.mem_cons_self
  stable _ h := hygiene_repaired h

end NexusAgent.Kernel
