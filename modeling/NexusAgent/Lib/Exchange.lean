import Mathlib.Data.List.Count
import Mathlib.Data.List.Induction
import Mathlib.Data.List.Nodup

/-!
# Calls and their answers

A conversation in which calls are made and answered is kept twice: in a journal, which names
each call by a reference of its own, and on the wire, where a call and its answer carry an
identifier that the caller chose. The wire is read off the journal by looking up, for each
answer, the identifier of the call it refers to.

- `Orderly`: journals in which references and identifiers of calls are new, and in which each
  answer refers to an earlier call that has none yet.
- `Orderly.wellPaired`: on the wire of an orderly journal whose calls are all answered, every
  call has exactly one answer, and no answer comes before its call.
-/

/-- An entry of the journal. -/
inductive Exchange (R I : Type)
  | asked (ref : R) (id : I)
  | answered (ref : R)
  deriving DecidableEq

/-- What is seen on the wire. -/
inductive Signal (I : Type)
  | call (id : I)
  | reply (id : I)
  deriving DecidableEq

/-- Every call has exactly one reply, and every reply comes after its call. -/
structure WellPaired {I : Type} [DecidableEq I] (signals : List (Signal I)) : Prop where
  one_reply : ∀ id, .call id ∈ signals → signals.count (.reply id) = 1
  call_before : ∀ before id after, signals = before ++ .reply id :: after → .call id ∈ before

namespace Exchange

variable {R I : Type} [DecidableEq R]

/-- The wire as far as it has been read off, and the identifiers of the calls so far. -/
structure Reading (R I : Type) where
  ids : R → Option I := fun _ => none
  signals : List (Signal I) := []

/-- One entry of the journal. The answer of an unknown call carries the identifier `zero`. -/
def Reading.next (zero : I) (s : Reading R I) : Exchange R I → Reading R I
  | .asked ref id =>
    { ids := Function.update s.ids ref (some id), signals := s.signals ++ [.call id] }
  | .answered ref => { s with signals := s.signals ++ [.reply ((s.ids ref).getD zero)] }

def read (zero : I) (l : List (Exchange R I)) : Reading R I := l.foldl (Reading.next zero) {}

def wire (zero : I) (l : List (Exchange R I)) : List (Signal I) := (read zero l).signals

/-- The identifier of each call of a journal. -/
def idOf (zero : I) (l : List (Exchange R I)) : R → Option I := (read zero l).ids

variable {zero : I} {l : List (Exchange R I)} {ref : R} {id : I}

@[simp]
lemma wire_nil : wire zero ([] : List (Exchange R I)) = [] := rfl

@[simp]
lemma idOf_nil : idOf zero ([] : List (Exchange R I)) ref = none := rfl

lemma read_snoc (x : Exchange R I) : read zero (l ++ [x]) = (read zero l).next zero x := by
  unfold read
  rw [List.foldl_append]
  rfl

@[simp]
lemma wire_asked : wire zero (l ++ [.asked ref id]) = wire zero l ++ [.call id] := by
  unfold wire
  rw [read_snoc]
  rfl

@[simp]
lemma wire_answered :
    wire zero (l ++ [.answered ref]) = wire zero l ++ [.reply ((idOf zero l ref).getD zero)] := by
  unfold wire
  rw [read_snoc]
  rfl

@[simp]
lemma idOf_asked :
    idOf zero (l ++ [.asked ref id]) = Function.update (idOf zero l) ref (some id) := by
  unfold idOf
  rw [read_snoc]
  rfl

@[simp]
lemma idOf_answered : idOf zero (l ++ [.answered ref]) = idOf zero l := by
  unfold idOf
  rw [read_snoc]
  rfl

inductive Orderly : List (Exchange R I) → Prop
  | nil : Orderly []
  | ask {l : List (Exchange R I)} {ref : R} {id : I} (h : Orderly l)
      (href : ∀ id', .asked ref id' ∉ l) (hid : ∀ ref', .asked ref' id ∉ l) :
      Orderly (l ++ [.asked ref id])
  | answer {l : List (Exchange R I)} {ref : R} {id : I} (h : Orderly l)
      (hasked : .asked ref id ∈ l) (hopen : .answered ref ∉ l) : Orderly (l ++ [.answered ref])

lemma call_mem_wire : .call id ∈ wire zero l ↔ ∃ ref, .asked ref id ∈ l := by
  induction l using List.reverseRecOn with
  | nil => simp
  | append_singleton l x ih =>
    cases x with
    | asked ref' id' =>
      rw [wire_asked, List.mem_append, ih]
      constructor
      · rintro (⟨ref, href⟩ | hnew)
        · exact ⟨ref, List.mem_append_left _ href⟩
        · obtain rfl : id = id' := by simpa using hnew
          exact ⟨ref', List.mem_append_right _ List.mem_cons_self⟩
      · rintro ⟨ref, href⟩
        rcases List.mem_append.1 href with hold | hnew
        · exact .inl ⟨ref, hold⟩
        · obtain ⟨rfl, rfl⟩ := Exchange.asked.inj (List.mem_singleton.1 hnew)
          exact .inr List.mem_cons_self
    | answered ref' =>
      rw [wire_answered, List.mem_append, ih]
      simp

section

variable (h : Orderly l)
include h

omit [DecidableEq R] in
lemma Orderly.asked_of_answered (hans : .answered ref ∈ l) :
    ∃ id, .asked ref id ∈ l := by
  induction h with
  | nil => nomatch hans
  | ask _ _ _ ih =>
    obtain ⟨id, hid⟩ := ih (by simpa using hans)
    exact ⟨id, List.mem_append_left _ hid⟩
  | answer _ hasked _ ih =>
    rcases List.mem_append.1 hans with hold | hnew
    · obtain ⟨id, hid⟩ := ih hold
      exact ⟨id, List.mem_append_left _ hid⟩
    · obtain rfl : ref = _ := by simpa using hnew
      exact ⟨_, List.mem_append_left _ hasked⟩

/-- In an orderly journal a reference stands for one call. -/
lemma Orderly.idOf_eq_some : idOf zero l ref = some id ↔ .asked ref id ∈ l := by
  induction h with
  | nil => simp
  | @ask l ref' id' _ href _ ih =>
    rw [idOf_asked, List.mem_append, List.mem_singleton]
    by_cases heq : ref = ref'
    · subst heq
      rw [Function.update_self]
      constructor
      · intro hid
        exact .inr (Option.some.inj hid ▸ rfl)
      · rintro (hold | hnew)
        · exact absurd hold (href id)
        · rw [(Exchange.asked.inj hnew).2]
    · rw [Function.update_of_ne heq, ih]
      constructor
      · exact .inl
      · rintro (hold | hnew)
        · exact hold
        · exact absurd (Exchange.asked.inj hnew).1 heq
  | answer _ _ _ ih =>
    rw [idOf_answered, ih]
    simp

lemma Orderly.id_unique {id' : I} (hid : .asked ref id ∈ l)
    (hid' : .asked ref id' ∈ l) : id = id' := by
  have hlookup : idOf id l ref = some id := h.idOf_eq_some.2 hid
  exact Option.some.inj (hlookup.symm.trans (h.idOf_eq_some.2 hid'))

omit [DecidableEq R] in
/-- In an orderly journal an identifier stands for one call. -/
lemma Orderly.ref_unique {ref' : R} (hr : .asked ref id ∈ l)
    (hr' : .asked ref' id ∈ l) : ref = ref' := by
  induction h with
  | nil => nomatch hr
  | ask _ _ hid ih =>
    rcases List.mem_append.1 hr with hold | hnew <;> rcases List.mem_append.1 hr' with hold' | hnew'
    · exact ih hold hold'
    · obtain ⟨rfl, rfl⟩ := Exchange.asked.inj (List.mem_singleton.1 hnew')
      exact absurd hold (hid ref)
    · obtain ⟨rfl, rfl⟩ := Exchange.asked.inj (List.mem_singleton.1 hnew)
      exact absurd hold' (hid ref')
    · obtain ⟨rfl, rfl⟩ := Exchange.asked.inj (List.mem_singleton.1 hnew)
      exact (Exchange.asked.inj (List.mem_singleton.1 hnew')).1.symm
  | answer _ _ _ ih => exact ih (by simpa using hr) (by simpa using hr')

lemma Orderly.getD_idOf (hasked : .asked ref id ∈ l) :
    (idOf zero l ref).getD zero = id := by
  rw [h.idOf_eq_some.2 hasked]
  rfl

lemma Orderly.asked_of_reply (hreply : .reply id ∈ wire zero l) :
    ∃ ref, .asked ref id ∈ l := by
  induction h with
  | nil => nomatch hreply
  | ask _ _ _ ih =>
    obtain ⟨ref, href⟩ := ih (by simpa using hreply)
    exact ⟨ref, List.mem_append_left _ href⟩
  | answer hl hasked _ ih =>
    rw [wire_answered, hl.getD_idOf hasked, List.mem_append] at hreply
    rcases hreply with hold | hnew
    · obtain ⟨ref, href⟩ := ih hold
      exact ⟨ref, List.mem_append_left _ href⟩
    · obtain rfl : id = _ := by simpa using hnew
      exact ⟨_, List.mem_append_left _ hasked⟩

lemma Orderly.call_before {before after : List (Signal I)}
    (hsplit : wire zero l = before ++ .reply id :: after) : .call id ∈ before := by
  induction h generalizing after with
  | nil => simp at hsplit
  | @ask l ref' id' hl _ _ ih =>
    rw [wire_asked] at hsplit
    rcases List.eq_nil_or_concat after with rfl | ⟨after', x, rfl⟩
    · obtain ⟨-, hlast⟩ := List.append_inj' hsplit rfl
      simp at hlast
    · rw [List.concat_eq_append, ← List.cons_append, ← List.append_assoc] at hsplit
      exact ih (List.append_inj' hsplit rfl).1
  | @answer l ref' id' hl hasked _ ih =>
    rw [wire_answered, hl.getD_idOf hasked] at hsplit
    rcases List.eq_nil_or_concat after with rfl | ⟨after', x, rfl⟩
    · -- the reply is the last signal, and its call is in the journal before it
      obtain ⟨rfl, hlast⟩ := List.append_inj' hsplit rfl
      obtain rfl : id' = id := by simpa using hlast
      exact call_mem_wire.2 ⟨ref', hasked⟩
    · rw [List.concat_eq_append, ← List.cons_append, ← List.append_assoc] at hsplit
      exact ih (List.append_inj' hsplit rfl).1

variable [DecidableEq I]

lemma Orderly.count_reply (hasked : .asked ref id ∈ l) :
    (wire zero l).count (.reply id) = if .answered ref ∈ l then 1 else 0 := by
  induction h with
  | nil => nomatch hasked
  | @ask l ref' id' hl href hid ih =>
    rw [wire_asked, List.count_append, List.count_singleton, if_neg (by simp)]
    rcases List.mem_append.1 hasked with hold | hnew
    · rw [ih hold]
      simp
    · -- the call is new: nothing answers it, and no reply carries its identifier
      obtain ⟨rfl, rfl⟩ := Exchange.asked.inj (List.mem_singleton.1 hnew)
      have hreply : Signal.reply id ∉ wire zero l := by
        intro hmem
        obtain ⟨ref', hmem'⟩ := hl.asked_of_reply hmem
        exact hid ref' hmem'
      have hans : Exchange.answered ref ∉ l := by
        intro hmem
        obtain ⟨id', hmem'⟩ := hl.asked_of_answered hmem
        exact href id' hmem'
      rw [List.count_eq_zero_of_not_mem hreply, if_neg (by simpa using hans)]
  | @answer l ref' id' hl hasked' hopen ih =>
    have hold : Exchange.asked ref id ∈ l := by simpa using hasked
    rw [wire_answered, hl.getD_idOf hasked', List.count_append, ih hold, List.count_singleton]
    by_cases heq : ref = ref'
    · subst heq
      obtain rfl : id' = id := hl.id_unique hasked' hold
      rw [if_neg hopen]
      simp
    · have hne : id' ≠ id := by
        rintro rfl
        exact heq (hl.ref_unique hold hasked')
      simp [heq, hne]

theorem Orderly.wellPaired
    (hall : ∀ ref id, .asked ref id ∈ l → .answered ref ∈ l) : WellPaired (wire zero l) where
  one_reply id hcall := by
    obtain ⟨ref, hasked⟩ := call_mem_wire.1 hcall
    rw [h.count_reply hasked, if_pos (hall ref id hasked)]
  call_before _ _ _ hsplit := h.call_before hsplit

end

end Exchange
