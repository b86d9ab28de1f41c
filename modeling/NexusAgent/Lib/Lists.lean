import Mathlib.Algebra.BigOperators.Group.List.Basic
import Mathlib.Tactic.Abel

/-!
# Lists with one entry changed

A list of parties is changed one party at a time. A party at a place splits the list into the
parties before it and those after it (`List.exists_split`), which are the others; a property of
all parties is one of this party and of the others (`List.forall_mem_split`), and replacing or
removing the party changes a sum over all of them accordingly.
-/

namespace List

section

variable {α : Type*} {l before after : List α} {i : ℕ} {a : α}

/-- An entry splits the list; replacing and removing it keep the two parts. -/
theorem exists_split (h : l[i]? = some a) :
    ∃ before after, l = before ++ a :: after ∧ before.length = i ∧
      l.eraseIdx i = before ++ after ∧ ∀ b, l.set i b = before ++ b :: after := by
  obtain ⟨hi, rfl⟩ := getElem?_eq_some_iff.1 h
  refine ⟨l.take i, l.drop (i + 1), ?_, ?_, eraseIdx_eq_take_drop_succ l i, fun b => ?_⟩
  · rw [getElem_cons_drop, take_append_drop]
  · exact length_take_of_le (Nat.le_of_lt hi)
  · rw [set_eq_take_append_cons_drop, if_pos hi]

/-- One of the entries and the others. -/
theorem forall_mem_split {P : α → Prop} :
    (∀ b ∈ before ++ a :: after, P b) ↔ P a ∧ ∀ b ∈ before ++ after, P b := by
  simp only [forall_mem_append, forall_mem_cons]
  tauto

/-- Replacing one entry changes a count by the two entries. -/
lemma countP_set_add (h : l[i]? = some a) (b : α) (p : α → Bool) :
    (l.set i b).countP p + (if p a then 1 else 0) = l.countP p + if p b then 1 else 0 := by
  obtain ⟨before, after, rfl, -, -, hset⟩ := exists_split h
  rw [hset]
  simp only [countP_append, countP_cons]
  omega

end

/-- Replacing one entry changes a sum over the list by the two entries. -/
lemma sum_map_set_add {α M : Type*} [AddCommMonoid M] {l : List α} {i : ℕ} {a : α}
    (hi : l[i]? = some a) (a' : α) (f : α → M) :
    ((l.set i a').map f).sum + f a = (l.map f).sum + f a' := by
  obtain ⟨before, after, rfl, -, -, hset⟩ := exists_split hi
  rw [hset]
  simp only [map_append, map_cons, sum_append, sum_cons]
  abel

section

variable {α M : Type*} [AddCommGroup M] {l : List α} {i : ℕ} {a : α}

/-- Replacing one entry changes a sum over the list by the difference of the two entries. -/
lemma sum_map_set (hi : l[i]? = some a) (a' : α) (f : α → M) :
    ((l.set i a').map f).sum = (l.map f).sum - f a + f a' := by
  rw [sub_add_eq_add_sub, eq_sub_iff_add_eq]
  exact sum_map_set_add hi a' f

/-- Removing one entry takes it off a sum over the list. -/
lemma sum_map_eraseIdx (hi : l[i]? = some a) (f : α → M) :
    ((l.eraseIdx i).map f).sum = (l.map f).sum - f a := by
  obtain ⟨before, after, rfl, -, herase, -⟩ := exists_split hi
  rw [herase]
  simp only [map_append, map_cons, sum_append, sum_cons]
  abel

end

end List
