import Mathlib.Data.List.Infix

/-!
# Fields that end at a mark

A text in which fields stand one after another, each ended by a mark: a word that begins with a
symbol which the rest of the word does not have, such as a line break and the name of the next
field. Nothing keeps a field from having a mark of its own, so that a text can be read in several
ways.
-/

variable {α : Type} {a : α}

/-- A word that begins with the symbol `a`, and has it nowhere else. -/
def IsMark (a : α) (m : List α) : Prop := ∃ w, m = a :: w ∧ a ∉ w

/-- A text that begins with a mark, and in which another mark begins further on, has the second
one after the first. -/
theorem IsMark.cut {m m' r r' s : List α} (hm : IsMark a m) (hm' : IsMark a m') (hs : s ≠ [])
    (h : m ++ r = s ++ (m' ++ r')) : ∃ s', s = m ++ s' ∧ r = s' ++ (m' ++ r') := by
  obtain ⟨w, rfl, hw⟩ := hm
  obtain ⟨w', rfl, -⟩ := hm'
  rcases List.append_eq_append_iff.1 h with ⟨s', rfl, hr⟩ | ⟨t, ht, htail⟩
  · exact ⟨s', rfl, hr⟩
  -- the second mark begins within the first, or right after it
  cases t with
  | nil =>
    rw [List.append_nil] at ht
    exact ⟨[], by rw [ht, List.append_nil], htail.symm⟩
  | cons b t =>
    obtain ⟨c, s, rfl⟩ := List.exists_cons_of_ne_nil hs
    obtain ⟨-, rfl⟩ : a = c ∧ w = s ++ b :: t := by simpa using ht
    obtain ⟨rfl, -⟩ : a = b ∧ w' ++ r' = t ++ r := by simpa using htail
    exact absurd (List.mem_append_right s List.mem_cons_self) hw

lemma IsMark.field_le {m x r x' r' : List α} (hm : IsMark a m) (hx : ¬ m <:+: x)
    (h : x ++ (m ++ r) = x' ++ (m ++ r')) : ∃ s, x' = x ++ s ∧ m ++ r = s ++ (m ++ r') := by
  rcases List.append_eq_append_iff.1 h with ⟨s, rfl, hr⟩ | ⟨s, rfl, hr⟩
  · exact ⟨s, rfl, hr⟩
  cases hs : s with
  | nil =>
    rw [hs] at hr
    exact ⟨[], by simp, hr.symm⟩
  | cons b t =>
    -- otherwise the mark stands within the field
    obtain ⟨s', rfl, -⟩ := hm.cut hm (by simp [hs]) hr
    exact absurd ⟨x', s', by rw [List.append_assoc]⟩ hx

/-- A text of three fields, between which two marks stand, is read in one way only if the first
mark is neither in the first nor in the second field, and the second mark neither in the second
nor in the third. -/
theorem fields_unique {m n x y z x' y' z' : List α} (hm : IsMark a m) (hn : IsMark a n)
    (hmn : ¬ m <+: n) (hnm : ¬ n <+: m) (hx : ¬ m <:+: x) (hy : ¬ m <:+: y) (hy' : ¬ n <:+: y)
    (hz : ¬ n <:+: z)
    (h : x ++ (m ++ (y ++ (n ++ z))) = x' ++ (m ++ (y' ++ (n ++ z')))) :
    x = x' ∧ y = y' ∧ z = z' := by
  have hne {r r' : List α} : m ++ r ≠ n ++ r' := by
    intro heq
    rcases List.prefix_or_prefix_of_prefix ⟨r, rfl⟩ ⟨r', heq.symm⟩ with hpre | hpre
    · exact hmn hpre
    · exact hnm hpre
  obtain ⟨s, rfl, hs⟩ := hm.field_le hx h
  by_cases hs0 : s = []
  · subst hs0
    have hyz : y ++ (n ++ z) = y' ++ (n ++ z') := List.append_cancel_left hs
    obtain ⟨t, rfl, ht⟩ := hn.field_le hy' hyz
    by_cases ht0 : t = []
    · subst ht0
      have hz' : z = z' := List.append_cancel_left ht
      simp [hz']
    · obtain ⟨t', -, rfl⟩ := hn.cut hn ht0 ht
      exact absurd ⟨t', z', by rw [List.append_assoc]⟩ hz
  -- the first mark would stand once more further on: in the second field or in the third
  · obtain ⟨s', -, hrest⟩ := hm.cut hm hs0 hs
    rcases List.append_eq_append_iff.1 hrest with ⟨t, -, ht⟩ | ⟨t, rfl, ht⟩
    · by_cases ht0 : t = []
      · subst ht0
        exact absurd ht.symm hne
      · obtain ⟨t', -, rfl⟩ := hn.cut hm ht0 ht
        exact absurd ⟨t' ++ (m ++ y'), z', by simp only [List.append_assoc]⟩ hz
    · by_cases ht0 : t = []
      · subst ht0
        exact absurd ht hne
      · obtain ⟨t', rfl, -⟩ := hm.cut hn ht0 ht
        exact absurd ⟨s', t', by rw [List.append_assoc]⟩ hy

/-- A text is read in one way at the last place of a symbol. -/
theorem last_unique {x y u v : List α} (hu : a ∉ u) (hv : a ∉ v)
    (h : x ++ a :: u = y ++ a :: v) : x = y ∧ u = v := by
  rcases List.append_eq_append_iff.1 h with ⟨t, rfl, ht⟩ | ⟨t, rfl, ht⟩
  all_goals cases t with
    | nil => simp_all
    | cons b t =>
      obtain ⟨-, hmem⟩ := List.cons_eq_cons.1 ht
      simp_all

/-- Parts that each end with a symbol, after such a symbol, are parts that each begin with it. -/
lemma cons_flatMap_append {β : Type} (a : α) (f : β → List α) (l : List β) (r : List α) :
    a :: (l.flatMap (fun b => f b ++ [a]) ++ r) = l.flatMap (fun b => a :: f b) ++ a :: r := by
  induction l with
  | nil => rfl
  | cons b l ih => simp [← ih]
