import Mathlib.Data.List.Sort
import Mathlib.Data.Prod.Lex

/-!
# Rows in the order of a key

The `ORDER BY` of a query: the rows of a table, sorted by a key of a linearly ordered type. A
table is a list in no particular order, so that what is proved about a query is proved for every
order of its rows.
-/

section

variable {α κ : Type} [LinearOrder κ]

def orderBy (key : α → κ) (rows : List α) : List α :=
  rows.insertionSort fun a b => key a ≤ key b

variable {key : α → κ} {rows : List α}

lemma orderBy_perm (key : α → κ) (rows : List α) : (orderBy key rows).Perm rows :=
  List.perm_insertionSort _ rows

@[simp]
lemma mem_orderBy {a : α} : a ∈ orderBy key rows ↔ a ∈ rows := (orderBy_perm key rows).mem_iff

lemma pairwise_orderBy (key : α → κ) (rows : List α) :
    (orderBy key rows).Pairwise fun a b => key a ≤ key b := by
  have : Std.Total fun a b : α => key a ≤ key b := ⟨fun a b => le_total (key a) (key b)⟩
  have : IsTrans α fun a b => key a ≤ key b := ⟨fun _ _ _ => le_trans⟩
  exact List.pairwise_insertionSort _ rows

lemma orderBy_eq_self (h : rows.Pairwise fun a b => key a ≤ key b) : orderBy key rows = rows :=
  h.insertionSort_eq

/-- Distinct keys: the sorted rows are strictly sorted. -/
lemma pairwise_orderBy_lt (h : (rows.map key).Nodup) :
    (orderBy key rows).Pairwise fun a b => key a < key b := by
  have hnodup : (orderBy key rows).Pairwise fun a b => key a ≠ key b :=
    List.pairwise_map.1 (((orderBy_perm key rows).map key).nodup_iff.2 h)
  exact (pairwise_orderBy key rows).imp₂ (fun _ _ => lt_of_le_of_ne) hnodup

/-- A row that is inserted before the first one it may precede, and then picked or not. -/
private lemma filter_orderedInsert {p : α → Bool} {a : α}
    (h : rows.Pairwise fun b b' => key b ≤ key b') :
    (rows.orderedInsert (fun b b' => key b ≤ key b') a).filter p =
      if p a then (rows.filter p).orderedInsert (fun b b' => key b ≤ key b') a
      else rows.filter p := by
  induction rows with
  | nil => cases hp : p a <;> simp [hp]
  | cons b rows ih =>
    obtain ⟨hb, hrows⟩ := List.pairwise_cons.1 h
    by_cases hab : key a ≤ key b
    · rw [List.orderedInsert_cons, if_pos hab]
      cases hp : p a with
      | false => simp [hp]
      | true =>
        -- every row that is picked comes after `a`
        have hle : ∀ b' ∈ (b :: rows).filter p, key a ≤ key b' := by
          intro b' hb'
          rcases List.mem_cons.1 (List.mem_of_mem_filter hb') with rfl | hmem
          · exact hab
          · exact hab.trans (hb b' hmem)
        rw [List.filter_cons_of_pos hp, if_pos rfl]
        cases hfilter : (b :: rows).filter p with
        | nil => rfl
        | cons b' picked =>
          rw [List.orderedInsert_cons, if_pos (hle b' (hfilter ▸ List.mem_cons_self))]
    · rw [List.orderedInsert_cons, if_neg hab]
      cases hpb : p b with
      | false =>
        rw [List.filter_cons_of_neg (by simp [hpb]), List.filter_cons_of_neg (by simp [hpb]),
          ih hrows]
      | true =>
        rw [List.filter_cons_of_pos hpb, List.filter_cons_of_pos hpb, ih hrows]
        split
        · rw [List.orderedInsert_cons, if_neg hab]
        · rfl

/-- Picking commutes with sorting. -/
theorem filter_orderBy_comm (p : α → Bool) :
    (orderBy key rows).filter p = orderBy key (rows.filter p) := by
  induction rows with
  | nil => rfl
  | cons a rows ih =>
    have hinsert := filter_orderedInsert (p := p) (a := a) (pairwise_orderBy key rows)
    rw [ih] at hinsert
    refine hinsert.trans ?_
    cases hp : p a with
    | false => rw [List.filter_cons_of_neg (by simp [hp])]; rfl
    | true => rw [List.filter_cons_of_pos hp]; rfl

/-- Picking from the sorted rows, where the picked rows are in order already. -/
lemma filter_orderBy {p : α → Bool} (h : (rows.filter p).Pairwise fun a b => key a < key b) :
    (orderBy key rows).filter p = rows.filter p := by
  rw [filter_orderBy_comm, orderBy_eq_self (h.imp le_of_lt)]

/-- The row with the greatest key: `ORDER BY key DESC LIMIT 1`. -/
def lastBy (key : α → κ) (rows : List α) : Option α := (orderBy key rows).getLast?

lemma mem_of_lastBy_eq_some {a : α} (h : lastBy key rows = some a) : a ∈ rows :=
  mem_orderBy.1 (List.mem_of_getLast? h)

lemma lastBy_eq_getLast? (h : rows.Pairwise fun a b => key a ≤ key b) :
    lastBy key rows = rows.getLast? := by
  rw [lastBy, orderBy_eq_self h]

/-- Rows that are sorted by a pair are sorted by its first component. -/
theorem pairwise_fst_of_lex {ι : Type} [LinearOrder ι] {f : α → κ} {g : α → ι}
    (h : rows.Pairwise fun a b => toLex (f a, g a) ≤ toLex (f b, g b)) :
    rows.Pairwise fun a b => f a ≤ f b :=
  h.imp fun hab => (Prod.Lex.toLex_le_toLex.1 hab).elim le_of_lt fun heq => heq.1.le

end
