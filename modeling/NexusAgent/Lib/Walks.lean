import Mathlib.Data.Finset.Card
import Mathlib.Data.List.Chain
import Mathlib.Data.List.TakeWhile
import Mathlib.Tactic.Ring

/-!
# Walks whose cycles are marked

A walk is a list in which each element is related to the next. If every cycle has a marked element,
a walk meets no element twice between two marked ones, so that its length is bounded by how often it
is at a marked element.

- `Walk.nodup_of_unmarked`: a walk without marked elements repeats nothing.
-/

namespace Walk

universe u

variable {α : Type u} {r : α → α → Prop} {marked : α → Bool}

/-- Every closed walk has a marked element. -/
def CyclesMarked (r : α → α → Prop) (marked : α → Bool) : Prop :=
  ∀ c : List α, c.IsChain r → c.head? = c.getLast? → 2 ≤ c.length → ∃ a ∈ c, marked a = true

variable (hcycles : CyclesMarked r marked) {l : List α}
include hcycles

theorem nodup_of_unmarked (hchain : l.IsChain r)
    (hl : ∀ a ∈ l, marked a = false) : l.Nodup := by
  induction l with
  | nil => exact List.nodup_nil
  | cons a l ih =>
    refine List.nodup_cons.2 ⟨fun ha => ?_, ih hchain.tail fun b hb => hl b (.tail a hb)⟩
    -- the walk from `a` back to `a` would be a cycle without a mark
    obtain ⟨p, q, rfl⟩ := List.append_of_mem ha
    have hsplit : a :: (p ++ a :: q) = (a :: (p ++ [a])) ++ q := by simp
    rw [hsplit] at hchain hl
    obtain ⟨b, hb, hmarked⟩ := hcycles (a :: (p ++ [a])) (List.isChain_append.1 hchain).1
      (by rw [← List.cons_append, List.getLast?_concat]; rfl) (by simp)
    rw [hl b (List.mem_append_left q hb)] at hmarked
    nomatch hmarked

variable [DecidableEq α] {V : Finset α}

/-- Up to its first marked element a walk is at most as long as there are unmarked ones. -/
lemma length_takeWhile_le (hchain : l.IsChain r) (hV : ∀ a ∈ l, a ∈ V) :
    (l.takeWhile fun a => !marked a).length ≤ (V.filter fun a => marked a = false).card := by
  have hunmarked : ∀ a ∈ l.takeWhile fun a => !marked a, marked a = false := fun a ha => by
    simpa using List.mem_takeWhile_imp ha
  have hbegin : (l.takeWhile fun a => !marked a).IsChain r := by
    rw [← List.takeWhile_append_dropWhile (p := fun a => !marked a) (l := l)] at hchain
    exact (List.isChain_append.1 hchain).1
  have hnodup := nodup_of_unmarked hcycles hbegin hunmarked
  rw [← List.toFinset_card_of_nodup hnodup]
  refine Finset.card_le_card fun a ha => ?_
  rw [List.mem_toFinset] at ha
  exact Finset.mem_filter.2 ⟨hV a (List.takeWhile_subset _ ha), hunmarked a ha⟩

/-- A walk is as long as its part up to the first marked element, and for each marked element at
most that element and all unmarked ones. -/
lemma length_le_takeWhile (hchain : l.IsChain r) (hV : ∀ a ∈ l, a ∈ V) :
    l.length ≤ (l.takeWhile fun a => !marked a).length +
      l.countP marked * (1 + (V.filter fun a => marked a = false).card) := by
  induction l with
  | nil => exact Nat.zero_le _
  | cons a l ih =>
    have hV' : ∀ b ∈ l, b ∈ V := fun b hb => hV b (.tail a hb)
    have hrest := ih hchain.tail hV'
    cases ha : marked a with
    | false =>
      rw [List.takeWhile_cons_of_pos (by simp [ha]), List.countP_cons_of_neg (by simp [ha])]
      simp only [List.length_cons]
      omega
    | true =>
      -- the part after `a` begins anew
      have hbegin := length_takeWhile_le hcycles hchain.tail hV'
      rw [List.takeWhile_cons_of_neg (by simp [ha]), List.countP_cons_of_pos ha, Nat.add_mul,
        Nat.one_mul]
      simp only [List.length_cons, List.length_nil]
      simp only [List.tail_cons] at hbegin
      omega

/-- A walk over `n` elements that is at marked ones `k` times has at most `(1 + k) * n`
elements. -/
theorem length_le (hchain : l.IsChain r) (hV : ∀ a ∈ l, a ∈ V) :
    l.length ≤ (1 + l.countP marked) * V.card := by
  have hbegin := length_takeWhile_le hcycles hchain hV
  have hlength := length_le_takeWhile hcycles hchain hV
  obtain hnone | ⟨a, ha, hmarked⟩ := (l.countP marked).eq_zero_or_pos.imp id List.countP_pos_iff.1
  · rw [hnone, Nat.zero_mul, Nat.add_zero] at hlength
    rw [hnone, Nat.add_zero, Nat.one_mul]
    exact (hlength.trans hbegin).trans (Finset.card_filter_le _ _)
  · -- with a marked element there is one unmarked element less
    have hcard : (V.filter fun a => marked a = false).card + 1 ≤ V.card := by
      refine Finset.card_lt_card ((Finset.filter_ssubset).2 ⟨a, hV a ha, ?_⟩)
      simp [hmarked]
    calc l.length
        ≤ V.card + l.countP marked * V.card := by
          refine hlength.trans (Nat.add_le_add ?_ (Nat.mul_le_mul_left _ ?_)) <;> omega
      _ = (1 + l.countP marked) * V.card := by ring

end Walk
