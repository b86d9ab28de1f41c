import Mathlib.Logic.Relation

/-!
# Step machines

A component that takes atomic steps is a partial function `step : S → A → Option S`:
`step s a` is the state after action `a`, or `none` when `a` cannot be taken in `s`.
Interleavings of several parties are sequences of actions, so that a property of every
interleaving is a property of every state the machine reaches.

Some results only hold in runs whose steps meet a condition on the state they are taken
from; `Machine.ReachesBy G` restricts reachability to those runs, and `Machine.Reaches`
is the unrestricted case.

- `Machine.ReachesBy.of_runBy`: an executable run whose steps all meet a decidable condition
  is a restricted run, which is how concrete runs are built.
-/

universe u v

/-- A step of a part of the state, if there is such a part. -/
lemma Option.bind_map_some {α β γ : Type*} {x : Option α} {f : α → Option β} {g : α → β → γ}
    {c : γ} (h : (x.bind fun a => (f a).map (g a)) = some c) :
    ∃ a b, x = some a ∧ f a = some b ∧ g a b = c := by
  obtain ⟨a, ha, h⟩ := Option.bind_eq_some_iff.1 h
  obtain ⟨b, hb, h⟩ := Option.map_eq_some_iff.1 h
  exact ⟨a, b, ha, hb, h⟩

/-- What holds of the entries of a list and of one more. -/
lemma List.forall_mem_snoc {α : Type*} {p : α → Prop} {l : List α} {a : α} (h : ∀ b ∈ l, p b)
    (ha : p a) : ∀ b ∈ l ++ [a], p b :=
  List.forall_mem_append.2 ⟨h, List.forall_mem_singleton.2 ha⟩

/-- A component with state `S` that takes the actions `A`, one atomic step at a time. -/
structure Machine (S : Type u) (A : Type v) where
  /-- The state after an action, or `none` when the action cannot be taken. -/
  step : S → A → Option S

namespace Machine

variable {S : Type u} {A : Type v} (M : Machine S A)

/-- The state after the actions `as`, or `none` when one of them cannot be taken. -/
def run (s : S) : List A → Option S
  | [] => some s
  | a :: as => (M.step s a).bind fun s' => run s' as

/-- The state after the actions `as`, taken only while the test `g` admits each of them. -/
def runBy (g : S → A → Bool) (s : S) : List A → Option S
  | [] => some s
  | a :: as => if g s a then (M.step s a).bind fun s' => runBy g s' as else none

/-- `M.ReachesBy G s s'`: some run from `s` to `s'` takes only steps admitted by `G`. -/
inductive ReachesBy (G : S → A → Prop) (s : S) : S → Prop
  | refl : ReachesBy G s s
  | tail {t t' : S} {a : A} :
      ReachesBy G s t → G t a → M.step t a = some t' → ReachesBy G s t'

/-- `M.Reaches s s'`: some run leads from `s` to `s'`. -/
def Reaches (s s' : S) : Prop := M.ReachesBy (fun _ _ => True) s s'

variable {M}

variable {P : S → Prop} {g : S → A → Bool}

/-- The executable `run` leads to a state that passes a test. -/
lemma exists_run {s : S} [DecidablePred P] {as : List A}
    (h : (M.run s as).any (fun t => decide (P t)) = true) : ∃ t, M.run s as = some t ∧ P t := by
  obtain ⟨t, hrun, ht⟩ := (Option.any_eq_true _ _).1 h
  exact ⟨t, hrun, of_decide_eq_true ht⟩

/-- The executable `runBy` leads to a state that passes a test. -/
lemma exists_runBy {s : S} [DecidablePred P] {as : List A}
    (h : (M.runBy g s as).any (fun t => decide (P t)) = true) :
    ∃ t, M.runBy g s as = some t ∧ P t := by
  obtain ⟨t, hrun, ht⟩ := (Option.any_eq_true _ _).1 h
  exact ⟨t, hrun, of_decide_eq_true ht⟩

namespace ReachesBy

variable {G : S → A → Prop} {s t u : S}

/-- A predicate that every admitted step keeps holds in every state reached from one where
it holds. -/
theorem invariant {I : S → Prop} (h : M.ReachesBy G s t) (hinit : I s)
    (hstep : ∀ t a t', I t → G t a → M.step t a = some t' → I t') : I t := by
  induction h with
  | refl => exact hinit
  | tail _ hg hst ih => exact hstep _ _ _ ih hg hst

lemma trans (h : M.ReachesBy G s t) (h' : M.ReachesBy G t u) : M.ReachesBy G s u := by
  induction h' with
  | refl => exact h
  | tail _ hg hst ih => exact ih.tail hg hst

/-- Weakening the condition keeps every run. -/
lemma mono {G' : S → A → Prop} (h : M.ReachesBy G s t) (hG : ∀ s a, G s a → G' s a) :
    M.ReachesBy G' s t := by
  induction h with
  | refl => exact .refl
  | tail _ hg hst ih => exact ih.tail (hG _ _ hg) hst

/-- A restricted run taken by the executable `runBy`. -/
lemma of_runBy [∀ s a, Decidable (G s a)] : ∀ (as : List A) {s t : S},
    M.runBy (fun s a => decide (G s a)) s as = some t → M.ReachesBy G s t
  | [], s, t, h => by
    obtain rfl : s = t := by simpa [runBy] using h
    exact .refl
  | a :: as, s, t, h => by
    by_cases hga : G s a
    · simp only [runBy, hga, decide_true, if_true, Option.bind_eq_some_iff] at h
      obtain ⟨s', hst, hrest⟩ := h
      exact (ReachesBy.refl.tail hga hst).trans (of_runBy as hrest)
    · simp [runBy, hga] at h

/-- A restricted run taken by the executable `runBy` to a state that passes a test. -/
lemma exists_of_runBy [∀ s a, Decidable (G s a)] [DecidablePred P] (as : List A)
    (h : (M.runBy (fun s a => decide (G s a)) s as).any (fun t => decide (P t)) = true) :
    ∃ t, M.ReachesBy G s t ∧ P t := by
  obtain ⟨t, hrun, ht⟩ := exists_runBy h
  exact ⟨t, of_runBy as hrun, ht⟩

/-- The same, where more follows for the state. -/
lemma exists_of_runBy_imp [∀ s a, Decidable (G s a)] {R : S → Prop} (as : List A) (P : S → Prop)
    [DecidablePred P]
    (h : (M.runBy (fun s a => decide (G s a)) s as).any (fun t => decide (P t)) = true)
    (himp : ∀ t, M.ReachesBy G s t → P t → R t) : ∃ t, M.ReachesBy G s t ∧ R t := by
  obtain ⟨t, hreach, ht⟩ := exists_of_runBy as h
  exact ⟨t, hreach, himp t hreach ht⟩

end ReachesBy

namespace Reaches

variable {s t u : S}

/-- A predicate that every step keeps holds in every state reached from one where it
holds. -/
theorem invariant {I : S → Prop} (h : M.Reaches s t) (hinit : I s)
    (hstep : ∀ t a t', I t → M.step t a = some t' → I t') : I t :=
  ReachesBy.invariant h hinit fun t a t' hI _ hst => hstep t a t' hI hst

theorem of_run : ∀ (as : List A) {s t : S}, M.run s as = some t → M.Reaches s t
  | [], s, t, h => by
    obtain rfl : s = t := by simpa [run] using h
    exact ReachesBy.refl
  | a :: as, s, t, h => by
    simp only [run, Option.bind_eq_some_iff] at h
    obtain ⟨s', hst, hrest⟩ := h
    exact (ReachesBy.refl.tail trivial hst).trans (of_run as hrest)

/-- A run taken by the executable `run` to a state that passes a test. -/
lemma exists_of_run [DecidablePred P] (as : List A)
    (h : (M.run s as).any (fun t => decide (P t)) = true) : ∃ t, M.Reaches s t ∧ P t := by
  obtain ⟨t, hrun, ht⟩ := exists_run h
  exact ⟨t, of_run as hrun, ht⟩

/-- The same, where more follows for the state. -/
lemma exists_of_run_imp {R : S → Prop} (as : List A) (P : S → Prop) [DecidablePred P]
    (h : (M.run s as).any (fun t => decide (P t)) = true)
    (himp : ∀ t, M.Reaches s t → P t → R t) : ∃ t, M.Reaches s t ∧ R t := by
  obtain ⟨t, hreach, ht⟩ := exists_of_run as h
  exact ⟨t, hreach, himp t hreach ht⟩

end Reaches

end Machine
