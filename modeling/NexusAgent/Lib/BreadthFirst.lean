import Mathlib.Data.Finset.Card

/-!
# Breadth-first search

The vertices of a graph that can be reached from a start, by a queue of the vertices whose
successors have not been looked at yet. The loop is bounded by a number of rounds; as many as
the graph has vertices are enough.
-/

namespace BreadthFirst

universe u

variable {V : Type u} [DecidableEq V] (next : V → List V)

/-- The vertices found so far and the queue, after a look at one more successor. -/
def discover (s : List V × List V) (w : V) : List V × List V :=
  if w ∈ s.1 then s else (s.1 ++ [w], s.2 ++ [w])

/-- At most `n` rounds of the search, from the vertices found so far and the queue. -/
def explore : ℕ → List V → List V → List V
  | 0, visited, _ => visited
  | _ + 1, visited, [] => visited
  | n + 1, visited, v :: queue =>
    let (visited', queue') := (next v).foldl discover (visited, queue)
    explore n visited' queue'

variable {next}

/-! ### One look -/

lemma mem_discover {s : List V × List V} {v w : V} (h : v ∈ s.1) : v ∈ (discover s w).1 := by
  unfold discover
  split_ifs
  · exact h
  · exact List.mem_append_left _ h

lemma mem_discover_self (s : List V × List V) (w : V) : w ∈ (discover s w).1 := by
  unfold discover
  split_ifs with h
  · exact h
  · exact List.mem_append_right _ (List.mem_singleton.2 rfl)

lemma mem_foldl_discover {s : List V × List V} {ws : List V} {v : V}
    (h : v ∈ s.1 ∨ v ∈ ws) : v ∈ (ws.foldl discover s).1 := by
  induction ws generalizing s with
  | nil =>
    rcases h with h | h
    · exact h
    · exact absurd h (by simp)
  | cons w ws ih =>
    rcases h with h | h
    · exact ih (.inl (mem_discover h))
    · rcases List.mem_cons.1 h with rfl | h
      · exact ih (.inl (mem_discover_self s v))
      · exact ih (.inr h)

/-! ### All rounds -/

/-- What holds during the search, with `done` the vertices that have left the queue: the
vertices found are those and the ones in the queue, without a repetition, and each can be
reached. -/
structure Inv (next : V → List V) (start : V) (U : Finset V) (done : List V)
    (s : List V × List V) : Prop where
  split : s.1 = done ++ s.2
  nodup : s.1.Nodup
  subset : ∀ v ∈ s.1, v ∈ U
  sound : ∀ v ∈ s.1, Relation.ReflTransGen (fun a b => b ∈ next a) start v

variable {start : V} {U : Finset V} {done : List V} {s : List V × List V}

lemma Inv.discover (hinv : Inv next start U done s) {w : V} (hw : w ∈ U)
    (hreach : Relation.ReflTransGen (fun a b => b ∈ next a) start w) :
    Inv next start U done (discover s w) := by
  unfold BreadthFirst.discover
  split_ifs with hmem
  · exact hinv
  refine ⟨by rw [hinv.split]; simp, ?_,
    List.forall_mem_append.2 ⟨hinv.subset, List.forall_mem_singleton.2 hw⟩,
    List.forall_mem_append.2 ⟨hinv.sound, List.forall_mem_singleton.2 hreach⟩⟩
  refine List.nodup_append.2 ⟨hinv.nodup, List.nodup_singleton w, ?_⟩
  intro a ha b hb heq
  rw [List.mem_singleton.1 hb] at heq
  exact hmem (heq ▸ ha)

lemma Inv.foldl_discover (hinv : Inv next start U done s) {ws : List V}
    (hws : ∀ w ∈ ws, w ∈ U ∧ Relation.ReflTransGen (fun a b => b ∈ next a) start w) :
    Inv next start U done (ws.foldl BreadthFirst.discover s) := by
  induction ws generalizing s with
  | nil => exact hinv
  | cons w ws ih =>
    obtain ⟨hw, hreach⟩ := hws w List.mem_cons_self
    exact ih (hinv.discover hw hreach) fun w' h => hws w' (List.mem_cons_of_mem _ h)

/-- When every vertex has left the queue, the queue is empty. -/
lemma Inv.queue_eq_nil (hinv : Inv next start U done s) (h : U.card ≤ done.length) :
    s.2 = [] := by
  have hcard : s.1.length ≤ U.card := by
    rw [← List.toFinset_card_of_nodup hinv.nodup]
    exact Finset.card_le_card fun v hv => hinv.subset v (List.mem_toFinset.1 hv)
  have hlength : s.1.length = done.length + s.2.length := by
    rw [hinv.split, List.length_append]
  exact List.eq_nil_of_length_eq_zero (by omega)

/-- A search whose rounds suffice keeps what it has found, finds only what can be reached,
and finds the successors of everything it finds. -/
lemma explore_spec (hU : ∀ u ∈ U, ∀ w ∈ next u, w ∈ U) (n : ℕ)
    (hinv : Inv next start U done s) (hdone : ∀ v ∈ done, ∀ w ∈ next v, w ∈ s.1)
    (hfuel : U.card ≤ n + done.length) :
    (∀ v ∈ s.1, v ∈ explore next n s.1 s.2) ∧
      (∀ v ∈ explore next n s.1 s.2,
        Relation.ReflTransGen (fun a b => b ∈ next a) start v) ∧
      ∀ v ∈ explore next n s.1 s.2, ∀ w ∈ next v, w ∈ explore next n s.1 s.2 := by
  -- a search with an empty queue has looked at everything it has found
  have hend {done : List V} {s : List V × List V} (hinv : Inv next start U done s)
      (hdone : ∀ v ∈ done, ∀ w ∈ next v, w ∈ s.1) (hempty : s.2 = []) :
      ∀ v ∈ s.1, ∀ w ∈ next v, w ∈ s.1 := by
    intro v hv
    rw [hinv.split, hempty, List.append_nil] at hv
    exact hdone v hv
  induction n generalizing done s with
  | zero =>
    have hempty := hinv.queue_eq_nil (by omega)
    exact ⟨fun v hv => hv, hinv.sound, hend hinv hdone hempty⟩
  | succ n ih =>
    obtain ⟨visited, queue⟩ := s
    cases queue with
    | nil => exact ⟨fun v hv => hv, hinv.sound, hend hinv hdone rfl⟩
    | cons v queue =>
      have hsplit : visited = done ++ v :: queue := hinv.split
      have hv : v ∈ visited := by
        rw [hsplit]
        exact List.mem_append_right _ List.mem_cons_self
      have hpopped : Inv next start U (done ++ [v]) (visited, queue) :=
        ⟨by rw [hsplit]; simp, hinv.nodup, hinv.subset, hinv.sound⟩
      have hlooked : Inv next start U (done ++ [v])
          ((next v).foldl BreadthFirst.discover (visited, queue)) :=
        hpopped.foldl_discover fun w hw =>
          ⟨hU v (hinv.subset v hv) w hw, (hinv.sound v hv).tail hw⟩
      have hdone' : ∀ u ∈ done ++ [v], ∀ w ∈ next u,
          w ∈ ((next v).foldl BreadthFirst.discover (visited, queue)).1 := by
        intro u hu w hw
        rcases List.mem_append.1 hu with hu | hu
        · exact mem_foldl_discover (.inl (hdone u hu w hw))
        · rw [List.mem_singleton.1 hu] at hw
          exact mem_foldl_discover (.inr hw)
      obtain ⟨hkept, hsound, hclosed⟩ := ih hlooked hdone'
        (by rw [List.length_append, List.length_singleton]; omega)
      exact ⟨fun u hu => hkept u (mem_foldl_discover (.inl hu)), hsound, hclosed⟩

/-- With as many rounds as there are vertices, the search from the start finds exactly the
vertices that can be reached from it. -/
theorem mem_explore (hU : ∀ u ∈ U, ∀ w ∈ next u, w ∈ U) (hstart : start ∈ U) {n : ℕ}
    (hfuel : U.card ≤ n) {v : V} :
    v ∈ explore next n [start] [start] ↔
      Relation.ReflTransGen (fun a b => b ∈ next a) start v := by
  have hinv : Inv next start U [] ([start], [start]) := by
    refine ⟨rfl, List.nodup_singleton start, fun u hu => ?_, fun u hu => ?_⟩
    · rw [List.mem_singleton.1 hu]
      exact hstart
    · rw [List.mem_singleton.1 hu]
  obtain ⟨hkept, hsound, hclosed⟩ := explore_spec hU n hinv (by simp) (by simpa)
  refine ⟨hsound v, fun h => ?_⟩
  induction h with
  | refl => exact hkept start (List.mem_singleton.2 rfl)
  | tail _ hedge ih => exact hclosed _ ih _ hedge

end BreadthFirst
