import NexusAgent.Plan.Validate

/-!
# Bounded loops

Whether every cycle of an accepted plan passes through a loop step. The check of the source
looks at a cycle only where a transition leads back to the path of its depth-first walk. A
cycle that enters a part of the graph that the walk has left is never looked at, so that
`skippedCycle` is accepted although one of its cycles has no loop step.
-/

namespace NexusAgent.Plans

/-! ### Cycles -/

/-- A cycle of the transition graph, as the list of its steps with the first one repeated at
the end. -/
structure IsCycle (p : Plan) (cycle : List String) : Prop where
  chain : cycle.IsChain fun a b => b ∈ p.next a
  closed : cycle.head? = cycle.getLast?
  length : 2 ≤ cycle.length

def PassesLoop (p : Plan) (cycle : List String) : Prop :=
  ∃ id ∈ cycle, (p.stepByID id).any (·.kind = .loop)

instance (p : Plan) (cycle : List String) : Decidable (PassesLoop p cycle) := by
  unfold PassesLoop
  infer_instance

/-- What the check for bounded loops promises: every cycle of an accepted plan passes through
a loop step, and the check refuses a plan only for a cycle without one that the start leads
to. -/
structure BoundedLoops (p : Plan) : Prop where
  accepted : validate p = .ok () → ∀ cycle, IsCycle p cycle → PassesLoop p cycle
  refused : ∀ seen e, p.steps.foldlM declare [] = .ok seen →
    validateBoundedLoops p seen = .error e →
      ∃ cycle, IsCycle p cycle ∧ (∀ id ∈ cycle, p.Reachable id) ∧ ¬ PassesLoop p cycle

/-- A transition back along the first path to its source closes a cycle without a loop
step. -/
def LoopFreeEdgeBack (p : Plan) : Prop :=
  ∃ P w, DepthFirst.EdgeBack p.next p.startStep P w ∧ ¬ PassesLoop p (cycleOf P w)

/-- A cycle without a loop step has a transition that crosses between first paths. -/
def LoopFreeCrossing (p : Plan) : Prop :=
  ∃ cycle u w, IsCycle p cycle ∧ ¬ PassesLoop p cycle ∧ [u, w] <:+: cycle ∧
    DepthFirst.Crosses p.next p.startStep u w

variable {p : Plan} {P : List String} {w : String}

lemma IsCycle.exists_next {cycle : List String} (h : IsCycle p cycle) {u : String}
    (hu : u ∈ cycle) : ∃ w ∈ cycle, w ∈ p.next u ∧ [u, w] <:+: cycle := by
  -- a step before the end has the one after it; the last step is the first one again
  have hbefore {A B : List String} {a w : String} (hsplit : cycle = A ++ a :: w :: B) :
      ∃ w ∈ cycle, w ∈ p.next a ∧ [a, w] <:+: cycle := by
    refine ⟨w, by rw [hsplit]; simp, ?_, A, B, by rw [hsplit]; simp⟩
    have hchain := h.chain
    rw [hsplit] at hchain
    exact (List.isChain_cons_cons.1 (List.isChain_append.1 hchain).2.1).1
  obtain ⟨A, B, hsplit⟩ := List.append_of_mem hu
  cases B with
  | cons w B => exact hbefore hsplit
  | nil =>
    have hclosed := h.closed
    have hlength := h.length
    rw [hsplit, List.getLast?_append_cons, List.getLast?_singleton] at hclosed
    cases cycle with
    | nil => simp at hlength
    | cons a rest =>
      cases rest with
      | nil => simp at hlength
      | cons w rest =>
        rw [← hsplit, List.head?_cons] at hclosed
        cases hclosed
        exact hbefore (A := []) rfl

/-! ### The cycles that the check looks at -/

/-- The cycle stays on the path. -/
lemma mem_cycleOf {id : String} (hw : w ∈ P) (hid : id ∈ cycleOf P w) :
    id ∈ P := by
  rcases List.mem_append.1 hid with hid | hid
  · exact List.mem_of_mem_drop hid
  · rw [List.mem_singleton.1 hid]
    exact hw

/-- The end of a path from a step of it on. -/
lemma drop_idxOf (hw : w ∈ P) :
    ∃ rest, P.drop (P.idxOf w) = w :: rest := by
  have hlt := List.idxOf_lt_length_iff.2 hw
  refine ⟨P.drop (P.idxOf w + 1), ?_⟩
  rw [List.drop_eq_getElem_cons hlt, List.getElem_idxOf]

lemma isCycle_cycleOf (hback : DepthFirst.EdgeBack p.next p.startStep P w) :
    IsCycle p (cycleOf P w) ∧ ∀ id ∈ cycleOf P w, p.Reachable id := by
  obtain ⟨u, hfirst, hedge, hmem⟩ := hback
  obtain ⟨rest, hrest⟩ := drop_idxOf hmem
  have hlast : (P.drop (P.idxOf w)).getLast? = some u := by
    rw [List.getLast?_drop, if_neg (Nat.not_le.2 (List.idxOf_lt_length_iff.2 hmem))]
    exact hfirst.simple.last
  refine ⟨⟨?_, ?_, ?_⟩, fun id hid => ?_⟩
  · refine List.isChain_append.2
      ⟨hfirst.simple.chain.drop _, List.isChain_singleton w, fun a ha b hb => ?_⟩
    obtain rfl : u = a := Option.mem_unique hlast ha
    obtain rfl : w = b := by simpa using hb
    exact hedge
  · rw [cycleOf, hrest, List.getLast?_concat]
    rfl
  · simp [cycleOf, hrest]
  · exact hfirst.simple.reachable_of_mem (mem_cycleOf hmem hid)

lemma checkCycle_ok (hnodup : (p.steps.map (·.id)).Nodup) :
    checkCycle p.steps.reverse P w = .ok () ↔ PassesLoop p (cycleOf P w) := by
  unfold checkCycle cycleHasLoopStep PassesLoop Plan.stepByID
  simp only [require_ok, List.any_eq_true, get_reverse hnodup]

/-- The check for bounded loops passes if and only if no transition back along a first path
closes a cycle without a loop step. -/
lemma validateBoundedLoops_ok (hnodup : (p.steps.map (·.id)).Nodup) :
    validateBoundedLoops p p.steps.reverse = .ok () ↔ ¬ LoopFreeEdgeBack p := by
  have hU := next_mem_vertices p
  have hstart := startStep_mem_vertices p
  have hfuel := card_vertices_le p
  unfold validateBoundedLoops
  rw [next_reverse hnodup]
  cases hsearch : DepthFirst.search p.next (checkCycle p.steps.reverse)
      (Seen.size p.steps.reverse) p.startStep [] fun _ => .white with
  | error e =>
    obtain ⟨P, w, hback, hcheck⟩ := DepthFirst.search_error hU hstart hfuel hsearch
    have hfree : LoopFreeEdgeBack p := by
      refine ⟨P, w, hback, fun hloop => ?_⟩
      rw [(checkCycle_ok hnodup).2 hloop] at hcheck
      nomatch hcheck
    exact ⟨fun h => (nomatch h), fun h => absurd hfree h⟩
  | ok color =>
    refine ⟨fun _ => ?_, fun _ => rfl⟩
    rintro ⟨P, w, hback, hfree⟩
    exact hfree ((checkCycle_ok hnodup).1 (DepthFirst.search_ok hU hstart hfuel hsearch hback))

/-! ### When the check does what it promises -/

lemma loopFreeEdgeBack_of_cycle (hvalid : OtherwiseValid p) {cycle : List String}
    (hcycle : IsCycle p cycle) (hfree : ¬ PassesLoop p cycle)
    (hcross : ∀ u w, [u, w] <:+: cycle → ¬ DepthFirst.Crosses p.next p.startStep u w) :
    LoopFreeEdgeBack p := by
  have hnext : ∀ u, u ∈ cycle →
      ∃ w ∈ p.next u, w ∈ cycle ∧ ¬ DepthFirst.Crosses p.next p.startStep u w := by
    intro u hu
    obtain ⟨w, hw, hedge, hinfix⟩ := hcycle.exists_next hu
    exact ⟨w, hedge, hw, hcross u w hinfix⟩
  obtain ⟨c, hc⟩ : ∃ c, c ∈ cycle :=
    List.exists_mem_of_length_pos (Nat.lt_of_lt_of_le Nat.zero_lt_two hcycle.length)
  have hreach : p.Reachable c := by
    -- a step with a transition is declared
    obtain ⟨w, hw, -⟩ := hnext c hc
    unfold Plan.next at hw
    cases hstep : p.stepByID c with
    | none => simp [hstep] at hw
    | some s =>
      have hs : s ∈ p.steps := List.mem_of_find?_eq_some hstep
      have hid : s.id = c := by simpa using List.find?_some hstep
      rw [← hid]
      exact hvalid.reachable s hs
  obtain ⟨A, Q, w, hback, hw, hQ⟩ := DepthFirst.exists_edge_back (next_mem_vertices p)
    (startStep_mem_vertices p) hnext hc hreach
  refine ⟨A ++ Q, w, hback, ?_⟩
  rintro ⟨id, hid, hkind⟩
  refine hfree ⟨id, hQ id ?_, hkind⟩
  obtain ⟨u, hfirst, -⟩ := hback
  have hnot : w ∉ A := fun hA => (List.nodup_append.1 hfirst.simple.nodup).2.2 w hA w hw rfl
  have hdrop : (A ++ Q).drop ((A ++ Q).idxOf w) = Q.drop (Q.idxOf w) := by
    rw [List.idxOf_append_of_notMem hnot, List.drop_append, List.drop_of_length_le (by omega),
      List.nil_append, Nat.add_sub_cancel_left]
  rw [cycleOf, hdrop] at hid
  exact mem_cycleOf hw hid

/-- The check for bounded loops does what it promises for a plan if and only if the plan
breaks another rule, or some transition back along a first path closes a cycle without a loop
step, or no cycle without a loop step has a transition that crosses between first paths. -/
theorem boundedLoops_iff (p : Plan) :
    BoundedLoops p ↔ ¬ OtherwiseValid p ∨ LoopFreeEdgeBack p ∨ ¬ LoopFreeCrossing p := by
  constructor
  · intro h
    by_cases hvalid : OtherwiseValid p
    · by_cases hback : LoopFreeEdgeBack p
      · exact .inr (.inl hback)
      · refine .inr (.inr ?_)
        rintro ⟨cycle, u, w, hcycle, hfree, -⟩
        have hok := validate_ok.2 ⟨hvalid, (validateBoundedLoops_ok hvalid.nodup).2 hback⟩
        exact hfree (h.accepted hok cycle hcycle)
    · exact .inl hvalid
  · intro h
    refine ⟨fun hok cycle hcycle => ?_, fun seen e hseen herror => ?_⟩
    · obtain ⟨hvalid, hloops⟩ := validate_ok.1 hok
      have hback := (validateBoundedLoops_ok hvalid.nodup).1 hloops
      rcases h with h | h | h
      · exact absurd hvalid h
      · exact absurd h hback
      · by_contra hfree
        refine hback (loopFreeEdgeBack_of_cycle hvalid hcycle hfree fun u w hinfix hcross => ?_)
        exact h ⟨cycle, u, w, hcycle, hfree, hinfix, hcross⟩
    · obtain ⟨-, hnodup, -, rfl⟩ := foldlM_declare.1 hseen
      rw [List.append_nil] at herror
      have hback : LoopFreeEdgeBack p := by
        by_contra hback
        rw [(validateBoundedLoops_ok hnodup).2 hback] at herror
        nomatch herror
      obtain ⟨P, w, hedge, hfree⟩ := hback
      obtain ⟨hcycle, hreach⟩ := isCycle_cycleOf hedge
      exact ⟨cycleOf P w, hcycle, hreach, hfree⟩

/-! ### A cycle that is never looked at -/

/-- A step without a configuration of interest. -/
def branch (id : String) (targets : List String) : Step :=
  { id := id, kind := .condition, condition := some {}
    transitions := targets.map fun target =>
      { target, when? := some (.mk .eq "next" (.stringValue target) [] [] []) } }

/-- Two ways from `a` to `c`, one of them through a loop step, and a way back. -/
def skippedCycle : Plan :=
  { startStep := "a"
    steps := [
      branch "a" ["retry", "b"],
      { branch "retry" ["c"] with kind := .loop, condition := none
                                  loop := some { maxIterations := 3 } },
      branch "b" ["c"],
      branch "c" ["a"]] }

/-- The walk comes to `c` through the loop step first, and is through with it when the way
around the loop step leads to it. -/
theorem skippedCycle_accepted :
    validate skippedCycle = .ok () ∧ IsCycle skippedCycle ["a", "b", "c", "a"] ∧
      ¬ PassesLoop skippedCycle ["a", "b", "c", "a"] := by
  refine ⟨by decide +kernel, ⟨by decide, by decide, by decide⟩, by decide⟩

end NexusAgent.Plans
