import NexusAgent.Hooks.Dispatcher

/-!
# What a chain of hooks comes to

`Dispatch` runs its hooks one after another and combines their answers. `answersFrom` collects
these answers, the latest first, and `dispatchFrom_eq` says that the outcome of a dispatch is what
they combine to. The comment on `combine` says that an accepted rewrite is carried forward
whichever outcome wins; but a stricter answer replaces the outcome so far, rewrite included.
-/

namespace NexusAgent.Hooks

open Permissions

/-- What answers combine to. -/
def combined : List Outcome → Outcome
  | [] => { decision := .defer }
  | out :: earlier => combine (combined earlier) out

namespace Dispatcher

/-- The answers of the hooks that a chain reaches, after `outs`. A hook that is not run any more
counts as a block, and the chain ends with the first answer that denies. -/
def answersFrom (event : Event) (steps : ℕ → HookStep) :
    Dispatcher → ℕ → Context → List Outcome → List Config → List Outcome
  | _, _, _, outs, [] => outs
  | d, i, hctx, outs, cfg :: rest =>
    if !cfg.fires event hctx then answersFrom event steps d (i + 1) hctx outs rest
    else if (steps i).late then
      blockOutcome cfg.name
        "hook chain budget exceeded; remaining hooks skipped, failing closed" :: outs
    else
      let (exceeded, d) := d.overPerTurnCap
      if exceeded then
        blockOutcome cfg.name
          "per-turn hook cap exceeded; remaining hooks skipped, failing closed" :: outs
      else
        let (out, d) := d.runHook cfg hctx (steps i).run
        if (combine (combined outs) out).decision = .deny then out :: outs
        else
          answersFrom event steps d (i + 1)
            { hctx with input := out.updatedInput.getD hctx.input } (out :: outs) rest

/-- The answers that `Dispatch` combines. -/
def answers (d : Dispatcher) (event : Event) (steps : ℕ → HookStep) (hctx : Context)
    (configs : List Config) : List Outcome :=
  answersFrom event steps d 0 hctx [] configs

lemma dispatchFrom_eq (event : Event) (steps : ℕ → HookStep) (d : Dispatcher) (i : ℕ)
    (hctx : Context) (outs : List Outcome) (configs : List Config) :
    (dispatchFrom event steps d i hctx (combined outs) configs).1 =
      combined (answersFrom event steps d i hctx outs configs) := by
  induction configs generalizing d i hctx outs with
  | nil => rfl
  | cons cfg rest ih =>
    unfold dispatchFrom answersFrom
    dsimp only
    split_ifs
    · exact ih d (i + 1) hctx outs
    · rfl
    · rfl
    · rfl
    · exact ih _ (i + 1) _ (_ :: outs)

end Dispatcher

/-! ### The last rewrite -/

/-- The last rewrite that was accepted. -/
def lastRewrite (outs : List Outcome) : Option String := outs.findSome? (·.updatedInput)

/-- No answer after the last rewrite is stricter than all before it. -/
def RewriteKept : List Outcome → Prop
  | [] => True
  | out :: earlier => out.updatedInput ≠ none ∨
    if 1 < decisionRank out.decision ∧
        ∀ o ∈ earlier, decisionRank o.decision < decisionRank out.decision then
      lastRewrite earlier = none
    else RewriteKept earlier

lemma combine_decision (agg out : Outcome) : (combine agg out).decision =
    if decisionRank agg.decision < decisionRank out.decision then out.decision
    else agg.decision := by
  unfold combine
  cases out.updatedInput <;> dsimp only <;> split_ifs <;> rfl

lemma combine_updatedInput (agg out : Outcome) : (combine agg out).updatedInput =
    out.updatedInput.or (if decisionRank agg.decision < decisionRank out.decision then none
      else agg.updatedInput) := by
  unfold combine
  cases out.updatedInput with
  | none =>
    dsimp only
    split_ifs <;> rfl
  | some input => rfl

lemma rank_combined_lt {outs : List Outcome} {n : ℕ} :
    decisionRank (combined outs).decision < n ↔
      1 < n ∧ ∀ out ∈ outs, decisionRank out.decision < n := by
  induction outs with
  | nil => simp [combined, decisionRank]
  | cons out outs ih =>
    rw [combined, combine_decision, List.forall_mem_cons, and_left_comm, ← ih]
    split_ifs <;> omega

lemma updatedInput_combined_iff (outs : List Outcome) :
    (combined outs).updatedInput = lastRewrite outs ↔ RewriteKept outs := by
  induction outs with
  | nil => exact iff_of_true rfl trivial
  | cons out earlier ih =>
    simp only [combined, combine_updatedInput, lastRewrite, List.findSome?_cons, RewriteKept,
      rank_combined_lt] at ih ⊢
    cases out.updatedInput with
    | some input => simp
    | none =>
      split_ifs
      · simp [eq_comm]
      · simpa using ih

/-- The outcome of a dispatch carries the last rewrite that was accepted exactly if no later answer
is stricter than all before it. -/
theorem updatedInput_dispatch_iff (d : Dispatcher) (event : Event) (steps : ℕ → HookStep)
    (hctx : Context) (configs : List Config) :
    (d.dispatch event steps hctx configs).1.updatedInput =
        lastRewrite (d.answers event steps hctx configs) ↔
      RewriteKept (d.answers event steps hctx configs) := by
  rw [← updatedInput_combined_iff]
  exact iff_of_eq (congrArg (Outcome.updatedInput · = _)
    (Dispatcher.dispatchFrom_eq event steps d 0 hctx [] configs))

/-- The first hook may rewrite the query, the second one answers for a reviewer. -/
def redactThenReview : List Config :=
  [{ name := "redact", event := .preToolUse, kind := .command, updatablePaths := ["q"] },
    { name := "review", event := .preToolUse, kind := .http }]

/-- The query is redacted and the call is asked for, without the redacted query. -/
theorem laterAsk_losesRewrite : ∃ (d : Dispatcher) (steps : ℕ → HookStep) (hctx : Context),
    lastRewrite (d.answers .preToolUse steps hctx redactThenReview) = some "[redacted]" ∧
      (d.dispatch .preToolUse steps hctx redactThenReview).1 =
        { decision := .ask, hookName := "review" } := by
  refine ⟨{ handles := fun _ => true, digestHex := id, decodeObject := fun s => .ok [("q", s)] },
    fun i => { run := .answered (if i = 0 then
      { decision := .defer, updatedInput := some "[redacted]" } else { decision := .ask }) },
    { toolID := "web/search@1", ns := "web", effectClass := "read", input := "secret" }, ?_⟩
  decide +kernel

/-! ### The decision of a chain -/

/-- What hooks can bring about: they cannot grant a permission. -/
def Outcome.Restrains (out : Outcome) : Prop :=
  out.decision = .deny ∨ out.decision = .ask ∨ out.decision = .defer

lemma Outcome.Restrains.combine {agg out : Outcome} (hagg : agg.Restrains) (hout : out.Restrains) :
    (combine agg out).Restrains := by
  rw [Outcome.Restrains, combine_decision]
  split
  · exact hout
  · exact hagg

namespace Dispatcher

/-- Every memoised answer has been normalised. -/
def Restrained (d : Dispatcher) : Prop := ∀ key, ∀ out ∈ d.cache key, out.Restrains

variable {d : Dispatcher} {event : Event} {steps : ℕ → HookStep} {hctx : Context}

lemma Restrained.runHook (h : d.Restrained) (cfg : Config) (hctx : Context) (run : HandlerRun) :
    (d.runHook cfg hctx run).1.Restrains ∧ (d.runHook cfg hctx run).2.Restrained := by
  have hrun : (d.runHandler cfg run).Restrains := by
    unfold runHandler
    split
    · cases run with
      | answered out =>
        dsimp only [normalize, Outcome.Restrains]
        cases h : out.decision <;> dsimp only <;> split <;> simp [h]
      | _ => exact .inl rfl
    · exact .inl rfl
  have hcached : (d.runCached cfg hctx run).1.Restrains ∧
      (d.runCached cfg hctx run).2.Restrained := by
    unfold runCached
    split
    next out hout => exact ⟨h _ out hout, h⟩
    next =>
      refine ⟨hrun, fun key out hout => ?_⟩
      by_cases hkey : key = d.cacheKey cfg hctx
      · obtain rfl : d.runHandler cfg run = out := by simpa [hkey] using hout
        exact hrun
      · exact h key out (by simpa [hkey] using hout)
  refine ⟨?_, hcached.2⟩
  -- a rewrite outside the paths of the hook is a block
  unfold Dispatcher.runHook enforcePathAllowlist
  dsimp only
  repeat' split
  all_goals first | exact hcached.1 | exact .inl rfl

lemma Restrained.dispatchFrom (h : d.Restrained) {agg : Outcome} (hagg : agg.Restrains) (i : ℕ)
    (configs : List Config) : (dispatchFrom event steps d i hctx agg configs).1.Restrains ∧
      (dispatchFrom event steps d i hctx agg configs).2.Restrained := by
  induction configs generalizing d i hctx agg with
  | nil => exact ⟨hagg, h⟩
  | cons cfg rest ih =>
    have hhook := Restrained.runHook (d := d.overPerTurnCap.2) h cfg hctx (steps i).run
    have hnext := hagg.combine hhook.1
    unfold Dispatcher.dispatchFrom
    dsimp only
    -- passed over, late, over the cap, denied, or gone on
    split_ifs
    · exact ih h hagg _
    · exact ⟨hagg.combine (.inl rfl), h⟩
    · exact ⟨hagg.combine (.inl rfl), h⟩
    · exact ⟨hnext, hhook.2⟩
    · exact ih hhook.2 hnext _

/-- What a dispatcher is used for. -/
inductive Use
  | dispatch (event : Event) (steps : ℕ → HookStep) (hctx : Context) (configs : List Config)
  | resetTurn

def used (d : Dispatcher) : Use → Dispatcher
  | .dispatch event steps hctx configs => (d.dispatch event steps hctx configs).2
  | .resetTurn => d.resetTurn

lemma Restrained.used (h : d.Restrained) (uses : List Use) :
    (uses.foldl Dispatcher.used d).Restrained := by
  induction uses generalizing d with
  | nil => exact h
  | cons u uses ih =>
    refine ih ?_
    cases u with
    | dispatch => exact (h.dispatchFrom (.inr (.inr rfl)) 0 _).2
    | resetTurn => exact h

/-- However a new dispatcher has been used, memoised answers included, a chain of hooks never
grants: it denies exactly if some hook it reached denied or was blocked, and defers exactly if none
denied or asked. -/
theorem dispatch_strictest (d : Dispatcher) (uses : List Use) (event : Event)
    (steps : ℕ → HookStep) (hctx : Context) (configs : List Config) :
    let d := uses.foldl used { d with cache := fun _ => none }
    let out := (d.dispatch event steps hctx configs).1
    let answers := d.answers event steps hctx configs
    out.Restrains ∧ (out.decision = .deny ↔ ∃ a ∈ answers, a.decision = .deny) ∧
      (out.decision = .defer ↔ ∀ a ∈ answers, a.decision ≠ .deny ∧ a.decision ≠ .ask) := by
  intro d out answers
  have hnew : d.Restrained := Restrained.used (by simp [Restrained]) uses
  have hout : out.Restrains := (hnew.dispatchFrom (.inr (.inr rfl)) 0 configs).1
  have heq : out = combined answers := dispatchFrom_eq event steps d 0 hctx [] configs
  have hdeny (x : Decision) : decisionRank x < 3 ↔ x ≠ .deny := by cases x <;> simp [decisionRank]
  have hask (x : Decision) : decisionRank x < 2 ↔ x ≠ .deny ∧ x ≠ .ask := by
    cases x <;> simp [decisionRank]
  -- the outcome has the rank of the strictest answer
  refine ⟨hout, ?_, ?_⟩
  · rw [← not_iff_not, ← ne_eq, ← hdeny, heq, rank_combined_lt]
    simp [hdeny]
  · simp only [← hask]
    have hrank : decisionRank (combined answers).decision < 2 ↔ _ := rank_combined_lt
    rw [← heq, hask] at hrank
    rcases hout with h | h | h <;> simp_all

end Dispatcher

end NexusAgent.Hooks
