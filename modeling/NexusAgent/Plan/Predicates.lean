import NexusAgent.Plan.Validate

/-!
# Predicates that can be evaluated

The operator and the operands of a predicate are what the document of the plan says
(`internal/plan/predicate.go`). `Validate` looks at how deep predicates nest, and not at what they
say: an operator that `Eval` does not know, or an order comparison with a literal that is no number,
is only found when the predicate is evaluated.
-/

namespace NexusAgent.Plans

namespace Predicate

/-- The parts of a conjunction or of a disjunction. -/
def parts : Predicate → List Predicate
  | .mk .and _ _ _ and _ => and
  | .mk .or _ _ _ _ or => or
  | _ => []

/-- The operator is known, and the literal of an order comparison is a number. -/
def WellFormed : Predicate → Prop
  | .mk .lt _ value _ _ _ | .mk .gt _ value _ _ _ => value.kind = .number
  | .mk (.other _) _ _ _ _ _ => False
  | _ => True

/-- The variable of a comparison is bound, to a number where the comparison is one of order. -/
def Binds (ctx : Context) : Predicate → Prop
  | .mk .lt field _ _ _ _ | .mk .gt field _ _ _ _ => ∃ v, ctx field = some v ∧ v.kind = .number
  | .mk .eq field _ _ _ _ | .mk .ne field _ _ _ _ | .mk .mem field _ _ _ _ =>
    ∃ v, ctx field = some v
  | _ => True

end Predicate

/-- The predicates of the transitions of a plan, and those that are nested in them. -/
inductive Plan.Has (p : Plan) : Predicate → Prop
  | transition {s : Step} {t : Transition} {q : Predicate} :
      s ∈ p.steps → t ∈ s.transitions → t.when? = some q → p.Has q
  | nested {q r : Predicate} : p.Has q → r ∈ q.parts → p.Has r

variable {p : Plan} {ctx : Context}

/-- A comparison can be evaluated exactly if it is well formed. -/
lemma eval_comparison {op : Op} {field : String} {value : Value} {values : List Value}
    {and or : List Predicate} (hand : op ≠ .and) (hor : op ≠ .or)
    (hbinds : (Predicate.mk op field value values and or).Binds ctx) :
    (∃ b, (Predicate.mk op field value values and or).eval ctx = .ok b) ↔
      (Predicate.mk op field value values and or).WellFormed := by
  cases op with
  | and => exact absurd rfl hand
  | or => exact absurd rfl hor
  | other text => simp [Predicate.eval, Predicate.WellFormed]
  | eq | ne | mem =>
    obtain ⟨v, hv⟩ := hbinds
    simp [Predicate.eval, Predicate.WellFormed, compare, hv]
  | lt | gt =>
    obtain ⟨v, hv, hkind⟩ := hbinds
    by_cases hnumber : value.kind = .number <;>
      simp [Predicate.eval, Predicate.WellFormed, compare, Value.less, hv, hkind, hnumber]

mutual

/-- By induction on the predicate: what is evaluated is nested in it. -/
lemma eval_ok (hsound : ∀ q, p.Has q → q.Binds ctx ∧ q.WellFormed) :
    ∀ q : Predicate, p.Has q → ∃ b, q.eval ctx = .ok b
  | .mk op field value values and or, h => by
    by_cases hand : op = .and
    · subst hand
      rw [Predicate.eval]
      exact (evals_ok hsound and fun q hq => h.nested hq).1
    by_cases hor : op = .or
    · subst hor
      rw [Predicate.eval]
      exact (evals_ok hsound or fun q hq => h.nested hq).2
    obtain ⟨hbinds, hformed⟩ := hsound _ h
    exact (eval_comparison hand hor hbinds).2 hformed

lemma evals_ok (hsound : ∀ q, p.Has q → q.Binds ctx ∧ q.WellFormed) :
    ∀ qs : List Predicate, (∀ q ∈ qs, p.Has q) →
      (∃ b, evalAll ctx qs = .ok b) ∧ ∃ b, evalAny ctx qs = .ok b
  | [], _ => ⟨⟨true, rfl⟩, false, rfl⟩
  | q :: qs, h => by
    obtain ⟨hq, hqs⟩ := List.forall_mem_cons.1 h
    obtain ⟨b, hb⟩ := eval_ok hsound q hq
    obtain ⟨hall, hany⟩ := evals_ok hsound qs hqs
    cases b with
    | true => exact ⟨by simpa [evalAll, hb] using hall, true, by simp [evalAny, hb]⟩
    | false => exact ⟨⟨false, by simp [evalAll, hb]⟩, by simpa [evalAny, hb] using hany⟩

end

/-- Where the variables of the comparisons are bound, to numbers where they are compared by order,
all predicates of a plan can be evaluated exactly if all of them are well formed. Each nested one is
asked for by itself: `Eval` stops at the first part that decides a conjunction or a disjunction, and
may so pass over one that it could not evaluate. -/
theorem predicates_evaluate_iff (hbinds : ∀ q, p.Has q → q.Binds ctx) :
    (∀ q, p.Has q → ∃ b, q.eval ctx = .ok b) ↔ ∀ q, p.Has q → q.WellFormed := by
  refine ⟨fun heval q hq => ?_, fun hformed => eval_ok fun q hq => ⟨hbinds q hq, hformed q hq⟩⟩
  obtain ⟨op, field, value, values, and, or⟩ := q
  by_cases hand : op = .and
  · subst hand
    trivial
  by_cases hor : op = .or
  · subst hor
    trivial
  exact (eval_comparison hand hor (hbinds _ hq)).1 (heval _ hq)

/-- A step that is repeated while its counter is below a limit. -/
def counting (limit : Value) : Plan :=
  { startStep := "work"
    steps := [{ id := "work", kind := .loop, loop := some { maxIterations := 3 }
                transitions := [{ target := "work"
                                  when? := some (.mk .lt "count" limit [] [] []) }] }] }

theorem counting_evaluates : ∃ b, (Predicate.mk .lt "count" (.numberValue 3) [] [] []).eval
    (fun _ => some (.numberValue 1)) = .ok b := by
  have heq (q) (h : (counting (.numberValue 3)).Has q) :
      q = .mk .lt "count" (.numberValue 3) [] [] [] := by
    induction h with
    | transition hs ht hwhen =>
      obtain rfl := List.mem_singleton.1 hs
      obtain rfl := List.mem_singleton.1 ht
      exact (Option.some.inj hwhen).symm
    | nested _ hr ih => simp [ih, Predicate.parts] at hr
  refine (predicates_evaluate_iff (p := counting (.numberValue 3)) fun q hq => ?_).2
    (fun q hq => ?_) _ (.transition (.head _) (.head _) rfl) <;> rw [heq q hq]
  · exact ⟨_, rfl, rfl⟩
  · rfl

/-- The plan is accepted, and the counter cannot be compared with the text. -/
theorem textLimit_accepted : validate (counting (.stringValue "3")) = .ok () ∧
    ∀ n, (Predicate.mk .lt "count" (.stringValue "3") [] [] []).eval
      (fun _ => some (.numberValue n)) =
        .error "plan: lt/gt only compares numbers, got number and string" := by
  exact ⟨by decide +kernel, fun n => rfl⟩

end NexusAgent.Plans
