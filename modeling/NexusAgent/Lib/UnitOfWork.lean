import Mathlib.Control.Monad.Basic

/-!
# Units of work

A unit of work runs statements against a store and then commits: either every write takes
effect or none does. Statements can fail for reasons the program does not control, and an
insert can draw a fresh value, so a unit of work reads a script: each statement consumes one
entry, `some i` for a statement that goes through with the drawn value `i`, `none` for one
that fails. A script that ends early is a store that no longer answers. Quantifying over
scripts quantifies over every failure point.
-/

universe u

/-- A unit of work over stores `D`, with drawn values `I` and errors `E`. -/
abbrev UnitOfWork (D I E : Type u) := StateT (D × List (Option I)) (Except E)

namespace UnitOfWork

variable {D I E α β : Type u}

/-- One statement: it fails with `fault` when the script says so, and otherwise acts on the
store with the value drawn. -/
def statement (fault : E) (f : I → D → Except E (α × D)) : UnitOfWork D I E α
  | (d, some i :: script) =>
    match f i d with
    | .ok (a, d') => .ok (a, (d', script))
    | .error e => .error e
  | _ => .error fault

/-- The result of a unit of work and the store after it. The commit is a statement of its
own: when it fails, nothing the unit did takes effect. A commit that takes effect and is
reported as failed, because the connection is lost in between, is left out. -/
def commit (fault : E) (t : UnitOfWork D I E α) (script : List (Option I)) (d : D) :
    Except E α × D :=
  match t (d, script) with
  | .ok (a, (d', some _ :: _)) => (.ok a, d')
  | .ok _ => (.error fault, d)
  | .error e => (.error e, d)

variable {s : D × List (Option I)}

/-- A bind succeeds exactly when both its parts do. -/
lemma bind_ok {t : UnitOfWork D I E α} {f : α → UnitOfWork D I E β} {r : β × D × List (Option I)} :
    (t >>= f) s = .ok r ↔ ∃ a s', t s = .ok (a, s') ∧ f a s' = .ok r := by
  simp only [bind, StateT.bind, Except.bind]
  cases t s with
  | error e => simp
  | ok p =>
    constructor
    · intro h
      exact ⟨p.1, p.2, rfl, h⟩
    · rintro ⟨a, s', hp, h⟩
      obtain rfl := Except.ok.inj hp
      exact h

lemma pure_ok {a r : α} {d d' : D} {script script' : List (Option I)} :
    (pure a : UnitOfWork D I E α) (d, script) = .ok (r, (d', script')) ↔
      r = a ∧ d' = d ∧ script' = script := by
  constructor
  · rintro ⟨⟩
    exact ⟨rfl, rfl, rfl⟩
  · rintro ⟨rfl, rfl, rfl⟩
    rfl

lemma throw_ok {e : E} {r : α × D × List (Option I)} :
    ¬ (throw e : UnitOfWork D I E α) s = .ok r := by
  intro h
  nomatch (show (Except.error e : Except E (α × D × List (Option I))) = .ok r from h)

/-- A statement that goes through has drawn a value and acted on the store with it. -/
lemma statement_ok {fault : E} {f : I → D → Except E (α × D)} {a : α} {d' : D}
    {script' : List (Option I)} :
    statement fault f s = .ok (a, (d', script')) ↔
      ∃ i, s.2 = some i :: script' ∧ f i s.1 = .ok (a, d') := by
  obtain ⟨d, script⟩ := s
  match script with
  | [] => simp [statement]
  | none :: script => simp [statement]
  | some i :: script =>
    constructor
    · intro h
      refine ⟨i, ?_⟩
      cases hf : f i d with
      | error e => simp [statement, hf] at h
      | ok p =>
        simp only [statement, hf, Except.ok.injEq, Prod.mk.injEq] at h
        obtain ⟨rfl, rfl, rfl⟩ := h
        exact ⟨rfl, rfl⟩
    · rintro ⟨j, hscript, hf⟩
      obtain ⟨rfl, rfl⟩ : i = j ∧ script = script' := by simpa using hscript
      simp [statement, hf]

/-- A unit that reports an error leaves the store unchanged; one that reports success has
run to its end, and its writes have taken effect. -/
theorem commit_cases (fault : E) (t : UnitOfWork D I E α) (script : List (Option I)) (d : D) :
    (∃ e, commit fault t script d = (.error e, d)) ∨
      ∃ a d' script', commit fault t script d = (.ok a, d') ∧
        t (d, script) = .ok (a, (d', script')) := by
  unfold commit
  split
  next a d' i rest heq => exact .inr ⟨a, d', _, rfl, heq⟩
  next => exact .inl ⟨fault, rfl⟩
  next e heq => exact .inl ⟨e, rfl⟩

end UnitOfWork
