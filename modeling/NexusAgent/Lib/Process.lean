import Mathlib.Control.Monad.Basic

/-!
# Programs that make requests

A program that talks to its surroundings is a tree: it is done, or it makes a request and
goes on with the answer. What the surroundings answer is not part of the program, so that a
property of the tree is a property of every behaviour of the surroundings, and a run can be
cut off, or interleaved with other programs, at each request.

- `Process.Follows`: a program keeps to a protocol, that is, every request it makes is
  admitted in the state of the protocol that the requests before it and their answers have
  led to, and its result satisfies a postcondition.
- `Routine`: programs with a state of their own that can also end early, with the rules of
  pre- and postconditions for them (`Routine.wp_bind` and the lemmas beside it); `Routine.Keeps`
  is the case of an invariant.
- `Process.advance`: one request answered, the step of a running program.
-/

/-- A program that makes requests of type `O` and ends with a value of type `α`; `Ans o` is
the type of the answers to `o`. -/
inductive Process (O : Type) (Ans : O → Type) (α : Type)
  | done (a : α)
  | ask (o : O) (k : Ans o → Process O Ans α)

/-- The requests a program may make, as an automaton. -/
structure Protocol (Q O : Type) (Ans : O → Type) where
  /-- Whether a request may be made in a state. -/
  admits : Q → O → Prop
  /-- `step q o a q'`: in state `q` the request `o` may be answered by `a`, and the state is
  then `q'`. -/
  step : Q → (o : O) → Ans o → Q → Prop

namespace Process

variable {O : Type} {Ans : O → Type} {α β Q W T : Type}

protected def bind : Process O Ans α → (α → Process O Ans β) → Process O Ans β
  | .done a, f => f a
  | .ask o k, f => .ask o fun a => (k a).bind f

instance : Monad (Process O Ans) where
  pure := .done
  bind := Process.bind

protected lemma bind_pure (p : Process O Ans α) : (p >>= fun a => pure a) = p := by
  induction p with
  | done a => rfl
  | ask o k ih => exact congrArg (Process.ask o) (funext ih)

protected lemma bind_assoc {γ : Type} (p : Process O Ans α) (f : α → Process O Ans β)
    (g : β → Process O Ans γ) : (p >>= f) >>= g = p >>= fun a => f a >>= g := by
  induction p with
  | done a => rfl
  | ask o k ih => exact congrArg (Process.ask o) (funext ih)

instance : LawfulMonad (Process O Ans) :=
  .mk' _ Process.bind_pure (fun _ _ => rfl) Process.bind_assoc

/-- `p.Follows π q R`: from state `q` of the protocol, every request of `p` is admitted, and
a result `a` in state `q'` satisfies `R a q'`. -/
def Follows (π : Protocol Q O Ans) : Process O Ans α → Q → (α → Q → Prop) → Prop
  | .done a, q, R => R a q
  | .ask o k, q, R => π.admits q o ∧ ∀ a q', π.step q o a q' → (k a).Follows π q' R

variable {π : Protocol Q O Ans} {p : Process O Ans α}

/-- Sequencing: the first program leads to states from which the second keeps to the
protocol. -/
lemma follows_bind {f : α → Process O Ans β} {q : Q} {R : β → Q → Prop} :
    (p >>= f).Follows π q R ↔ p.Follows π q fun a q' => (f a).Follows π q' R := by
  induction p generalizing q with
  | done a => exact Iff.rfl
  | ask o k ih =>
    refine and_congr_right fun _ => ?_
    refine forall_congr' fun a => forall_congr' fun q' => imp_congr_right fun _ => ?_
    exact ih a

lemma Follows.mono {q : Q} {R R' : α → Q → Prop} (h : p.Follows π q R)
    (hR : ∀ a q', R a q' → R' a q') : p.Follows π q R' := by
  induction p generalizing q with
  | done a => exact hR a q h
  | ask o k ih => exact ⟨h.1, fun a q' hst => ih a (h.2 a q' hst)⟩

/-- A program that keeps to a protocol keeps to every protocol that is refined by it. -/
lemma Follows.refines {Q' : Type} {π' : Protocol Q' O Ans} {r : Q' → Q → Prop}
    {q : Q} {q' : Q'} {R : α → Q → Prop} {R' : α → Q' → Prop}
    (h : p.Follows π q R) (hadm : ∀ q' q o, r q' q → π.admits q o → π'.admits q' o)
    (hstep : ∀ q' q o a q'', r q' q → π.admits q o → π'.step q' o a q'' →
      ∃ q₁, π.step q o a q₁ ∧ r q'' q₁)
    (hR : ∀ a q' q, r q' q → R a q → R' a q') (hr : r q' q) : p.Follows π' q' R' := by
  induction p generalizing q q' with
  | done a => exact hR a q' q hr h
  | ask o k ih =>
    refine ⟨hadm q' q o hr h.1, fun a q'' hst => ?_⟩
    obtain ⟨q₁, hst₁, hr₁⟩ := hstep q' q o a q'' hr h.1 hst
    exact ih a (h.2 a q₁ hst₁) hr₁

/-- The request a program waits at is answered: `handle w o t` is the answer to `o` that the
choice `t` of the surroundings gives in the world `w`, with the world after it. -/
def advance (handle : W → (o : O) → T → Option (Ans o × W)) (w : W) (t : T) :
    Process O Ans α → Option (W × Process O Ans α)
  | .done _ => none
  | .ask o k => (handle w o t).map fun r => (r.2, k r.1)

lemma advance_eq_some {handle : W → (o : O) → T → Option (Ans o × W)} {w w' : W} {t : T}
    {p' : Process O Ans α} : p.advance handle w t = some (w', p') ↔
      ∃ o k a, p = .ask o k ∧ handle w o t = some (a, w') ∧ p' = k a := by
  cases p with
  | done a => simp [advance]
  | ask o k =>
    simp only [advance, Option.map_eq_some_iff, Prod.mk.injEq]
    constructor
    · rintro ⟨⟨a, w₁⟩, hh, rfl, rfl⟩
      exact ⟨o, k, a, rfl, hh, rfl⟩
    · rintro ⟨o', k', a, hp, hh, rfl⟩
      obtain ⟨rfl, hk⟩ := Process.ask.inj hp
      obtain rfl := eq_of_heq hk
      exact ⟨(a, w'), hh, rfl, rfl⟩

end Process

/-- A program with a state `S` of its own that can end early. -/
abbrev Routine (S O : Type) (Ans : O → Type) := StateT S (OptionT (Process O Ans))

namespace Routine

variable {S O : Type} {Ans : O → Type} {α β Q : Type}

def request (o : O) : Routine S O Ans (Ans o) :=
  fun s => OptionT.mk (.ask o fun a => .done (some (a, s)))

/-- The program ends here. -/
def stop : Routine S O Ans α := fun _ => OptionT.mk (.done none)

/-- `wp π c R E s q`: run from its state `s` and the state `q` of the protocol, `c` makes
admitted requests only; where it returns, the value and the two states satisfy `R`; where it
ends early, the state of the protocol satisfies `E`. -/
def wp (π : Protocol Q O Ans) (c : Routine S O Ans α) (R : α → S → Q → Prop) (E : Q → Prop)
    (s : S) (q : Q) : Prop :=
  (c s).run.Follows π q fun r q' =>
    match r with
    | some (a, s') => R a s' q'
    | none => E q'

variable {π : Protocol Q O Ans} {R R' : α → S → Q → Prop} {E : Q → Prop} {s : S} {q : Q}
  {c : Routine S O Ans α} {f : α → Routine S O Ans β}

@[simp]
lemma wp_pure {a : α} : wp π (pure a) R E s q ↔ R a s q := Iff.rfl

@[simp]
lemma wp_stop : wp π (stop : Routine S O Ans α) R E s q ↔ E q := Iff.rfl

@[simp]
lemma wp_request {o : O} {R : Ans o → S → Q → Prop} :
    wp π (request o) R E s q ↔ π.admits q o ∧ ∀ a q', π.step q o a q' → R a s q' := Iff.rfl

@[simp]
lemma wp_get {R : S → S → Q → Prop} :
    wp π (get : Routine S O Ans S) R E s q ↔ R s s q := Iff.rfl

@[simp]
lemma wp_set {s₁ : S} {R : PUnit → S → Q → Prop} :
    wp π (set s₁ : Routine S O Ans PUnit) R E s q ↔ R ⟨⟩ s₁ q := Iff.rfl

@[simp]
lemma wp_modify {f : S → S} {R : PUnit → S → Q → Prop} :
    wp π (modify f : Routine S O Ans PUnit) R E s q ↔ R ⟨⟩ (f s) q := Iff.rfl

/-- Sequencing: what is required of the second part is the first part's postcondition. -/
@[simp]
theorem wp_bind {R : β → S → Q → Prop} :
    wp π (c >>= f) R E s q ↔ wp π c (fun a => wp π (f a) R E) E s q := by
  show Process.Follows π (((c s).run) >>= fun r => _) q _ ↔ _
  rw [Process.follows_bind]
  constructor
  all_goals
    intro h
    refine h.mono fun r q' hr => ?_
    cases r with
    | none | some => exact hr

/-- A request, and what follows its answer. -/
lemma wp_ask {o : O} {f : Ans o → Routine S O Ans β} {R : β → S → Q → Prop}
    (hadm : π.admits q o) (h : ∀ a q', π.step q o a q' → wp π (f a) R E s q') :
    wp π (request o >>= f) R E s q :=
  wp_bind.2 (wp_request.2 ⟨hadm, h⟩)

lemma wp_mono (h : wp π c R E s q) (hR : ∀ a s' q', R a s' q' → R' a s' q') :
    wp π c R' E s q := by
  refine Process.Follows.mono h fun r q' hr => ?_
  cases r with
  | none => exact hr
  | some r => exact hR r.1 r.2 q' hr

/-- Sequencing by a condition in between. -/
lemma wp_seq {R' : β → S → Q → Prop} (h : wp π c R E s q)
    (hf : ∀ a s' q', R a s' q' → wp π (f a) R' E s' q') : wp π (c >>= f) R' E s q :=
  wp_bind.2 (wp_mono h hf)

/-- `Keeps π I c E`: run from states of its own and of the protocol with `I`, the program makes
admitted requests only; where it returns the two states have `I` again, and where it ends early
that of the protocol has `E`. -/
def Keeps (π : Protocol Q O Ans) (I : S → Q → Prop) (c : Routine S O Ans α)
    (E : Q → Prop := fun _ => True) : Prop :=
  ∀ s q, I s q → wp π c (fun _ => I) E s q

section

variable {I : S → Q → Prop}

lemma keeps_pure (a : α) : Keeps π I (pure a : Routine S O Ans α) E := fun _ _ h => h

lemma keeps_stop (h : ∀ s q, I s q → E q) : Keeps π I (stop : Routine S O Ans α) E := h

lemma keeps_get : Keeps π I (get : Routine S O Ans S) E := fun _ _ h => h

theorem Keeps.wp_bind {R : β → S → Q → Prop} (hc : Keeps π I c E) (h : I s q)
    (hf : ∀ a s' q', I s' q' → wp π (f a) R E s' q') : wp π (c >>= f) R E s q :=
  wp_seq (hc s q h) hf

lemma keeps_bind (hc : Keeps π I c E) (hf : ∀ a, Keeps π I (f a) E) : Keeps π I (c >>= f) E :=
  fun _ _ h => hc.wp_bind h hf

lemma keeps_request {o : O} (h : ∀ s q, I s q → π.admits q o ∧ ∀ a q', π.step q o a q' → I s q') :
    Keeps π I (request o : Routine S O Ans (Ans o)) E :=
  fun s q hq => wp_request.2 (h s q hq)

end

end Routine
