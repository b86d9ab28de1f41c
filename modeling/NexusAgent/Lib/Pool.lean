import NexusAgent.Lib.Lists
import NexusAgent.Lib.Machine
import NexusAgent.Lib.Process

/-!
# Pools of running programs

Any number of programs that make requests of one world, a request at a time and in any order. A
program can be cut off at every request, after which it makes no more: this is a crash, and it is
also an error after which the program gives up.

A running program carries a note of what it has done so far, which no request depends on.

- `Workforce.Taken`: what a step of the machine can be.
- `Upkeep.holds`: an assertion about the world and one about each note hold throughout if every
  request that the programs make keeps them.
-/

/-- The programs of the jobs `J` over a world `W`. What the surroundings decide in a request is a
`T`. -/
structure Workforce (J W Q O : Type) (Ans : O → Type) (T : Type) where
  program : J → Routine Unit O Ans Unit
  /-- The answer to a request and the world after it. -/
  handle : W → (o : O) → T → Option (Ans o × W)
  blank : Q
  note : Q → (o : O) → Ans o → Q

structure Running (Q O : Type) (Ans : O → Type) where
  live : Process O Ans (Option (Unit × Unit))
  note : Q

structure Pool (W Q O : Type) (Ans : O → Type) where
  world : W
  running : List (Running Q O Ans) := []

/-- The actions of a pool; `i` is the place of a program among the running ones. -/
inductive PoolAction (J T : Type)
  | start (job : J)
  | exec (i : ℕ) (t : T)
  | cut (i : ℕ)

namespace Workforce

variable {J W Q O : Type} {Ans : O → Type} {T : Type} (F : Workforce J W Q O Ans T)

/-- A program that begins. -/
def begun (job : J) : Running Q O Ans := { live := (F.program job ()).run, note := F.blank }

def machine : Machine (Pool W Q O Ans) (PoolAction J T) where
  step p
    | .start job => some { p with running := p.running ++ [F.begun job] }
    | .exec i t =>
      p.running[i]?.bind fun r =>
        match r.live with
        | .done _ => none
        | .ask o k =>
          (F.handle p.world o t).map fun (a, w) =>
            { world := w, running := p.running.set i { live := k a, note := F.note r.note o a } }
    | .cut i => p.running[i]?.map fun _ => { p with running := p.running.eraseIdx i }

inductive Taken (p : Pool W Q O Ans) : PoolAction J T → Pool W Q O Ans → Prop
  | start (job : J) : Taken p (.start job) { p with running := p.running ++ [F.begun job] }
  | exec {before after : List (Running Q O Ans)} {r : Running Q O Ans} {o : O}
      {k : Ans o → Process O Ans (Option (Unit × Unit))} {t : T} {a : Ans o} {w : W} :
      p.running = before ++ r :: after → r.live = .ask o k →
      F.handle p.world o t = some (a, w) →
      Taken p (.exec before.length t)
        { world := w, running := before ++ { live := k a, note := F.note r.note o a } :: after }
  | cut {before after : List (Running Q O Ans)} {r : Running Q O Ans} :
      p.running = before ++ r :: after →
      Taken p (.cut before.length) { p with running := before ++ after }

variable {F}

lemma taken_of_step {p p' : Pool W Q O Ans} {a : PoolAction J T}
    (h : F.machine.step p a = some p') : F.Taken p a p' := by
  cases a with
  | start job =>
    cases h
    exact .start job
  | exec i t =>
    obtain ⟨r, hi, h⟩ := Option.bind_eq_some_iff.1 h
    obtain ⟨before, after, hrunning, rfl, -, hset⟩ := List.exists_split hi
    split at h
    · nomatch h
    next o k hlive =>
    obtain ⟨⟨a, w⟩, hhandle, rfl⟩ := Option.map_eq_some_iff.1 h
    simp only [hset]
    exact .exec hrunning hlive hhandle
  | cut i =>
    obtain ⟨r, hi, rfl⟩ := Option.map_eq_some_iff.1 h
    obtain ⟨before, after, hrunning, rfl, herase, -⟩ := List.exists_split hi
    rw [herase]
    exact .cut hrunning

variable (F)

def protocol (admits : Q → O → Prop) : Protocol Q O Ans where
  admits := admits
  step q o a q' := q' = F.note q o a

end Workforce

section

variable {J W Q O : Type} {Ans : O → Type} {T : Type} {F : Workforce J W Q O Ans T}

/-- Assertions about the world and about each note that the requests of the programs keep. -/
structure Upkeep (F : Workforce J W Q O Ans T) where
  World : W → Prop
  /-- About the note of a program, given the world. -/
  Note : W → Q → Prop
  admits : Q → O → Prop
  Ended : Q → Prop
  blank : ∀ w, Note w F.blank
  follows : ∀ job, (F.program job ()).run.Follows (F.protocol admits) F.blank fun _ => Ended
  exec : ∀ {w q o t a w'}, World w → Note w q → admits q o → F.handle w o t = some (a, w') →
    World w' ∧ Note w' (F.note q o a)
  /-- The requests of the other programs. -/
  frame : ∀ {w q o t a w' q'}, World w → Note w q → admits q o →
    F.handle w o t = some (a, w') → Note w q' → Note w' q'

/-- All assertions hold, and what is left of each program makes admitted requests only. -/
structure Upkeep.Holds (U : Upkeep F) (p : Pool W Q O Ans) : Prop where
  world : U.World p.world
  note : ∀ r ∈ p.running, U.Note p.world r.note
  follows : ∀ r ∈ p.running, r.live.Follows (F.protocol U.admits) r.note fun _ => U.Ended

variable (U : Upkeep F) {p p' : Pool W Q O Ans} {a : PoolAction J T}

lemma Upkeep.step (h : U.Holds p) (hst : F.Taken p a p') : U.Holds p' := by
  obtain ⟨hworld, hnote, hfollows⟩ := h
  cases hst with
  | start job =>
    refine ⟨hworld, List.forall_mem_append.2 ⟨hnote, ?_⟩, List.forall_mem_append.2 ⟨hfollows, ?_⟩⟩
    · exact List.forall_mem_singleton.2 (U.blank _)
    · exact List.forall_mem_singleton.2 (U.follows job)
  | exec hrunning hlive hhandle =>
    rw [hrunning, List.forall_mem_split] at hnote hfollows
    obtain ⟨hadmits, hnext⟩ := hlive ▸ hfollows.1
    obtain ⟨hworld', hnote'⟩ := U.exec hworld hnote.1 hadmits hhandle
    refine ⟨hworld', List.forall_mem_split.2 ⟨hnote', fun r hr => ?_⟩,
      List.forall_mem_split.2 ⟨hnext _ _ rfl, hfollows.2⟩⟩
    exact U.frame hworld hnote.1 hadmits hhandle (hnote.2 r hr)
  | cut hrunning =>
    rw [hrunning, List.forall_mem_split] at hnote hfollows
    exact ⟨hworld, hnote.2, hfollows.2⟩

/-- The assertions hold in every state that is reached. -/
theorem Upkeep.holds {G : Pool W Q O Ans → PoolAction J T → Prop}
    (h : F.machine.ReachesBy G p p') (hp : U.Holds p) : U.Holds p' :=
  h.invariant hp fun _ _ _ hU _ hst => U.step hU (Workforce.taken_of_step hst)

end
