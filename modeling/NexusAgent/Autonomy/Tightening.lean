import NexusAgent.Autonomy.Levels
import NexusAgent.Tools.Vetting

/-!
# Tightening a session's autonomy

`TightenAutonomy` writes a level into the row of a session that is as strict as the one that it has
read there. The copies of the level are left alone: a run goes on with the level that it was
configured with, and a pipeline goes by the level that it has pinned, for as long as its process
lives. Nor is the row read again: of two tightenings that have both read it, the second to commit
has the last word. So a tightening binds the calls that come after it as far as no copy is laxer
than it and no later one overwrites a stricter level.

- `Bound`: a level bounds the row of a session and every copy of it.
-/

namespace NexusAgent.Levels

open Permissions Tools World

variable {n : ℕ}

structure Bound (w : World n) (s : UUID) (target : AutonomyLevel) : Prop where
  row : ∃ text, w.rows s = some text ∧ (levelOf text).num ≤ target.num
  pin : ∀ proc level, pinned (w.pipelines proc) s = some level → level.num ≤ target.num
  run : ∀ run ∈ w.runs, run.sessionID = s → pinned (w.pipelines run.proc) s = none →
    (levelOf run.autonomyLevel).num ≤ target.num

/-- A tightening commits where the row is not stricter than its target, and finds no copy that is
laxer than it: what a process has pinned is as strict and, where it has pinned nothing, so are the
levels of its runs. -/
def NoLaxerCopy (w : World n) : Action n → Prop
  | .tighten s target =>
    (∀ text ∈ w.rows s, (levelOf target).num ≤ (levelOf text).num) ∧
    (∀ proc, ∀ level ∈ pinned (w.pipelines proc) s, level.num ≤ (levelOf target).num) ∧
      ∀ run ∈ w.runs, run.sessionID = s → pinned (w.pipelines run.proc) s = none →
        (levelOf run.autonomyLevel).num ≤ (levelOf target).num
  | _ => True

instance (w : World n) (a : Action n) : Decidable (NoLaxerCopy w a) := by
  unfold NoLaxerCopy
  split <;> infer_instance

variable {target : AutonomyLevel} {wired : Bool} {s : UUID} {w : World n}

lemma Bound.le_of_mayPin {level : AutonomyLevel} {proc : Fin n} (hbound : Bound w s target)
    (hnonneg : 0 ≤ target.num) (hnone : pinned (w.pipelines proc) s = none)
    (hmay : w.MayPin wired proc s level) : level.num ≤ target.num := by
  rcases hmay with ⟨-, rfl, -⟩ | ⟨run, hrun, rfl, hid, rfl⟩
  · exact hnonneg
  · exact hbound.run run hrun hid hnone

lemma Bound.step {w' : World n} {a : Action n} (hbound : Bound w s target)
    (hnonneg : 0 ≤ target.num) (hguard : NoLaxerCopy w a) (heffect : w.Effect wired a w') :
    Bound w' s target := by
  obtain ⟨text, htext, hle⟩ := hbound.row
  refine ⟨?_, fun proc level hlevel => ?_, fun run' hrun' hid hnone => ?_⟩
  · rcases heffect.row s with hrow | ⟨hnone, -⟩ | ⟨t, rfl, -, hrow⟩
    · exact ⟨text, hrow.trans htext, hle⟩
    · exact absurd (htext.symm.trans hnone) (by simp)
    · exact ⟨t, hrow, (hguard.1 text htext).trans hle⟩
  · rcases heffect.pins proc with hpins | ⟨hcleared, -⟩
    · rcases hpins s with heq | ⟨hnone, level', hmay, hsome⟩
      · exact hbound.pin proc level (heq ▸ hlevel)
      · obtain rfl : level' = level := Option.mem_unique hsome hlevel
        exact hbound.le_of_mayPin hnonneg hnone hmay
    · exact absurd ((hcleared s).symm.trans hlevel) (by simp)
  · -- a process that has pinned nothing had pinned nothing before, or has just started
    have hbefore : pinned (w.pipelines run'.proc) s = none := by
      rcases heffect.pins run'.proc with hpins | ⟨-, hnoRuns⟩
      · rcases hpins s with heq | ⟨hnone', -⟩
        · exact heq ▸ hnone
        · exact hnone'
      · exact absurd rfl (hnoRuns run' hrun')
    rcases heffect.run run' hrun' with ⟨run, hrun, rfl | rfl⟩ | ⟨-, hrow | ⟨hrow, -⟩⟩
    · exact hbound.run _ hrun hid hbefore
    · exact hbound.run run hrun hid hbefore
    · rw [hid] at hrow
      obtain rfl := Option.mem_unique htext hrow
      exact hle
    · rw [hid] at hrow
      exact absurd (htext.symm.trans hrow) (by simp)

lemma Bound.of_tighten {w' : World n} {target : String} (hguard : NoLaxerCopy w (.tighten s target))
    (hstep : (sessions n wired).step w (.tighten s target) = some w') :
    Bound w' s (levelOf target) := by
  obtain ⟨-, hstep⟩ := Option.ite_none_right_eq_some.1 hstep
  cases hstep
  exact ⟨⟨target, Function.update_self .., le_rfl⟩, hguard.2.1, hguard.2.2⟩

lemma bound_of_reaches {pipeline : Fin n → Pipeline}
    (h : (sessions n wired).ReachesBy NoLaxerCopy (fresh pipeline) w) :
    ∀ e ∈ w.tightened, 0 ≤ e.2.num ∧ Bound w e.1 e.2 := by
  refine h.invariant (I := fun w => ∀ e ∈ w.tightened, 0 ≤ e.2.num ∧ Bound w e.1 e.2) ?_ ?_
  · exact List.forall_mem_nil _
  · intro w a w' ih hguard hstep e he
    have heffect := effect_of_step hstep
    rcases heffect.tightened e he with hold | ⟨target, rfl, hlevel⟩
    · obtain ⟨hnonneg, hbound⟩ := ih e hold
      exact ⟨hnonneg, hbound.step hnonneg hguard heffect⟩
    · rw [hlevel]
      exact ⟨levelOf_nonneg target, Bound.of_tighten hguard hstep⟩

lemma Bound.resolvedLevel_le {run : Run n} (hbound : Bound w run.sessionID target)
    (hrun : run ∈ w.runs) :
    (resolvedLevel (w.pipelines run.proc) run.sessionID run.autonomyLevel).num ≤ target.num := by
  unfold resolvedLevel
  cases hpinned : pinned (w.pipelines run.proc) run.sessionID with
  | none => exact hbound.run run hrun rfl hpinned
  | some level => exact hbound.pin run.proc level hpinned

/-- In every run whose tightenings find no laxer copy and overwrite no stricter level, every call
that is made after a tightening of its session is resolved, in layer 3, at a level that is as
strict. -/
theorem tightened_binds {wired : Bool} (pipeline : Fin n → Pipeline) (w : World n)
    (h : (sessions n wired).ReachesBy NoLaxerCopy (fresh pipeline) w) (s : UUID)
    (target : AutonomyLevel) (htightened : (s, target) ∈ w.tightened) (run : Run n)
    (hrun : run ∈ w.runs) (hid : run.sessionID = s) (env : ExecuteEnv) (tenantID : UUID)
    (toolName input : String) (req : Request)
    (hasked : (w.pipelines run.proc).asked env (invocation run tenantID toolName input) =
      some req) : ∃ autonomy, req.autonomy = some autonomy ∧ autonomy.level.num ≤ target.num := by
  subst hid
  have hbound := (bound_of_reaches h _ htightened).2
  exact ⟨_, asked_autonomy hasked, hbound.resolvedLevel_le hrun⟩

/-! ### A session that is tightened while it runs -/

def filesProcess : Fin 1 → Pipeline := fun _ => filePipeline fun _ _ => .ok [1]

/-- Hooks and classifier have no opinion. -/
def noObjection : ExecuteEnv := { preToolUse := {}, safety := noOpinion }

def filesCall (run : Run 1) : Invocation := invocation run 7 "files/write@1" (pathInput "a")

/-- An autonomous session is launched, its run is over before it makes a call, and the session is
tightened; then it is run again. -/
def tightenBetweenRuns : List (Action 1) :=
  [.create 1 "autonomous" (some 0), .leave 0, .readLevel 1 "read_only", .tighten 1 "read_only",
    .load 0 1 none, .start 0]

theorem tightenBetweenRuns_binds :
    ∃ w, (sessions 1 true).ReachesBy NoLaxerCopy (fresh filesProcess) w ∧
      (1, .readOnly) ∈ w.tightened ∧ ∃ run ∈ w.runs, ∃ req autonomy,
        (w.pipelines run.proc).asked noObjection (filesCall run) = some req ∧
          req.autonomy = some autonomy ∧ autonomy.level.num ≤ AutonomyLevel.readOnly.num := by
  refine Machine.ReachesBy.exists_of_runBy_imp tightenBetweenRuns
    (fun w => (1, .readOnly) ∈ w.tightened ∧ ∃ run ∈ w.runs, run.sessionID = 1 ∧
      ((w.pipelines run.proc).asked noObjection (filesCall run)).isSome) ?_
    fun w hreach ⟨htightened, run, hrun, hid, hasked⟩ => ?_
  · decide +kernel
  obtain ⟨req, hasked⟩ := Option.isSome_iff_exists.1 hasked
  obtain ⟨autonomy, hautonomy, hle⟩ := tightened_binds filesProcess w hreach 1 .readOnly htightened
    run hrun hid noObjection 7 "files/write@1" (pathInput "a") req hasked
  exact ⟨htightened, run, hrun, req, autonomy, hasked, hautonomy, hle⟩

/-- An autonomous session makes a call, and is tightened to `read_only`. -/
def tightenWhileRunning : List (Action 1) :=
  [.create 1 "autonomous" (some 0), .start 0,
    .execute 0 noObjection 7 "files/write@1" (pathInput "a"), .readLevel 1 "read_only",
    .tighten 1 "read_only"]

/-- Two tightenings both read that the session is autonomous. -/
def tightenTwice : List (Action 1) :=
  [.create 1 "autonomous" none, .readLevel 1 "read_only", .readLevel 1 "supervised",
    .tighten 1 "read_only", .tighten 1 "supervised"]

/-- The next call of the session is still resolved as an autonomous one, and a write goes on. So
it does for a run that was loaded after the tightening. And where another tightening had read the
row before, a session that was tightened to `read_only` ends as a supervised one. -/
theorem tightened_then_runs :
    (∃ w, (sessions 1 true).Reaches (fresh filesProcess) w ∧
      (1, .readOnly) ∈ w.tightened ∧ ∃ run ∈ w.runs, run.sessionID = 1 ∧ run.stage = .driven ∧
        ((w.pipelines run.proc).asked noObjection (filesCall run)).map Request.autonomy =
          some (some ⟨.autonomous⟩) ∧
        ((w.pipelines run.proc).execute noObjection (filesCall run)).1.isRight) ∧
    (∃ w, (sessions 1 true).Reaches (fresh filesProcess) w ∧
      (1, .readOnly) ∈ w.tightened ∧ w.rows 1 = some "read_only" ∧
      ∃ run ∈ w.runs, run.autonomyLevel = "read_only" ∧ run.stage = .driven ∧
        ((w.pipelines run.proc).execute noObjection (filesCall run)).1.isRight) ∧
    ∃ w, (sessions 1 true).Reaches (fresh filesProcess) w ∧
      (1, .readOnly) ∈ w.tightened ∧ w.rows 1 = some "supervised" := by
  refine ⟨?_, ?_, ?_⟩
  · apply Machine.Reaches.exists_of_run tightenWhileRunning
    decide +kernel
  · apply Machine.Reaches.exists_of_run
      (tightenWhileRunning ++ [.leave 0, .load 0 1 (some ⟨false, false, false⟩), .start 0])
    decide +kernel
  · apply Machine.Reaches.exists_of_run tightenTwice
    decide +kernel

end NexusAgent.Levels
