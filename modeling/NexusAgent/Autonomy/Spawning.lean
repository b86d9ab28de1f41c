import NexusAgent.Autonomy.Tightening

/-!
# The autonomy of a child

`Spawn` records the parent's autonomy level in the row of a child and configures the child's run
with it. Before the run starts it folds the parent's taint into the child's, in a process that has
not seen the child: `FoldTaint` has no level to pin and pins the strictest one, which then decides
every call of the child in that process.

- `Rooted.step`: levels are pinned, and runs exist, only for sessions that have a row.
-/

namespace NexusAgent.Levels

open Permissions Tools World

variable {n : ℕ}

/-! ### Levels that no session has -/

/-- Nothing is known of a session that has no row, and no row is empty or is to be. -/
structure Rooted (w : World n) : Prop where
  pin : ∀ proc s, w.rows s = none → pinned (w.pipelines proc) s = none
  run : ∀ run ∈ w.runs, w.rows run.sessionID ≠ none
  parent : ∀ run ∈ w.runs, ∀ s, run.stage = .spawned s → w.rows s ≠ none
  row : ∀ s, w.rows s ≠ some ""
  read : ∀ e ∈ w.tightenings, e.2 ≠ ""

lemma recordedLevel_ne (text : String) : recordedLevel text ≠ "" := by
  unfold recordedLevel
  split_ifs with h
  · decide
  · exact h

variable {a : Action n} {wired : Bool} {text : String} {s : UUID} {w w' : World n}

lemma Rooted.known (hrooted : Rooted w) (hknown : w.Known s) : w.rows s ≠ none := by
  rcases hknown with hrow | ⟨run, hrun, rfl | hstage⟩
  · exact Option.isSome_iff_ne_none.1 hrow
  · exact hrooted.run run hrun
  · exact hrooted.parent run hrun s hstage

lemma World.Effect.row_ne_none (heffect : w.Effect wired a w') (h : w.rows s ≠ none) :
    w'.rows s ≠ none := by
  rcases heffect.row s with heq | ⟨hnone, -⟩ | ⟨target, -, -, hrow⟩
  · exact heq ▸ h
  · exact absurd hnone h
  · simp [hrow]

theorem Rooted.step (hrooted : Rooted w) (heffect : w.Effect wired a w') : Rooted w' := by
  refine ⟨fun proc s hrow => ?_, fun run' hrun' => ?_, fun run' hrun' s hstage => ?_, fun s => ?_,
    fun e he => (heffect.reads e he).elim (hrooted.read e) id⟩
  · have hbefore : w.rows s = none := by
      by_contra hne
      exact heffect.row_ne_none hne hrow
    rcases heffect.pins proc with hpins | ⟨hcleared, -⟩
    · rcases hpins s with heq | ⟨-, level, hmay, -⟩
      · exact heq.trans (hrooted.pin proc s hbefore)
      · -- only sessions that are known are pinned
        rcases hmay with ⟨-, -, hknown⟩ | ⟨run, hrun, -, rfl, -⟩
        · exact absurd hbefore (hrooted.known hknown)
        · exact absurd hbefore (hrooted.run run hrun)
    · exact hcleared s
  · rcases heffect.run run' hrun' with ⟨run, hrun, rfl | rfl⟩ | ⟨-, hrow | ⟨-, hrow⟩⟩
    · exact heffect.row_ne_none (hrooted.run _ hrun)
    · exact heffect.row_ne_none (hrooted.run run hrun)
    · exact heffect.row_ne_none (by simp [hrow])
    · simp [hrow]
  · rcases heffect.run run' hrun' with ⟨run, hrun, rfl | rfl⟩ | ⟨hparent, -⟩
    · exact heffect.row_ne_none (hrooted.parent _ hrun s hstage)
    · nomatch hstage
    · exact heffect.row_ne_none (Option.isSome_iff_ne_none.1 (hparent s hstage))
  · rcases heffect.row s with heq | ⟨-, text, hrow⟩ | ⟨target, -, hread, hrow⟩
    · exact heq ▸ hrooted.row s
    · rw [hrow]
      exact fun h => recordedLevel_ne text (Option.some.inj h)
    · rw [hrow]
      exact fun h => hrooted.read _ hread (Option.some.inj h)

lemma rooted_of_reaches {pipeline : Fin n → Pipeline}
    (h : (sessions n wired).Reaches (fresh pipeline) w) : Rooted w :=
  h.invariant (I := Rooted)
    ⟨fun _ _ _ => rfl, List.forall_mem_nil _, List.forall_mem_nil _,
      nofun, List.forall_mem_nil _⟩
    fun _ _ _ hrooted hstep => hrooted.step (effect_of_step hstep)

/-! ### The child's level -/

structure At (w : World n) (s : UUID) (text : String) : Prop where
  row : w.rows s = some text
  run : ∀ run ∈ w.runs, run.sessionID = s → run.autonomyLevel = text
  pin : ∀ proc level, pinned (w.pipelines proc) s = some level → level = levelOf text

def NotTightening (s : UUID) (_ : World n) : Action n → Prop
  | .tighten sessionID _ => sessionID ≠ s
  | _ => True

/-- A step that does not tighten a session keeps its copies the same, unless it can pin the
strictest level for want of another. -/
theorem At.step (hat : At w s text) (hsafe : wired = false ∨ levelOf text = .readOnly)
    (hguard : NotTightening s w a) (heffect : w.Effect wired a w') : At w' s text := by
  refine ⟨?_, fun run' hrun' hid => ?_, fun proc level hlevel => ?_⟩
  · rcases heffect.row s with heq | ⟨hnone, -⟩ | ⟨target, rfl, -⟩
    · exact heq.trans hat.row
    · exact absurd (hat.row.symm.trans hnone) (by simp)
    · exact absurd rfl hguard
  · rcases heffect.run run' hrun' with ⟨run, hrun, rfl | rfl⟩ | ⟨-, hrow | ⟨hrow, -⟩⟩
    · exact hat.run _ hrun hid
    · exact hat.run run hrun hid
    · rw [hid] at hrow
      exact Option.mem_unique hrow hat.row
    · rw [hid] at hrow
      exact absurd (hat.row.symm.trans hrow) (by simp)
  · rcases heffect.pins proc with hpins | ⟨hcleared, -⟩
    · rcases hpins s with heq | ⟨-, level', hmay, hsome⟩
      · exact hat.pin proc level (heq ▸ hlevel)
      · obtain rfl : level' = level := Option.mem_unique hsome hlevel
        rcases hmay with ⟨hwired, hreadOnly, -⟩ | ⟨run, hrun, -, hid, hrunLevel⟩
        · rcases hsafe with hnotWired | hstrictest
          · exact absurd (hwired.symm.trans hnotWired) (by simp)
          · exact hreadOnly.trans hstrictest.symm
        · rw [hrunLevel, hat.run run hrun hid]
    · exact absurd ((hcleared s).symm.trans hlevel) (by simp)

def ResolvedAt (w : World n) (s : UUID) (level : AutonomyLevel) : Prop :=
  ∀ run ∈ w.runs, run.sessionID = s → run.stage = .driven →
    resolvedLevel (w.pipelines run.proc) s run.autonomyLevel = level

lemma At.resolvedAt (hat : At w s text) : ResolvedAt w s (levelOf text) := by
  intro run hrun hid _
  unfold resolvedLevel
  cases hpinned : pinned (w.pipelines run.proc) s with
  | none => rw [Option.getD_none, hat.run run hrun hid]
  | some level => exact hat.pin run.proc level hpinned

/-- `Spawn` records a child that nothing is known of. -/
lemma at_of_spawn {proc : Fin n} {parent child : UUID} {level : String} (hrooted : Rooted w)
    (hparent : w.rows parent = some level)
    (hspawn : (sessions n wired).step w (.spawn proc parent child) = some w') :
    At w' child level ∧ w'.runs = w.runs ++
      [{ proc, sessionID := child, autonomyLevel := level, stage := .spawned parent }] ∧
    ∀ q, pinned (w'.pipelines q) child = none := by
  obtain ⟨text, htext, hcreate⟩ := Option.bind_eq_some_iff.1 hspawn
  obtain rfl : text = level := Option.mem_unique htext hparent
  have hne : text ≠ "" := fun h => hrooted.row parent (h ▸ hparent)
  unfold World.create at hcreate
  split_ifs at hcreate with hfresh
  cases hcreate
  have hpin (q : Fin n) : pinned (w.pipelines q) child = none := hrooted.pin q child hfresh
  refine ⟨⟨?_, List.forall_mem_snoc (fun run hrun hid => ?_)
    fun _ => rfl, fun q level hlevel => ?_⟩, rfl, hpin⟩
  · simp [recordedLevel, hne]
  · exact absurd (hid ▸ hfresh) (hrooted.run run hrun)
  · exact absurd ((hpin q).symm.trans hlevel) (by simp)

/-- A fold into a session that the process has not seen pins the strictest level. -/
lemma pinned_foldTaint {p : Pipeline} (engaged : TaintState) (h : pinned p s = none) :
    pinned (p.foldTaint s engaged) s = some .readOnly := by
  have hnone : p.sessions s = none := Option.map_eq_none_iff.1 h
  simp [Pipeline.foldTaint, Pipeline.seedTaint, pinned_setSession, Pipeline.stateFor, hnone]
  rfl

lemma spawned_start {proc : Fin n} {parent child : UUID} {level : String} (hne : child ≠ parent)
    {i : ℕ} (hi : w.runs[i]? =
      some { proc, sessionID := child, autonomyLevel := level, stage := .spawned parent })
    (hnone : pinned (w.pipelines proc) child = none) :
    ∃ w', (sessions n true).step w (.start i) = some w' ∧
      ∃ run ∈ w'.runs, run.sessionID = child ∧ run.stage = .driven ∧
        resolvedLevel (w'.pipelines run.proc) child run.autonomyLevel = .readOnly := by
  -- reading the parent's legs does not touch the child
  have hstill : pinned ((w.pipelines proc).taintStateFor parent).2 child = none := by
    rcases pins_taintStateFor (w.pipelines proc) parent child with heq | ⟨heq, -⟩
    · exact heq.trans hnone
    · exact absurd heq hne
  refine ⟨_, congrArg (Option.map _) hi, _, List.mem_set (List.getElem?_eq_some_iff.1 hi).1 _,
    rfl, rfl, ?_⟩
  simp [World.prepare, setPipeline, resolvedLevel, pinned_foldTaint _ hstill]

/-- After a `Spawn` every call of the child, in every run and process and until the child is
tightened, is resolved at the level of its row exactly if delegations are not wired to the
pipeline, or that level is the strictest. -/
theorem spawned_level_iff {wired : Bool} (pipeline : Fin n → Pipeline) (w w₁ : World n)
    (hreach : (sessions n wired).Reaches (fresh pipeline) w) (proc : Fin n) (parent child : UUID)
    (level : String) (hparent : w.rows parent = some level)
    (hspawn : (sessions n wired).step w (.spawn proc parent child) = some w₁) :
    w₁.rows child = some level ∧
    ((∀ w₂, (sessions n wired).ReachesBy (NotTightening child) w₁ w₂ →
        w₂.rows child = some level ∧ ResolvedAt w₂ child (levelOf level)) ↔
      wired = false ∨ levelOf level = .readOnly) := by
  have hrooted := rooted_of_reaches hreach
  obtain ⟨hat, hruns, hpins⟩ := at_of_spawn hrooted hparent hspawn
  refine ⟨hat.row, fun hall => ?_, fun hsafe w₂ hreach₂ => ?_⟩
  · by_contra hunsafe
    obtain ⟨hwired, hlevel⟩ := not_or.1 hunsafe
    obtain rfl := Bool.eq_true_of_not_eq_false hwired
    -- the child is not its parent, which had a row before
    have hne : child ≠ parent := by
      rintro rfl
      obtain ⟨_, -, hcreate⟩ := Option.bind_eq_some_iff.1 hspawn
      simp [World.create, hparent] at hcreate
    have hlast : w₁.runs[w.runs.length]? = some
        { proc, sessionID := child, autonomyLevel := level, stage := .spawned parent } := by
      rw [hruns]
      exact List.getElem?_concat_length
    obtain ⟨w₂, hstart, run, hrun, hid, hdriven, hreadOnly⟩ :=
      spawned_start hne hlast (hpins proc)
    have hguard : NotTightening child w₁ (.start w.runs.length) := trivial
    have hresolved := (hall w₂ (Machine.ReachesBy.refl.tail hguard hstart)).2
    exact hlevel ((hresolved run hrun hid hdriven).symm.trans hreadOnly)
  · have hat₂ : At w₂ child level :=
      hreach₂.invariant (I := fun w => At w child level) hat
        fun _ _ _ hat hguard hstep => hat.step hsafe hguard (effect_of_step hstep)
    exact ⟨hat₂.row, hat₂.resolvedAt⟩

/-! ### A supervised parent -/

/-- A supervised parent that is not wired to the pipeline, and its child. -/
theorem unwired_child_supervised :
    ∃ w w₁, (sessions 1 false).Reaches (fresh filesProcess) w ∧
      (sessions 1 false).step w (.spawn 0 1 2) = some w₁ ∧
      ∀ w₂, (sessions 1 false).ReachesBy (NotTightening 2) w₁ w₂ →
        w₂.rows 2 = some "supervised" ∧ ResolvedAt w₂ 2 .supervised := by
  obtain ⟨w, hreach, hrow, hspawn⟩ : ∃ w, (sessions 1 false).Reaches (fresh filesProcess) w ∧
      w.rows 1 = some "supervised" ∧ ((sessions 1 false).step w (.spawn 0 1 2)).isSome := by
    apply Machine.Reaches.exists_of_run [.create 1 "supervised" (some 0), .start 0]
    decide +kernel
  obtain ⟨w₁, hspawn⟩ := Option.isSome_iff_exists.1 hspawn
  have hiff := (spawned_level_iff filesProcess w w₁ hreach 0 1 2 "supervised" hrow hspawn).2
  exact ⟨w, w₁, hreach, hspawn, hiff.2 (.inl rfl)⟩

/-- The child of a supervised parent has a supervised row and a supervised run, and its first
write is denied for a read-only session. The parent's would have been asked about. -/
theorem supervised_child_denied :
    ∃ w, (sessions 1 true).Reaches (fresh filesProcess) w ∧
      w.rows 2 = some "supervised" ∧ ∃ run ∈ w.runs, run.sessionID = 2 ∧ run.stage = .driven ∧
        run.autonomyLevel = "supervised" ∧
        ((w.pipelines run.proc).asked noObjection (filesCall run)).map Request.autonomy =
          some (some ⟨.readOnly⟩) := by
  apply Machine.Reaches.exists_of_run
    [.create 1 "supervised" (some 0), .start 0, .spawn 0 1 2, .start 1]
  decide +kernel

end NexusAgent.Levels
