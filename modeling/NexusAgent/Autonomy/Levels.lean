import NexusAgent.Lib.Machine
import NexusAgent.Tools.Gates

/-!
# The copies of a session's autonomy level

A session's autonomy level is a text in its row. A driver that loads the session copies it into
the configuration of a run (`internal/runctl/resume.go` and its siblings), every tool call of the
run carries that copy, and the pipeline of a process pins the first copy that it sees and goes by
it from then on (`internal/tools/pipeline.go`, `stateFor`). Reading or folding the taint of a
session that the process has not seen pins the strictest level. `TightenAutonomy`
(`internal/runctl/autonomy.go`) reads the row, checks the move against what it has read, and
updates the row by its identifier: the read takes no lock and the store reads what is committed, so
that the row may have changed in between. `Spawn` (`internal/delegate/spawn.go`) writes the
row of a child, folds its parent's taint into it, and runs it.

`sessions` is the machine of any number of processes and sessions. Each transaction is a step, and
so is each thing that a process does in memory; a `TightenAutonomy` is two, its read and its
commit.

- `asked_autonomy`: the level that a call is resolved at.
-/

namespace NexusAgent.Levels

open Permissions Tools

/-! ### The level that a pipeline goes by -/

def levelOf (text : String) : AutonomyLevel :=
  match parseAutonomyLevel text with
  | .ok level => level
  | .error _ => .readOnly

lemma levelOf_nonneg (text : String) : 0 ≤ (levelOf text).num := by
  unfold levelOf parseAutonomyLevel
  split_ifs <;> simp [AutonomyLevel.num]

def pinned (p : Pipeline) (sessionID : UUID) : Option AutonomyLevel :=
  (p.sessions sessionID).map fun s => s.autonomy.level

/-- The level that a call of a session goes by when it carries a text. -/
def resolvedLevel (p : Pipeline) (sessionID : UUID) (text : String) : AutonomyLevel :=
  (pinned p sessionID).getD (levelOf text)

lemma stateFor_level (p : Pipeline) (sessionID : UUID) (text : String) :
    (p.stateFor sessionID text).1.autonomy.level = resolvedLevel p sessionID text := by
  unfold Pipeline.stateFor resolvedLevel pinned
  cases p.sessions sessionID <;> rfl

variable {p p' : Pipeline}

theorem asked_autonomy {env : ExecuteEnv} {inv : Invocation} {req : Request}
    (h : p.asked env inv = some req) :
    req.autonomy = some ⟨resolvedLevel p inv.sessionID inv.autonomyLevel⟩ := by
  unfold Pipeline.asked at h
  split at h
  · nomatch h
  next d hbind =>
  split at h
  · nomatch h
  next gate2 hook d' hhooks =>
    cases h
    have hbound := Pipeline.bindCall_ok hbind
    have hhooked := Pipeline.askHooks_ok hhooks
    rw [← stateFor_level, ← hbound.inv_eq, ← hhooked.inv_eq]
    rfl

/-- From `p` to `p'` at most one session was pinned, at a level. -/
def Pins (p p' : Pipeline) (sessionID : UUID) (level : AutonomyLevel) : Prop :=
  ∀ s, pinned p' s = pinned p s ∨
    s = sessionID ∧ pinned p s = none ∧ pinned p' s = some level

lemma pins_refl (p : Pipeline) (sessionID : UUID) (level : AutonomyLevel) :
    Pins p p sessionID level := fun _ => .inl rfl

lemma pinned_setSession (p : Pipeline) (sessionID s : UUID) (state : SessionState) :
    pinned (p.setSession sessionID state) s =
      if s = sessionID then some state.autonomy.level else pinned p s := by
  unfold pinned Pipeline.setSession
  by_cases h : s = sessionID <;> simp [h]

/-- A session's state that is looked up, and possibly put back with other legs, is pinned. -/
lemma pins_stateFor (p : Pipeline) (sessionID : UUID) (text : String) :
    Pins p (p.stateFor sessionID text).2 sessionID (levelOf text) := by
  intro s
  unfold Pipeline.stateFor
  cases hs : p.sessions sessionID with
  | some state => exact .inl rfl
  | none =>
    rw [pinned_setSession]
    by_cases heq : s = sessionID
    · subst heq
      exact .inr ⟨rfl, by simp [pinned, hs], if_pos rfl⟩
    · exact .inl (if_neg heq)

lemma pinned_stateFor (p : Pipeline) (sessionID : UUID) (text : String) :
    pinned (p.stateFor sessionID text).2 sessionID
      = some (p.stateFor sessionID text).1.autonomy.level := by
  unfold Pipeline.stateFor
  cases hs : p.sessions sessionID with
  | some state => simp [pinned, hs]
  | none =>
    rw [pinned_setSession, if_pos rfl]

lemma pins_setSession {sessionID : UUID} {text : String} (legs : TaintState)
    (hp' : p'.sessions = (p.stateFor sessionID text).2.sessions) :
    Pins p (p'.setSession sessionID
      { (p.stateFor sessionID text).1 with taintState := legs }) sessionID (levelOf text) := by
  have hpinned (s : UUID) : pinned p' s = pinned (p.stateFor sessionID text).2 s := by
    unfold pinned
    rw [hp']
  intro s
  rw [pinned_setSession]
  by_cases heq : s = sessionID
  · subst heq
    rw [if_pos rfl, ← pinned_stateFor]
    exact pins_stateFor p s text s
  · rw [if_neg heq, hpinned]
    exact pins_stateFor p sessionID text s

section

variable (p : Pipeline)

lemma pins_seedTaint (sessionID : UUID) (text : String) (engaged : TaintState) :
    Pins p (p.seedTaint sessionID text engaged) sessionID (levelOf text) :=
  pins_setSession _ rfl

lemma pins_foldTaint (sessionID : UUID) (engaged : TaintState) :
    Pins p (p.foldTaint sessionID engaged) sessionID .readOnly :=
  pins_seedTaint p sessionID "" engaged

lemma pins_taintStateFor (sessionID : UUID) :
    Pins p (p.taintStateFor sessionID).2 sessionID .readOnly :=
  pins_stateFor p sessionID ""

lemma pins_decideCall (env : ExecuteEnv) (gate2 hook : LayerOutcome) (d : Dispatch) :
    Pins p (p.decideCall env gate2 hook d).2 d.inv.sessionID (levelOf d.inv.autonomyLevel) := by
  unfold Pipeline.decideCall
  dsimp only
  split
  · exact pins_stateFor p d.inv.sessionID d.inv.autonomyLevel
  · split <;> exact pins_setSession _ rfl

lemma pins_execute (env : ExecuteEnv) (inv : Invocation) :
    Pins p (p.execute env inv).2 inv.sessionID (levelOf inv.autonomyLevel) := by
  unfold Pipeline.execute
  split
  · exact pins_refl p _ _
  next d hbind =>
  split
  · exact pins_refl p _ _
  next gate2 hook d' hhooks =>
    have hbound := Pipeline.bindCall_ok hbind
    have hhooked := Pipeline.askHooks_ok hhooks
    rw [← hbound.inv_eq, ← hhooked.inv_eq]
    exact pins_decideCall p env gate2 hook d'

lemma pins_executeApproved (inv : Invocation) (approvedDigest : Digest) :
    Pins p (p.executeApproved inv approvedDigest).2 inv.sessionID (levelOf inv.autonomyLevel) := by
  unfold Pipeline.executeApproved
  split
  · exact pins_refl p _ _
  · split
    · exact pins_refl p _ _
    · exact pins_stateFor p inv.sessionID inv.autonomyLevel

end

/-! ### Processes and sessions -/

/-- The check of `TightenAutonomy`: the level to be written, for the one that was read. -/
def tightenAutonomy (sessionID : UUID) (current target : String) : Except String String :=
  match parseAutonomyLevel target with
  | .error err => .error ("runctl: tighten autonomy: " ++ err)
  | .ok targetLevel =>
    match parseAutonomyLevel current with
    | .error err =>
      .error ("runctl: tighten autonomy: session " ++ sessionID.string ++
        " has an unparseable autonomy level " ++ Go.quote current ++ ": " ++ err)
    | .ok currentLevel =>
      match Autonomy.tighten ⟨currentLevel⟩ targetLevel with
      | .error err => .error ("runctl: " ++ err)
      | .ok _ => .ok target

/-- The level that `CreateSession` records. -/
def recordedLevel (text : String) : String := if text = "" then "supervised" else text

inductive Stage
  /-- `Spawn` has committed the rows of a child. -/
  | spawned (parent : UUID)
  /-- A driver has loaded the session, with the legs that it seeds, if it is one that does. -/
  | loaded (engaged : Option TaintState)
  /-- The kernel is called. -/
  | driven
  deriving DecidableEq

structure Run (n : ℕ) where
  proc : Fin n
  sessionID : UUID
  autonomyLevel : String
  stage : Stage

/-- The rows of the sessions, and `n` processes with what they run. -/
structure World (n : ℕ) where
  rows : UUID → Option String := fun _ => none
  pipelines : Fin n → Pipeline
  runs : List (Run n) := []
  /-- The tightenings that have read the row and passed the check. -/
  tightenings : List (UUID × String) := []
  /-- The tightenings that were committed. -/
  tightened : List (UUID × AutonomyLevel) := []

inductive Action (n : ℕ)
  | create (sessionID : UUID) (autonomyLevel : String) (launcher : Option (Fin n))
  /-- A driver reads a session's row and, if it is one that seeds, its legs. -/
  | load (proc : Fin n) (sessionID : UUID) (engaged : Option TaintState)
  /-- `Spawn`, its transaction. -/
  | spawn (proc : Fin n) (parent child : UUID)
  /-- A run comes to the kernel: a child takes over its parent's legs, a loaded session those of
  its log. -/
  | start (i : ℕ)
  | execute (i : ℕ) (env : ExecuteEnv) (tenantID : UUID) (toolName input : String)
  | executeApproved (i : ℕ) (tenantID : UUID) (toolName input : String) (digest : Digest)
  /-- A child's legs are folded into its parent's. -/
  | finalize (proc : Fin n) (parent child : UUID)
  /-- The legs of a card are folded into its reader's. -/
  | readCard (proc : Fin n) (reader : UUID) (engaged : TaintState)
  /-- The legs of a session are read, for a card that it writes. -/
  | writeCard (proc : Fin n) (writer : UUID)
  /-- `TightenAutonomy` reads the row. -/
  | readLevel (sessionID : UUID) (target : String)
  /-- Its transaction commits, which it need not do. -/
  | tighten (sessionID : UUID) (target : String)
  | leave (i : ℕ)
  /-- A process loses its memory and everything that it runs. -/
  | restart (proc : Fin n)

namespace World

variable {n : ℕ}

def setPipeline (w : World n) (proc : Fin n) (p : Pipeline) : World n :=
  { w with pipelines := Function.update w.pipelines proc p }

def create (w : World n) (sessionID : UUID) (autonomyLevel : String) (runs : List (Run n)) :
    Option (World n) :=
  if w.rows sessionID = none then
    some { w with
      rows := Function.update w.rows sessionID (some (recordedLevel autonomyLevel))
      runs := w.runs ++ runs }
  else none

/-- What a run does in memory before the kernel is called; `wired` says whether the service that
spawned it holds the pipeline. -/
def prepare (w : World n) (wired : Bool) (run : Run n) : World n :=
  let p := w.pipelines run.proc
  match run.stage with
  | .spawned parent =>
    if wired then
      let (engaged, p) := p.taintStateFor parent
      w.setPipeline run.proc (p.foldTaint run.sessionID engaged)
    else w
  | .loaded (some engaged) =>
    w.setPipeline run.proc (p.seedTaint run.sessionID run.autonomyLevel engaged)
  | .loaded none | .driven => w

def invocation (run : Run n) (tenantID : UUID) (toolName input : String) : Invocation :=
  { tenantID, sessionID := run.sessionID, toolName, input, autonomyLevel := run.autonomyLevel }

def readLevel (w : World n) (sessionID : UUID) (target : String) : Option (World n) :=
  (w.rows sessionID).bind fun current =>
    (tightenAutonomy sessionID current target).toOption.map fun level =>
      { w with tightenings := w.tightenings ++ [(sessionID, level)] }

/-- `SetAutonomyLevel`: whatever the row has come to be. -/
def tighten (w : World n) (sessionID : UUID) (target : String) : Option (World n) :=
  if w.tightenings.contains (sessionID, target) then
    some { w with
      rows := Function.update w.rows sessionID (some target)
      tightenings := w.tightenings.erase (sessionID, target)
      tightened := w.tightened ++ [(sessionID, levelOf target)] }
  else none

end World

/-- The machine of `n` processes. Delegations and teams read and fold legs only if they are
wired to the pipeline; they do so for sessions that exist. -/
def sessions (n : ℕ) (wired : Bool) : Machine (World n) (Action n) where
  step w
    | .create sessionID autonomyLevel launcher =>
      w.create sessionID autonomyLevel
        (launcher.toList.map fun proc =>
          { proc, sessionID, autonomyLevel, stage := .loaded none })
    | .load proc sessionID engaged =>
      (w.rows sessionID).map fun autonomyLevel =>
        { w with runs := w.runs ++ [{ proc, sessionID, autonomyLevel, stage := .loaded engaged }] }
    | .spawn proc parent child =>
      (w.rows parent).bind fun autonomyLevel =>
        w.create child autonomyLevel
          [{ proc, sessionID := child, autonomyLevel, stage := .spawned parent }]
    | .start i =>
      w.runs[i]?.map fun run =>
        { w.prepare wired run with runs := w.runs.set i { run with stage := .driven } }
    | .execute i env tenantID toolName input =>
      w.runs[i]?.bind fun run =>
        if run.stage = .driven then
          some (w.setPipeline run.proc ((w.pipelines run.proc).execute env
            (World.invocation run tenantID toolName input)).2)
        else none
    | .executeApproved i tenantID toolName input digest =>
      w.runs[i]?.bind fun run =>
        if run.stage = .driven then
          some (w.setPipeline run.proc ((w.pipelines run.proc).executeApproved
            (World.invocation run tenantID toolName input) digest).2)
        else none
    | .finalize proc parent child =>
      if wired ∧ (w.rows parent).isSome ∧ (w.rows child).isSome then
        let (engaged, p) := (w.pipelines proc).taintStateFor child
        some (w.setPipeline proc (p.foldTaint parent engaged))
      else none
    | .readCard proc reader engaged =>
      if wired ∧ (w.rows reader).isSome then
        some (w.setPipeline proc ((w.pipelines proc).foldTaint reader engaged))
      else none
    | .writeCard proc writer =>
      if wired ∧ (w.rows writer).isSome then
        some (w.setPipeline proc ((w.pipelines proc).taintStateFor writer).2)
      else none
    | .readLevel sessionID target => w.readLevel sessionID target
    | .tighten sessionID target => w.tighten sessionID target
    | .leave i => some { w with runs := w.runs.eraseIdx i }
    | .restart proc =>
      some { w.setPipeline proc { w.pipelines proc with sessions := fun _ => none } with
        runs := w.runs.filter fun run => run.proc ≠ proc }

/-- Processes that have just started, and no sessions. -/
def fresh {n : ℕ} (pipeline : Fin n → Pipeline) : World n :=
  { pipelines := fun proc => { pipeline proc with sessions := fun _ => none } }

/-! ### What a step can do to the copies -/

/-- From `p` to `p'` sessions were pinned only at levels that `R` allows. -/
def PinsBy (R : UUID → AutonomyLevel → Prop) (p p' : Pipeline) : Prop :=
  ∀ s, pinned p' s = pinned p s ∨
    pinned p s = none ∧ ∃ level, R s level ∧ pinned p' s = some level

lemma Pins.pinsBy {R : UUID → AutonomyLevel → Prop} {sessionID : UUID} {level : AutonomyLevel}
    (h : Pins p p' sessionID level) (hR : R sessionID level) : PinsBy R p p' := by
  intro s
  rcases h s with heq | ⟨rfl, hnone, hsome⟩
  · exact .inl heq
  · exact .inr ⟨hnone, level, hR, hsome⟩

lemma PinsBy.trans {R : UUID → AutonomyLevel → Prop} {p'' : Pipeline} (h : PinsBy R p p')
    (h' : PinsBy R p' p'') : PinsBy R p p'' := by
  intro s
  rcases h' s with heq | ⟨hnone, level, hR, hsome⟩
  · rw [heq]
    exact h s
  · -- what was not pinned in between was not pinned before
    rcases h s with heq | ⟨_, level', _, hsome'⟩
    · exact .inr ⟨heq ▸ hnone, level, hR, hsome⟩
    · exact absurd (hnone.symm.trans hsome') (by simp)

namespace World

variable {n : ℕ}

/-- A session that the processes can have heard of. -/
def Known (w : World n) (s : UUID) : Prop :=
  (w.rows s).isSome ∨ ∃ run ∈ w.runs, run.sessionID = s ∨ run.stage = .spawned s

def MayPin (w : World n) (wired : Bool) (proc : Fin n) (s : UUID) (level : AutonomyLevel) : Prop :=
  (wired = true ∧ level = .readOnly ∧ w.Known s) ∨
    ∃ run ∈ w.runs, run.proc = proc ∧ run.sessionID = s ∧ level = levelOf run.autonomyLevel

/-- `run'` is `run`, or what the kernel was called for. -/
def Continues (run run' : Run n) : Prop := run' = run ∨ run' = { run with stage := .driven }

/-- What a step from `w` to `w'` can do to the copies of the levels. -/
structure Effect (w : World n) (wired : Bool) (a : Action n) (w' : World n) : Prop where
  row : ∀ s, w'.rows s = w.rows s ∨
    w.rows s = none ∧ (∃ text, w'.rows s = some (recordedLevel text)) ∨
    ∃ target, a = .tighten s target ∧ (s, target) ∈ w.tightenings ∧ w'.rows s = some target
  run : ∀ run' ∈ w'.runs, (∃ run ∈ w.runs, Continues run run') ∨
    (∀ s, run'.stage = .spawned s → (w.rows s).isSome) ∧
    (w.rows run'.sessionID = some run'.autonomyLevel ∨
      w.rows run'.sessionID = none ∧
        w'.rows run'.sessionID = some (recordedLevel run'.autonomyLevel))
  pins : ∀ proc, PinsBy (w.MayPin wired proc) (w.pipelines proc) (w'.pipelines proc) ∨
    (∀ s, pinned (w'.pipelines proc) s = none) ∧ ∀ run ∈ w'.runs, run.proc ≠ proc
  reads : ∀ e ∈ w'.tightenings, e ∈ w.tightenings ∨ e.2 ≠ ""
  tightened : ∀ e ∈ w'.tightened, e ∈ w.tightened ∨
    ∃ target, a = .tighten e.1 target ∧ e.2 = levelOf target

lemma pinsBy_refl (R : UUID → AutonomyLevel → Prop) (p : Pipeline) : PinsBy R p p :=
  fun _ => .inl rfl

variable {a : Action n} {wired : Bool} {runs : List (Run n)} {sessionID : UUID} {w : World n}

/-- A step that keeps the rows, and of the processes changes only the pipeline of one. -/
lemma Effect.of_setPipeline {proc : Fin n} {p : Pipeline}
    (hpins : PinsBy (w.MayPin wired proc) (w.pipelines proc) p)
    (hruns : ∀ run' ∈ runs, ∃ run ∈ w.runs, Continues run run') :
    w.Effect wired a { w.setPipeline proc p with runs } := by
  refine ⟨fun _ => .inl rfl, fun run' h => .inl (hruns run' h), fun q => .inl ?_, fun _ => .inl,
    fun _ => .inl⟩
  by_cases heq : q = proc
  · subst heq
    simpa [setPipeline] using hpins
  · simpa [setPipeline, heq] using pinsBy_refl _ _

lemma continues_refl (w : World n) : ∀ run' ∈ w.runs, ∃ run ∈ w.runs, Continues run run' :=
  fun run' h => ⟨run', h, .inl rfl⟩

/-- A step that keeps the rows and the pipelines. -/
lemma Effect.of_runs (hruns : ∀ run' ∈ runs, (∃ run ∈ w.runs, Continues run run') ∨
      (∀ s, run'.stage = .spawned s → (w.rows s).isSome) ∧
        w.rows run'.sessionID = some run'.autonomyLevel) : w.Effect wired a { w with runs } :=
  ⟨fun _ => .inl rfl, fun run' h => (hruns run' h).imp_right (And.imp_right .inl),
    fun _ => .inl (pinsBy_refl _ _), fun _ => .inl, fun _ => .inl⟩

lemma Effect.of_create {w' : World n} {autonomyLevel : String}
    (hruns : ∀ run ∈ runs, run.sessionID = sessionID ∧ run.autonomyLevel = autonomyLevel ∧
      ∀ s, run.stage = .spawned s → (w.rows s).isSome)
    (h : w.create sessionID autonomyLevel runs = some w') : w.Effect wired a w' := by
  unfold create at h
  split at h
  next hnone =>
    cases h
    refine ⟨fun s => ?_, fun run' hrun' => ?_, fun _ => .inl (pinsBy_refl _ _), fun _ => .inl,
      fun _ => .inl⟩
    · by_cases hs : s = sessionID
      · subst hs
        exact .inr (.inl ⟨hnone, autonomyLevel, Function.update_self ..⟩)
      · exact .inl (Function.update_of_ne hs ..)
    · rcases List.mem_append.1 hrun' with hrun' | hrun'
      · exact .inl (continues_refl w run' hrun')
      · obtain ⟨hid, hlevel, hparent⟩ := hruns run' hrun'
        refine .inr ⟨hparent, .inr ⟨hid ▸ hnone, ?_⟩⟩
        rw [hid, hlevel]
        exact Function.update_self ..
  · nomatch h

lemma tightenAutonomy_ne {current target level : String}
    (h : (tightenAutonomy sessionID current target).toOption = some level) : level ≠ "" := by
  unfold tightenAutonomy at h
  split at h
  · nomatch h
  next targetLevel htarget =>
  split at h
  · nomatch h
  · split at h
    · nomatch h
    · cases h
      rintro rfl
      nomatch htarget

lemma Effect.of_readLevel {w' : World n} {target : String}
    (h : w.readLevel sessionID target = some w') : w.Effect wired a w' := by
  obtain ⟨current, level, -, hlevel, rfl⟩ := Option.bind_map_some h
  have hne := tightenAutonomy_ne hlevel
  exact ⟨fun _ => .inl rfl, fun run' hrun' => .inl (continues_refl w run' hrun'),
    fun _ => .inl (pinsBy_refl _ _), List.forall_mem_snoc (fun _ => .inl) (.inr hne), fun _ => .inl⟩

lemma Effect.of_tighten {w' : World n} {target : String}
    (h : w.tighten sessionID target = some w') :
    w.Effect wired (.tighten sessionID target) w' := by
  obtain ⟨hread, h⟩ := Option.ite_none_right_eq_some.1 h
  cases h
  refine ⟨fun s => ?_, fun run' hrun' => .inl (continues_refl w run' hrun'),
    fun _ => .inl (pinsBy_refl _ _), fun _ he => .inl (List.mem_of_mem_erase he),
    List.forall_mem_snoc (fun _ => .inl) (.inr ⟨target, rfl, rfl⟩)⟩
  by_cases hs : s = sessionID
  · subst hs
    exact .inr (.inr ⟨target, rfl, List.contains_iff_mem.1 hread, Function.update_self ..⟩)
  · exact .inl (Function.update_of_ne hs ..)

lemma mayPin_run {run : Run n} (hrun : run ∈ w.runs) :
    w.MayPin wired run.proc run.sessionID (levelOf run.autonomyLevel) :=
  .inr ⟨run, hrun, rfl, rfl, rfl⟩

lemma mayPin_readOnly {proc : Fin n} {s : UUID} (hknown : w.Known s) :
    w.MayPin true proc s .readOnly :=
  .inl ⟨rfl, rfl, hknown⟩

/-- The legs of one session are read and folded into those of another. -/
lemma pinsBy_fold (proc : Fin n) {source target : UUID} (hsource : w.Known source)
    (htarget : w.Known target) :
    PinsBy (w.MayPin true proc) (w.pipelines proc)
      (((w.pipelines proc).taintStateFor source).2.foldTaint target
        ((w.pipelines proc).taintStateFor source).1) :=
  ((pins_taintStateFor _ source).pinsBy (mayPin_readOnly hsource)).trans
    ((pins_foldTaint _ target _).pinsBy (mayPin_readOnly htarget))

lemma Effect.of_start {i : ℕ} {run : Run n} (hi : w.runs[i]? = some run) :
    w.Effect wired a
      { w.prepare wired run with runs := w.runs.set i { run with stage := .driven } } := by
  have hrun : run ∈ w.runs := List.mem_of_getElem? hi
  have hruns : ∀ run' ∈ w.runs.set i { run with stage := .driven },
      ∃ run ∈ w.runs, Continues run run' := by
    intro run' hrun'
    rcases List.mem_or_eq_of_mem_set hrun' with hrun' | rfl
    · exact continues_refl w run' hrun'
    · exact ⟨run, hrun, .inr rfl⟩
  have hkeep : w.Effect wired a { w with runs := w.runs.set i { run with stage := .driven } } :=
    Effect.of_runs fun run' hrun' => .inl (hruns run' hrun')
  unfold prepare
  cases hstage : run.stage with
  | spawned parent =>
    cases wired with
    | false => exact hkeep
    | true =>
      refine Effect.of_setPipeline (pinsBy_fold run.proc ?_ ?_) hruns
      · exact .inr ⟨run, hrun, .inr hstage⟩
      · exact .inr ⟨run, hrun, .inl rfl⟩
  | loaded engaged =>
    cases engaged with
    | none => exact hkeep
    | some engaged =>
      exact Effect.of_setPipeline ((pins_seedTaint _ _ _ engaged).pinsBy (mayPin_run hrun)) hruns
  | driven => exact hkeep

end World

open World in
/-- What a step can do to the copies of the levels. -/
theorem effect_of_step {n : ℕ} {wired : Bool} {w w' : World n} {a : Action n}
    (h : (sessions n wired).step w a = some w') : w.Effect wired a w' := by
  cases a with
  | create sessionID autonomyLevel launcher =>
    refine Effect.of_create (fun run hrun => ?_) h
    obtain ⟨proc, _, rfl⟩ := List.mem_map.1 hrun
    exact ⟨rfl, rfl, nofun⟩
  | load proc sessionID engaged =>
    obtain ⟨autonomyLevel, hrow, rfl⟩ := Option.map_eq_some_iff.1 h
    exact Effect.of_runs (List.forall_mem_snoc (fun run hrun => .inl (continues_refl w run hrun))
      (.inr ⟨nofun, hrow⟩))
  | spawn proc parent child =>
    obtain ⟨autonomyLevel, hrow, h⟩ := Option.bind_eq_some_iff.1 h
    refine Effect.of_create (fun run hrun => ?_) h
    obtain rfl := List.mem_singleton.1 hrun
    refine ⟨rfl, rfl, fun s hs => ?_⟩
    obtain rfl := Stage.spawned.inj hs
    simp [hrow]
  | start i =>
    obtain ⟨run, hi, rfl⟩ := Option.map_eq_some_iff.1 h
    exact Effect.of_start hi
  | execute i env tenantID toolName input =>
    obtain ⟨run, hi, h⟩ := Option.bind_eq_some_iff.1 h
    split_ifs at h
    cases h
    exact Effect.of_setPipeline
      ((pins_execute _ _ _).pinsBy (mayPin_run (List.mem_of_getElem? hi))) (continues_refl w)
  | executeApproved i tenantID toolName input digest =>
    obtain ⟨run, hi, h⟩ := Option.bind_eq_some_iff.1 h
    split_ifs at h
    cases h
    exact Effect.of_setPipeline
      ((pins_executeApproved _ _ _).pinsBy (mayPin_run (List.mem_of_getElem? hi)))
      (continues_refl w)
  | finalize proc parent child =>
    dsimp only [sessions] at h
    split_ifs at h with hguard
    obtain ⟨rfl, hparent, hchild⟩ := hguard
    cases h
    exact Effect.of_setPipeline (pinsBy_fold proc (.inl hchild) (.inl hparent)) (continues_refl w)
  | readCard proc reader engaged =>
    dsimp only [sessions] at h
    split_ifs at h with hguard
    obtain ⟨rfl, hreader⟩ := hguard
    cases h
    exact Effect.of_setPipeline
      ((pins_foldTaint _ _ _).pinsBy (mayPin_readOnly (.inl hreader))) (continues_refl w)
  | writeCard proc writer =>
    dsimp only [sessions] at h
    split_ifs at h with hguard
    obtain ⟨rfl, hwriter⟩ := hguard
    cases h
    exact Effect.of_setPipeline
      ((pins_taintStateFor _ _).pinsBy (mayPin_readOnly (.inl hwriter))) (continues_refl w)
  | readLevel sessionID target => exact Effect.of_readLevel h
  | tighten sessionID target => exact Effect.of_tighten h
  | leave i =>
    cases h
    exact Effect.of_runs fun run' hrun' =>
      .inl (continues_refl w run' (List.mem_of_mem_eraseIdx hrun'))
  | restart proc =>
    cases h
    refine ⟨fun _ => .inl rfl, fun run' hrun' => ?_, fun q => ?_, fun _ => .inl, fun _ => .inl⟩
    · exact .inl (continues_refl w run' (List.mem_of_mem_filter hrun'))
    · by_cases heq : q = proc
      · subst heq
        refine .inr ⟨fun s => by simp [setPipeline, pinned], fun run hrun => ?_⟩
        simpa using List.of_mem_filter hrun
      · exact .inl (by simpa [setPipeline, heq] using pinsBy_refl _ _)

end NexusAgent.Levels
