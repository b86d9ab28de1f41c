import NexusAgent.Teams.Lifecycle

/-!
# When a team is complete

`maybeComplete` ends a team as completed when it counts no open or claimed card and no member that
is still active (`BoardAndMemberCounts` in `internal/teams/postgres/store.go`). The members are
counted by their sessions. `CreateTeam` creates these one after another, each in a transaction of
its own and while earlier members are already running, and only logs it when one of them fails.
The two counts are two queries, and a card that is opened between them is not counted.
-/

namespace NexusAgent.Teams

/-- A team that is completed has been found so, and whenever it was, its roster was done. -/
def CompletedDone (w : World) : Prop := ∀ teamID team, w.store.teams teamID = some team →
  team.status = .completed →
    (∃ v ∈ w.verdicts, v.teamID = teamID) ∧ ∀ v ∈ w.verdicts, v.teamID = teamID → v.done = true

/-- The team whose members a call is about to count. -/
def counting : Process Op Op.Answer (Option (Unit × Unit)) → Option UUID
  | .ask (.countMembers teamID _) _ => some teamID
  | _ => none

/-- The members of a team are counted only when all of them have been spawned. -/
def AllSpawned (p : Calls) : PoolAction Task Script → Prop
  | .exec i _ => ∀ r ∈ p.running[i]?, ∀ teamID ∈ counting r.live, p.world.store.Spawned teamID
  | _ => True

instance (p : Calls) (a : PoolAction Task Script) : Decidable (AllSpawned p a) := by
  cases a <;> unfold AllSpawned <;> infer_instance

/-- No card of a team is opened while a call has counted its cards and not yet its members. -/
def NoneOpened (canceler : Bool) (p : Calls) (a : PoolAction Task Script) : Prop :=
  ∀ p' ∈ (lifecycle canceler).machine.step p a, ∀ r ∈ p.running, ∀ teamID ∈ r.note.board,
    p.world.store.openOrClaimed teamID = [] → p'.world.store.openOrClaimed teamID = []

/-- The two counts of a team see the whole roster, and the same board. -/
def Steady (canceler : Bool) (p : Calls) (a : PoolAction Task Script) : Prop :=
  AllSpawned p a ∧ NoneOpened canceler p a

instance (canceler : Bool) (p : Calls) (a : PoolAction Task Script) :
    Decidable (Steady canceler p a) := by
  unfold Steady NoneOpened
  infer_instance

/-! ### Who completes a team has counted it -/

def Judged (w : World) : Prop := ∀ teamID team, w.store.teams teamID = some team →
  team.status = .completed → ∃ v ∈ w.verdicts, v.teamID = teamID

def Found (w : World) (q : Note) : Prop :=
  ∀ teamID ∈ q.complete, ∃ v ∈ w.verdicts, v.teamID = teamID

lemma Found.mono {w w' : World} {q : Note} {vs : List Verdict}
    (hverdicts : w'.verdicts = w.verdicts ++ vs) (h : Found w q) : Found w' q := by
  intro teamID hq
  obtain ⟨v, hv, hid⟩ := h teamID hq
  exact ⟨v, hverdicts ▸ List.mem_append_left vs hv, hid⟩

lemma noteAfter_cards (q : Note) (teamID : UUID) (openOrClaimed : ℕ) :
    noteAfter q (.countCards teamID) (.ok openOrClaimed : Except String ℕ) =
      { q with board := if openOrClaimed = 0 then some teamID else none } := by
  cases openOrClaimed <;> rfl

lemma noteAfter_members (q : Note) (teamID : UUID) (openOrClaimed activeMembers : ℕ) :
    noteAfter q (.countMembers teamID openOrClaimed) (.ok activeMembers : Except String ℕ) =
      if openOrClaimed = 0 ∧ activeMembers = 0 then { complete := some teamID }
      else { q with board := none } := by
  cases openOrClaimed <;> cases activeMembers <;> rfl

/-- Who finds a team complete leaves a verdict. -/
lemma found_noteAfter {w w' : World} {o : Op} {t : Script} {a : o.Answer} {q : Note}
    (h : w.handle o t = some (a, w')) (hq : Found w q) : Found w' (noteAfter q o a) := by
  obtain ⟨hhandle, hverdicts⟩ := World.handle_eq_some h
  cases o with
  | countCards teamID =>
    match a with
    | .error _ => exact hq.mono hverdicts
    | .ok openOrClaimed =>
      rw [noteAfter_cards]
      exact hq.mono hverdicts
  | countMembers teamID openOrClaimed =>
    obtain ⟨rfl, -⟩ := Prod.mk.inj (Option.some.inj hhandle)
    by_cases ht : t = []
    · rw [answered, if_pos ht]
      cases openOrClaimed <;> exact hq.mono hverdicts
    rw [answered, if_neg ht, noteAfter_members]
    split
    next hzero =>
      rintro _ ⟨⟩
      rw [Store.verdict, if_pos ⟨ht, hzero⟩] at hverdicts
      exact ⟨_, hverdicts ▸ List.mem_append_right _ (List.mem_singleton_self _), rfl⟩
    next => exact hq.mono hverdicts
  | _ => exact hq.mono hverdicts

/-- Who notes that a team has nothing open has just counted so. -/
lemma board_noteAfter {w w' : World} {o : Op} {t : Script} {a : o.Answer} {q : Note}
    {teamID : UUID} (h : w.handle o t = some (a, w'))
    (hboard : teamID ∈ (noteAfter q o a).board) : w'.store.openOrClaimed teamID = [] := by
  obtain ⟨hhandle, -⟩ := World.handle_eq_some h
  cases o with
  | countCards countedID =>
    obtain ⟨rfl, hstore⟩ := Prod.mk.inj (Option.some.inj hhandle)
    by_cases ht : t = []
    · rw [answered, if_pos ht] at hboard
      nomatch hboard
    rw [answered, if_neg ht, noteAfter_cards] at hboard
    obtain ⟨hzero, hid⟩ := Option.ite_none_right_eq_some.1 hboard
    rw [← hstore, ← Option.some.inj hid]
    exact List.length_eq_zero_iff.1 hzero
  | countMembers countedID openOrClaimed =>
    match a with
    | .error _ => cases openOrClaimed <;> nomatch hboard
    | .ok activeMembers =>
      rw [noteAfter_members] at hboard
      split at hboard <;> nomatch hboard
  | _ => nomatch hboard

/-- What calls keep to, whoever else is at work. -/
def judging (canceler : Bool) : Upkeep (lifecycle canceler) where
  World := Judged
  Note := Found
  admits := admits
  Ended _ := True
  blank _ _ h := nomatch h
  follows := follows_program canceler
  exec {w q o t a w'} hw hq hadmits hhandle := by
    refine ⟨fun teamID team hteam hstatus => ?_, found_noteAfter hhandle hq⟩
    obtain ⟨hmove, hverdicts⟩ := World.handle_eq_some hhandle
    have hold (h : w.store.teams teamID = some team) : ∃ v ∈ w'.verdicts, v.teamID = teamID := by
      obtain ⟨v, hv, hid⟩ := hw teamID team h hstatus
      exact ⟨v, hverdicts ▸ List.mem_append_left _ hv, hid⟩
    cases moved_handle hmove with
    | same hteams => exact hold (hteams ▸ hteam)
    | @created _ newID new _ hactive hteams =>
      by_cases hid : teamID = newID
      · subst hid
        rw [hteams, Function.update_self] at hteam
        cases hteam
        nomatch hactive.symm.trans hstatus
      · rw [hteams, Function.update_of_ne hid] at hteam
        exact hold hteam
    | @ended endedID _ status _ _ _ _ hteams =>
      by_cases hid : teamID = endedID
      · subst hid
        rw [hteams, Function.update_self] at hteam
        cases hteam
        exact hq.mono hverdicts teamID (hadmits.2 hstatus)
      · rw [hteams, Function.update_of_ne hid] at hteam
        exact hold hteam
  frame _ _ _ hhandle hq := hq.mono (World.handle_eq_some hhandle).2

/-! ### A verdict on a team whose members have been spawned -/

lemma done_of_mem_verdict {s : Store} {t : Script} {o : Op} {v : Verdict}
    (hcounted : ∀ teamID, o = .countMembers teamID 0 →
      s.Spawned teamID ∧ s.openOrClaimed teamID = [])
    (hv : v ∈ s.verdict t o) : v.done = true := by
  cases o with
  | countMembers teamID openOrClaimed =>
    simp only [Store.verdict] at hv
    split at hv
    next hzero =>
      obtain rfl := List.mem_singleton.1 hv
      obtain ⟨-, rfl, hmembers⟩ := hzero
      obtain ⟨hspawned, hcards⟩ := hcounted teamID rfl
      rw [Store.openOrClaimed, List.filter_eq_nil_iff] at hcards
      rw [List.length_eq_zero_iff, Store.activeMembers, List.filter_eq_nil_iff] at hmembers
      refine decide_eq_true ⟨hspawned, fun x hx hteam => ?_, fun c hc hteam => ?_⟩
      · simpa [hteam] using hmembers x hx
      · simpa [hteam] using hcards c hc
    next => nomatch hv
  | _ => nomatch hv

/-- In a steady run: the assertions of `judging`, the boards that calls have counted empty are so
still, and every verdict was right. -/
structure Right (canceler : Bool) (p : Calls) : Prop where
  holds : (judging canceler).Holds p
  board : ∀ r ∈ p.running, ∀ teamID ∈ r.note.board, p.world.store.openOrClaimed teamID = []
  done : ∀ v ∈ p.world.verdicts, v.done = true

lemma Right.step {canceler : Bool} {p p' : Calls} {a : PoolAction Task Script}
    (h : Right canceler p) (hsteady : Steady canceler p a)
    (hst : (lifecycle canceler).machine.step p a = some p') : Right canceler p' := by
  obtain ⟨hspawned, hopened⟩ := hsteady
  have htaken := Workforce.taken_of_step hst
  have hholds := (judging canceler).step h.holds htaken
  have hboard (r) (hr : r ∈ p.running) (teamID) (hid : teamID ∈ r.note.board) :
      p'.world.store.openOrClaimed teamID = [] :=
    hopened p' hst r hr teamID hid (h.board r hr teamID hid)
  cases htaken with
  | start job =>
    exact ⟨hholds, List.forall_mem_snoc hboard nofun, h.done⟩
  | cut hrunning =>
    rw [hrunning, List.forall_mem_split] at hboard
    exact ⟨hholds, hboard.2, h.done⟩
  | @exec before after r o k t _ _ hrunning hlive hhandle =>
    have hmem : r ∈ p.running := by simp [hrunning]
    have hadmits : admits r.note o := (hlive ▸ h.holds.follows r hmem).1
    rw [hrunning, List.forall_mem_split] at hboard
    refine ⟨hholds, List.forall_mem_split.2 ⟨fun teamID hid => board_noteAfter hhandle hid,
      hboard.2⟩, ?_⟩
    rw [(World.handle_eq_some hhandle).2]
    refine List.forall_mem_append.2 ⟨h.done, fun v hv => done_of_mem_verdict ?_ hv⟩
    rintro teamID rfl
    refine ⟨hspawned r ?_ teamID (by rw [hlive]; rfl), h.board r hmem teamID (hadmits rfl)⟩
    rw [hrunning]
    exact List.getElem?_append_right le_rfl |>.trans (by simp)

/-- In every run in which the members of a team are counted only when all have been spawned, and no
card of it is opened between the two counts: a team that is completed was found complete by some
call, and whenever a call has found it so, each entry of its roster had a session, all its sessions
were in a terminal status, and none of its cards was open or claimed. -/
theorem completed_done {canceler : Bool} {p : Calls}
    (h : (lifecycle canceler).machine.ReachesBy (Steady canceler) { world := {} } p) :
    CompletedDone p.world := by
  have hinitial : (judging canceler).Holds { world := {} } :=
    ⟨nofun, nofun, nofun⟩
  have hright : Right canceler p := h.invariant (I := Right canceler)
    ⟨hinitial, nofun, nofun⟩
    fun _ _ _ hright hsteady hst => hright.step hsteady hst
  exact fun teamID team hteam hstatus =>
    ⟨hright.holds.world teamID team hteam hstatus, fun v hv _ => hright.done v hv⟩

/-- The team of one member is completed, and was done. -/
theorem solo_done :
    ∃ p : Calls, (lifecycle true).machine.ReachesBy (Steady true) { world := {} } p ∧
      (p.world.store.teams 2).map Team.status = some .completed ∧ CompletedDone p.world := by
  refine Machine.ReachesBy.exists_of_runBy_imp soloRun
    (fun p => (p.world.store.teams 2).map Team.status = some .completed) ?_
    fun p hreach hstatus => ⟨hstatus, completed_done hreach⟩
  decide +kernel

/-- Session 1 creates the team 2 of two members, and the session of the first one, 4. -/
def twoMembers : List (PoolAction Task Script) :=
  [.start (.outside (.createSession 0)), .exec 0 [some 1],
   .start (.createTeam { solo with members := solo.members ++ solo.members }),
   .exec 1 [some 0, some 2, some 3, some 0, some 0], .exec 1 [some 0, some 4, some 0]]

/-- The first member completes, and the call that follows counts the team before the second is
spawned. -/
def earlyRun : List (PoolAction Task Script) :=
  twoMembers ++
  [.start (.outside (.setStatus 4 .completed (some "completed"))), .exec 2 [],
   .start (.onMemberTerminal 4), .exec 3 [some 0], .exec 3 [some 0], .exec 3 [some 0],
   .exec 3 [some 0], .exec 3 [some 0, some 5, some 0]]

/-- The card of the second member. -/
def lateCard : Card where
  cardID := 6
  teamID := 2
  title := "review"
  body := "review the draft"
  taintState := {}
  scanStatus := .clean
  writtenBySessionID := 5

/-- Both members are spawned and the first completes. Between the two counts of the call that
follows, the second one opens a card and completes. -/
def lateCardRun : List (PoolAction Task Script) :=
  twoMembers ++
  [.exec 1 [some 0], .exec 1 [some 0, some 5, some 0], .exec 1 [some 0],
   .start (.outside (.setStatus 4 .completed (some "completed"))), .exec 2 [],
   .start (.onMemberTerminal 4), .exec 3 [some 0], .exec 3 [some 0],
   .start (.outside (.putCard lateCard)), .exec 4 [],
   .start (.outside (.setStatus 5 .completed (some "completed"))), .exec 5 [],
   .exec 3 [some 0], .exec 3 [some 0], .exec 3 [some 0, some 7, some 0]]

lemma not_completedDone {w : World} (hstatus : (w.store.teams 2).map Team.status = some .completed)
    (hverdicts : w.verdicts = [⟨2, false⟩]) : ¬ CompletedDone w := by
  obtain ⟨team, hteam, hstatus⟩ := Option.map_eq_some_iff.1 hstatus
  intro h
  have hdone := (h 2 team hteam hstatus).2 ⟨2, false⟩ (hverdicts ▸ List.mem_singleton_self _) rfl
  nomatch hdone

/-- A team is completed with one of its two members never spawned. And a team whose members have
all been spawned is completed with an open card. -/
theorem earlyMember_completes :
    (∃ p : Calls, (lifecycle true).machine.Reaches { world := {} } p ∧ ¬ CompletedDone p.world) ∧
    ∃ p : Calls, (lifecycle true).machine.ReachesBy AllSpawned { world := {} } p ∧
      p.world.store.openOrClaimed 2 ≠ [] ∧ ¬ CompletedDone p.world := by
  constructor
  · refine Machine.Reaches.exists_of_run_imp earlyRun
      (fun p => (p.world.store.teams 2).map Team.status = some .completed ∧
        p.world.verdicts = [⟨2, false⟩]) ?_
      fun p _ ⟨hstatus, hverdicts⟩ => not_completedDone hstatus hverdicts
    decide +kernel
  · refine Machine.ReachesBy.exists_of_runBy_imp lateCardRun
      (fun p => p.world.store.openOrClaimed 2 ≠ [] ∧
        (p.world.store.teams 2).map Team.status = some .completed ∧
        p.world.verdicts = [⟨2, false⟩]) ?_
      fun p _ ⟨hopen, hstatus, hverdicts⟩ => ⟨hopen, not_completedDone hstatus hverdicts⟩
    decide +kernel

end NexusAgent.Teams
