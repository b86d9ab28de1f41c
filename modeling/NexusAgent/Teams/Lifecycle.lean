import NexusAgent.EventLog.Appender
import NexusAgent.Lib.Pool
import NexusAgent.Teams.Board

/-!
# The life of a team

Creating a team, and ending it (`internal/teams/lifecycle.go`, `internal/teams/postgres/store.go`).
`CreateTeam` inserts the team with its cards in one transaction and then spawns one member after
another. Whatever may have driven a member to its end calls `OnMemberTerminal`; a sweep ends teams
that have been active for too long. Both come to `endTeam`, whose last transaction takes the team
out of `active` and appends the event that says so.

A call is a program whose requests are its transactions. `lifecycle` is the machine of any number
of calls by any number of processes, each of which can be cut off between two transactions, together
with whatever else happens to sessions, cards and logs.
-/

namespace NexusAgent.Teams

open EventLog Permissions
open Routine (Keeps keeps_bind keeps_pure keeps_request request)
open UnitOfWork (bind_ok pure_ok statement_ok commit_cases)

/-! ### The store -/

/-- The status of a team. -/
inductive Status
  | active
  | completed
  | aborted
  | ceilingExhausted
  deriving DecidableEq

def Status.text : Status → String
  | .active => "active"
  | .completed => "completed"
  | .aborted => "aborted"
  | .ceilingExhausted => "ceiling_exhausted"

/-- One entry of a roster. -/
structure MemberSpec where
  agentID : String
  task : String

/-- A row of `teams`. -/
structure Team where
  name : String
  coordinatorSessionID : UUID
  roster : List MemberSpec
  envelopeID : Option UUID := none
  status : Status := .active
  reason : String := ""
  createdAt : ℕ

/-- A row of `sessions`. -/
structure Session where
  sessionID : UUID
  depth : ℕ := 0
  teamID : Option UUID := none
  /-- The entry of the roster that it was spawned for, which the row itself does not hold. -/
  member : Option ℕ := none
  status : SessionStatus := .queued
  terminalReason : Option String := none

/-- The payloads of the events of teams. -/
inductive Payload
  | teamCreated (teamID : UUID) (name : String) (roster : List String) (cardCount : ℕ)
  | teamEnded (teamID : UUID) (status : Status) (reason : String)
  | other

def Payload.endedTeam : Payload → Option UUID
  | .teamEnded teamID _ _ => some teamID
  | _ => none

/-- The database. -/
structure Store where
  now : ℕ := 0
  log : Log Payload := Log.empty
  sessions : List Session := []
  /-- The teams, by their identifiers, which `teamIDs` lists. -/
  teams : UUID → Option Team := fun _ => none
  teamIDs : List UUID := []
  cards : List Card := []

namespace Store

/-- `GetSession`. -/
def session? (s : Store) (sessionID : UUID) : Option Session :=
  s.sessions.find? (·.sessionID = sessionID)

/-- `SetSessionStatus`. -/
def setStatus (s : Store) (sessionID : UUID) (status : SessionStatus)
    (terminalReason : Option String) : Store :=
  { s with sessions := s.sessions.map fun x =>
             if x.sessionID = sessionID then { x with status, terminalReason } else x }

def putTeam (s : Store) (teamID : UUID) (team : Team) : Store :=
  { s with teams := Function.update s.teams teamID (some team) }

/-- The members of a team that have not come to an end. -/
def activeMembers (s : Store) (teamID : UUID) : List Session :=
  s.sessions.filter fun x => x.teamID = some teamID ∧ x.status.terminal = false

def openOrClaimed (s : Store) (teamID : UUID) : List Card :=
  s.cards.filter fun c => c.teamID = teamID ∧ (c.status = .opened ∨ c.status = .claimed)

def Spawned (s : Store) (teamID : UUID) : Prop :=
  ∀ team ∈ s.teams teamID, ∀ i < team.roster.length,
    ∃ x ∈ s.sessions, x.teamID = some teamID ∧ x.member = some i

instance (s : Store) (teamID : UUID) : Decidable (s.Spawned teamID) :=
  inferInstanceAs (Decidable (∀ team ∈ s.teams teamID, _))

/-- The roster of a team is done: each of its entries has a session, all sessions have come to an
end, and no card is open or claimed. -/
def RosterDone (s : Store) (teamID : UUID) : Prop :=
  s.Spawned teamID ∧
  (∀ x ∈ s.sessions, x.teamID = some teamID → x.status.terminal = true) ∧
  ∀ c ∈ s.cards, c.teamID = teamID → c.status ≠ .opened ∧ c.status ≠ .claimed

instance (s : Store) (teamID : UUID) : Decidable (s.RosterDone teamID) :=
  inferInstanceAs (Decidable (_ ∧ _ ∧ _))

def endings (s : Store) (teamID : UUID) : List (Event Payload) :=
  s.log.events.filter fun e => e.type = .teamEnded ∧ e.payload.endedTeam = some teamID

end Store

/-! ### Transactions -/

abbrev Work := UnitOfWork Store UUID String

def storeError : String := "store unavailable"

def append (sessionID : UUID) (type : EventType) (payload : Payload) : Work Unit :=
  appendSystem Store.log (fun s log => { s with log }) storeError sessionID type none none payload

/-- `CreateTeamRequest`, with the legs that the creator has engaged. -/
structure CreateTeamRequest where
  creatorSessionID : UUID
  name : String
  members : List MemberSpec
  cards : List CardSpec
  engaged : TaintState

def maxDepth : ℕ := 1

/-- `InsertTeam`, under a new identifier. -/
def insertTeam (req : CreateTeamRequest) : Work UUID :=
  UnitOfWork.statement storeError fun teamID s =>
    if s.teams teamID = none then
      let team : Team :=
        { name := req.name, coordinatorSessionID := req.creatorSessionID, roster := req.members
          createdAt := s.now }
      .ok (teamID, { s.putTeam teamID team with teamIDs := s.teamIDs ++ [teamID] })
    else .error storeError

/-- `CreateEnvelope` and `SetTeamEnvelope`. -/
def bindEnvelope (teamID : UUID) : Work UUID :=
  UnitOfWork.statement storeError fun envelopeID s =>
    match s.teams teamID with
    | some team => .ok (envelopeID, s.putTeam teamID { team with envelopeID := some envelopeID })
    | none => .error storeError

/-- `InsertCard` of a seed card. -/
def insertSeed (req : CreateTeamRequest) (teamID : UUID) (c : CardSpec) : Work Unit :=
  UnitOfWork.statement storeError fun cardID s =>
    .ok ((), { s with cards := s.cards ++
      [{ cardID, teamID, title := c.title, body := c.body, taintState := req.engaged
         scanStatus := .clean, writtenBySessionID := req.creatorSessionID }] })

/-- The seed cards, one after another. -/
def insertSeeds (req : CreateTeamRequest) (teamID : UUID) : List CardSpec → Work Unit
  | [] => pure ()
  | c :: cs => do
    insertSeed req teamID c
    insertSeeds req teamID cs

def getCreator (req : CreateTeamRequest) : Work Session :=
  UnitOfWork.statement storeError fun _ s =>
    match s.session? req.creatorSessionID with
    | none => .error "session not found"
    | some creator =>
      if creator.depth + 1 > maxDepth then
        .error ("teams: session " ++ req.creatorSessionID.string ++
          " may not create a team (depth bound exceeded — task 9.10)")
      else .ok (creator, s)

/-- The transaction of `CreateTeam`. -/
def createTeamWork (req : CreateTeamRequest) : Work (UUID × UUID × Session) := do
  let creator ← getCreator req
  let teamID ← insertTeam req
  let envelopeID ← bindEnvelope teamID
  insertSeeds req teamID req.cards
  append req.creatorSessionID .teamCreated
    (.teamCreated teamID req.name (req.members.map MemberSpec.agentID) req.cards.length)
  pure (teamID, envelopeID, creator)

/-- The transaction of `spawnMember`: a key and a session. -/
def createMemberWork (teamID : UUID) (creator : Session) (i : ℕ) : Work UUID := do
  UnitOfWork.statement storeError fun _ s => .ok ((), s)
  UnitOfWork.statement storeError fun memberID s =>
    if s.session? memberID = none then
      .ok (memberID, { s with sessions := s.sessions ++
        [{ sessionID := memberID, depth := creator.depth + 1, teamID := some teamID
           member := some i }] })
    else .error storeError

/-- `EndTeamIfActive`, which returns the coordinator if it has ended the team. -/
def endTeamIfActive (teamID : UUID) (status : Status) (reason : String) : Work (Option UUID) :=
  UnitOfWork.statement storeError fun _ s =>
    match s.teams teamID with
    | some team =>
      if team.status = .active then
        .ok (some team.coordinatorSessionID, s.putTeam teamID { team with status, reason })
      else .ok (none, s)
    | none => .ok (none, s)

/-- The last transaction of `endTeam`. -/
def endTeamWork (teamID : UUID) (status : Status) (reason : String) : Work Unit := do
  match ← endTeamIfActive teamID status reason with
  | none => pure ()
  | some coordinator => append coordinator .teamEnded (.teamEnded teamID status reason)

/-- `Cancel` of a member: one that has come to an end is left alone. -/
def cancelWork (sessionID : UUID) : Work Unit :=
  UnitOfWork.statement storeError fun _ s =>
    match s.session? sessionID with
    | none => .error "session not found"
    | some x =>
      .ok ((), if x.status.terminal then s else s.setStatus sessionID .failed (some "aborted"))

/-! ### Requests -/

/-- What others do. -/
inductive Outside
  | wait (d : ℕ)
  | createSession (depth : ℕ)
  | setStatus (sessionID : UUID) (status : SessionStatus) (terminalReason : Option String)
  /-- A card is written, claimed or moved. -/
  | putCard (card : Card)
  /-- An event that does not end a team. -/
  | append (sessionID : UUID) (type : EventType)

/-- The transactions of the calls; one that reads twice is two requests. -/
inductive Op
  | createTeam (req : CreateTeamRequest)
  | createMember (teamID : UUID) (creator : Session) (i : ℕ)
  | envelopeShare (envelopeID : UUID)
  | getSession (sessionID : UUID)
  /-- The first query of `BoardAndMemberCounts`. The store reads what is committed, so that the
  second one may see a later state. -/
  | countCards (teamID : UUID)
  /-- Its second query, after the first has counted so many cards. -/
  | countMembers (teamID : UUID) (openOrClaimed : ℕ)
  | listActiveMemberSessionIDs (teamID : UUID)
  | cancel (sessionID : UUID) (reason : String)
  | endTeam (teamID : UUID) (status : Status) (reason : String)
  | listStaleActiveTeamIDs (olderThan : ℕ)
  | outside (o : Outside)

def Op.Answer : Op → Type
  | .createTeam _ => Except String (UUID × UUID × Session)
  | .createMember .. => Except String UUID
  | .envelopeShare _ => Except String Unit
  | .getSession _ => Except String Session
  | .countCards _ => Except String ℕ
  | .countMembers .. => Except String ℕ
  | .listActiveMemberSessionIDs _ => Except String (List UUID)
  | .cancel .. => Except String Unit
  | .endTeam .. => Except String Unit
  | .listStaleActiveTeamIDs _ => Except String (List UUID)
  | .outside _ => Unit

/-- How the statements of a transaction go; a transaction that only reads goes through if any of
them does. -/
abbrev Script := List (Option UUID)

/-- The answer to a transaction that only reads. -/
def answered {α : Type} (t : Script) (a : Except String α) : Except String α :=
  if t = [] then .error storeError else a

/-- A card is inserted, or takes the place of the one with its identifier. -/
def Store.putCard (s : Store) (card : Card) : Store :=
  { s with cards := s.cards.filter (·.cardID ≠ card.cardID) ++ [card] }

/-- What others do to the store. -/
def Store.outside (s : Store) (t : Script) : Outside → Store
  | .wait d => { s with now := s.now + d }
  | .createSession depth =>
    match t with
    | some sessionID :: _ =>
      if s.session? sessionID = none then
        { s with sessions := s.sessions ++ [{ sessionID, depth }] }
      else s
    | _ => s
  | .setStatus sessionID status terminalReason => s.setStatus sessionID status terminalReason
  | .putCard card => s.putCard card
  | .append sessionID type =>
    if type = .teamEnded then s
    else (UnitOfWork.commit storeError (append sessionID type .other) t s).2

/-- A request is answered. -/
def Store.handle (s : Store) : (o : Op) → Script → Option (o.Answer × Store)
  | .createTeam req, t => some (UnitOfWork.commit storeError (createTeamWork req) t s)
  | .createMember teamID creator i, t =>
    some (UnitOfWork.commit storeError (createMemberWork teamID creator i) t s)
  | .envelopeShare _, t => some (answered t (.ok ()), s)
  | .getSession sessionID, t =>
    let found := match s.session? sessionID with
      | some x => .ok x
      | none => .error "session not found"
    some (answered t found, s)
  | .countCards teamID, t => some (answered t (.ok (s.openOrClaimed teamID).length), s)
  | .countMembers teamID _, t => some (answered t (.ok (s.activeMembers teamID).length), s)
  | .listActiveMemberSessionIDs teamID, t =>
    some (answered t (.ok ((s.activeMembers teamID).map Session.sessionID)), s)
  | .cancel sessionID _, t => some (UnitOfWork.commit storeError (cancelWork sessionID) t s)
  | .endTeam teamID status reason, t =>
    some (UnitOfWork.commit storeError (endTeamWork teamID status reason) t s)
  | .listStaleActiveTeamIDs olderThan, t =>
    let stale := s.teamIDs.filter fun id =>
      (s.teams id).any fun team => team.status = .active ∧ team.createdAt < olderThan
    some (answered t (.ok stale), s)
  | .outside o, t => some ((), s.outside t o)

/-- A team was found to have nothing open and nobody active, while its roster was done or not when
the members were counted. -/
structure Verdict where
  teamID : UUID
  done : Bool
  deriving DecidableEq

/-- What the counts of a team come to. -/
def Store.verdict (s : Store) (t : Script) : Op → List Verdict
  | .countMembers teamID openOrClaimed =>
    if t ≠ [] ∧ openOrClaimed = 0 ∧ (s.activeMembers teamID).length = 0 then
      [⟨teamID, decide (s.RosterDone teamID)⟩]
    else []
  | _ => []

/-- The database, and for the record the verdicts that calls have come to. -/
structure World where
  store : Store := {}
  verdicts : List Verdict := []

/-- A request is answered, and a verdict recorded. -/
def World.handle (w : World) (o : Op) (t : Script) : Option (o.Answer × World) :=
  (w.store.handle o t).map fun r =>
    (r.1, { store := r.2, verdicts := w.verdicts ++ w.store.verdict t o })

variable {req : CreateTeamRequest} {o : Op} {t t' : Script} {s s' : Store} {teamID : UUID}
  {u : Unit}

lemma World.handle_eq_some {w w' : World} {a : o.Answer} (h : w.handle o t = some (a, w')) :
    w.store.handle o t = some (a, w'.store) ∧
      w'.verdicts = w.verdicts ++ w.store.verdict t o := by
  obtain ⟨⟨a', s⟩, hhandle, heq⟩ := Option.map_eq_some_iff.1 h
  cases heq
  exact ⟨hhandle, rfl⟩

/-! ### The calls -/

/-- A call. -/
abbrev Call := Routine Unit Op Op.Answer

/-- A member is cancelled, and a failure only logged. Without a canceler it is left running. -/
def reap (canceler : Bool) (reason : String) (member : UUID) : Call Unit :=
  if canceler then do
    let _ ← request (Op.cancel member reason)
    pure ()
  else pure ()

/-- The members are reaped one after another. -/
def reapAll (canceler : Bool) (reason : String) : List UUID → Call Unit
  | [] => pure ()
  | m :: ms => do
    reap canceler reason m
    reapAll canceler reason ms

/-- `endTeam`: the members that are still active are reaped, and then the team is ended. -/
def endTeam (canceler : Bool) (teamID : UUID) (status : Status) (reason : String) : Call Unit := do
  let members : Except String (List UUID) ←
    request (Op.listActiveMemberSessionIDs teamID)
  match members with
  | .error _ => pure ()
  | .ok ms =>
    reapAll canceler ("team " ++ status.text ++ ": " ++ reason) ms
    let _ ← request (Op.endTeam teamID status reason)
    pure ()

def maybeComplete (canceler : Bool) (teamID : UUID) : Call Unit := do
  let cards : Except String ℕ ← request (Op.countCards teamID)
  match cards with
  | .error _ => pure ()
  | .ok openOrClaimed =>
    let members : Except String ℕ ← request (Op.countMembers teamID openOrClaimed)
    match members with
    | .error _ => pure ()
    | .ok activeMembers =>
      if openOrClaimed = 0 ∧ activeMembers = 0 then
        endTeam canceler teamID .completed
          "board emptied and every member reached a terminal state"
      else pure ()

def onMemberTerminal (canceler : Bool) (memberSessionID : UUID) : Call Unit := do
  let found : Except String Session ← request (Op.getSession memberSessionID)
  match found with
  | .error _ => pure ()
  | .ok member =>
    match member.teamID with
    | none => pure ()
    | some teamID =>
      if member.status.terminal = false then pure ()
      else if member.terminalReason = some "cost_exhausted" then
        endTeam canceler teamID .ceilingExhausted ("member session " ++ memberSessionID.string ++
          " exhausted the shared team budget envelope")
      else maybeComplete canceler teamID

/-- The stale teams are ended one after another. -/
def endAll (canceler : Bool) : List UUID → Call Unit
  | [] => pure ()
  | id :: ids => do
    endTeam canceler id .aborted "wall-clock backstop exceeded"
    endAll canceler ids

def sweepBackstop (canceler : Bool) (olderThan : ℕ) : Call Unit := do
  let stale : Except String (List UUID) ← request (Op.listStaleActiveTeamIDs olderThan)
  match stale with
  | .error _ => pure ()
  | .ok ids => endAll canceler ids

/-- `spawnMember`, up to the start of the member's own run. -/
def spawnMember (teamID envelopeID : UUID) (creator : Session) (i : ℕ) : Call Unit := do
  let created : Except String UUID ← request (Op.createMember teamID creator i)
  match created with
  | .error _ => pure ()
  | .ok _ =>
    let _ ← request (Op.envelopeShare envelopeID)
    pure ()

/-- The members from entry `i` of the roster on; a member that cannot be spawned is only logged. -/
def spawnMembers (teamID envelopeID : UUID) (creator : Session) : ℕ → List MemberSpec → Call Unit
  | _, [] => pure ()
  | i, _ :: ms => do
    spawnMember teamID envelopeID creator i
    spawnMembers teamID envelopeID creator (i + 1) ms

def createTeam (req : CreateTeamRequest) : Call Unit :=
  if req.members = [] then pure ()
  else do
    let created : Except String (UUID × UUID × Session) ← request (Op.createTeam req)
    match created with
    | .error _ => pure ()
    | .ok (teamID, envelopeID, creator) => spawnMembers teamID envelopeID creator 0 req.members

/-- What is called. -/
inductive Task
  | createTeam (req : CreateTeamRequest)
  | onMemberTerminal (memberSessionID : UUID)
  | sweepBackstop (olderThan : ℕ)
  | outside (o : Outside)

def Task.program (canceler : Bool) : Task → Call Unit
  | .createTeam req => Teams.createTeam req
  | .onMemberTerminal memberSessionID => Teams.onMemberTerminal canceler memberSessionID
  | .sweepBackstop olderThan => Teams.sweepBackstop canceler olderThan
  | .outside o => do
    let _ ← request (Op.outside o)
    pure ()

/-- What a call has found out. -/
structure Note where
  /-- The team that has nothing open, by the request that was made last. -/
  board : Option UUID := none
  /-- The team that has nothing open and nobody active. -/
  complete : Option UUID := none

/-- The note after a request. -/
def noteAfter (q : Note) : (o : Op) → o.Answer → Note
  | .countCards teamID, (.ok 0 : Except String ℕ) => { q with board := some teamID }
  | .countMembers teamID 0, (.ok 0 : Except String ℕ) => { complete := some teamID }
  | _, _ => { q with board := none }

/-- The calls on teams, by any number of processes. -/
def lifecycle (canceler : Bool) : Workforce Task World Note Op Op.Answer Script where
  program := Task.program canceler
  handle := World.handle
  blank := {}
  note := noteAfter

/-- The database and the calls that are under way. -/
abbrev Calls := Pool World Note Op Op.Answer

/-! ### What the calls keep to -/

/-- A team is taken out of `active`, and declared complete only by a call that has found it so; its
members are counted right after its cards. -/
def admits (q : Note) : Op → Prop
  | .countMembers teamID openOrClaimed => openOrClaimed = 0 → q.board = some teamID
  | .endTeam teamID status _ => status ≠ .active ∧ (status = .completed → q.complete = some teamID)
  | _ => True

section

variable {canceler : Bool} {I : Option UUID → Prop}

lemma keeps_other {o : Op} (hnote : ∀ q a, (noteAfter q o a).complete = q.complete)
    (h : ∀ q, I q.complete → admits q o) :
    Keeps ((lifecycle canceler).protocol admits) (fun _ q => I q.complete)
      (request o : Call (Op.Answer o)) := by
  refine keeps_request fun _ q hq => ⟨h q hq, ?_⟩
  rintro a _ rfl
  show I (noteAfter q o a).complete
  rw [hnote]
  exact hq

lemma keeps_reapAll (reason : String) (ms : List UUID) :
    Keeps ((lifecycle canceler).protocol admits) (fun _ q => I q.complete)
      (reapAll canceler reason ms) := by
  induction ms with
  | nil => exact keeps_pure ()
  | cons m ms ih =>
    refine keeps_bind ?_ fun _ => ih
    unfold reap
    split
    · exact keeps_bind (keeps_other (fun _ _ => rfl) fun _ _ => trivial) fun _ =>
        keeps_pure ()
    · exact keeps_pure ()

lemma keeps_endTeam (teamID : UUID) {status : Status} (hstatus : status ≠ .active)
    (reason : String) (hI : ∀ id?, I id? → status = .completed → id? = some teamID) :
    Keeps ((lifecycle canceler).protocol admits) (fun _ q => I q.complete)
      (endTeam canceler teamID status reason) := by
  refine keeps_bind (keeps_other (fun _ _ => rfl) fun _ _ => trivial) fun members => ?_
  split
  · exact keeps_pure ()
  · refine keeps_bind (keeps_reapAll _ _) fun _ => keeps_bind ?_ fun _ =>
      keeps_pure ()
    exact keeps_other (fun _ _ => rfl) fun _ hq => ⟨hstatus, hI _ hq⟩

/-- Any note will do, before and after. -/
abbrev Sound (canceler : Bool) (c : Call Unit) : Prop :=
  Keeps ((lifecycle canceler).protocol admits) (fun _ _ => True) c

lemma sound_other {o : Op} (h : ∀ q, admits q o) :
    Keeps ((lifecycle canceler).protocol admits) (fun _ _ => True)
      (request o : Call (Op.Answer o)) :=
  keeps_request fun _ q _ => ⟨h q, fun _ _ _ => trivial⟩

lemma sound_maybeComplete (teamID : UUID) : Sound canceler (maybeComplete canceler teamID) := by
  intro _ q _
  refine Routine.wp_bind.2 (Routine.wp_request.2 ⟨trivial, ?_⟩)
  rintro (cards : Except String ℕ) _ rfl
  match cards with
  | .error _ => trivial
  | .ok openOrClaimed =>
    refine Routine.wp_bind.2 (Routine.wp_request.2 ⟨fun hzero => hzero ▸ rfl, ?_⟩)
    rintro (members : Except String ℕ) _ rfl
    match members with
    | .error _ => trivial
    | .ok activeMembers =>
      dsimp only
      split
      next hzero =>
        -- the counts are what the note records
        obtain ⟨rfl, rfl⟩ := hzero
        have hend : Keeps ((lifecycle canceler).protocol admits)
            (fun _ q => q.complete = some teamID) (endTeam canceler teamID .completed _) :=
          keeps_endTeam (I := (· = some teamID)) teamID (by decide)
            "board emptied and every member reached a terminal state" fun _ hq _ => hq
        exact Routine.wp_mono (hend () _ rfl) fun _ _ _ _ => trivial
      next => trivial

lemma sound_onMemberTerminal (memberSessionID : UUID) :
    Sound canceler (onMemberTerminal canceler memberSessionID) := by
  refine keeps_bind (sound_other fun _ => trivial) fun found => ?_
  split
  · exact keeps_pure ()
  split
  · exact keeps_pure ()
  split
  · exact keeps_pure ()
  split
  · exact keeps_endTeam (I := fun _ => True) _ (by decide) _ fun _ _ h => nomatch h
  · exact sound_maybeComplete _

lemma sound_sweepBackstop (olderThan : ℕ) :
    Sound canceler (sweepBackstop canceler olderThan) := by
  refine keeps_bind (sound_other fun _ => trivial) fun stale => ?_
  split
  · exact keeps_pure ()
  next ids =>
  induction ids with
  | nil => exact keeps_pure ()
  | cons id ids ih =>
    refine keeps_bind ?_ fun _ => ih
    exact keeps_endTeam (I := fun _ => True) id (by decide) _ fun _ _ h => nomatch h

lemma sound_createTeam (req : CreateTeamRequest) : Sound canceler (createTeam req) := by
  have hspawn (teamID envelopeID : UUID) (creator : Session) (i : ℕ) (ms : List MemberSpec) :
      Sound canceler (spawnMembers teamID envelopeID creator i ms) := by
    induction ms generalizing i with
    | nil => exact keeps_pure ()
    | cons m ms ih =>
      refine keeps_bind ?_ fun _ => ih (i + 1)
      refine keeps_bind (sound_other fun _ => trivial) fun created => ?_
      split
      · exact keeps_pure ()
      · exact keeps_bind (sound_other fun _ => trivial) fun _ => keeps_pure ()
  unfold createTeam
  split
  · exact keeps_pure ()
  refine keeps_bind (sound_other fun _ => trivial) fun created => ?_
  split
  · exact keeps_pure ()
  · exact hspawn _ _ _ _ _

lemma sound_program (task : Task) : Sound canceler (task.program canceler) := by
  cases task with
  | createTeam req => exact sound_createTeam req
  | onMemberTerminal memberSessionID => exact sound_onMemberTerminal memberSessionID
  | sweepBackstop olderThan => exact sound_sweepBackstop olderThan
  | outside o =>
    exact keeps_bind (sound_other fun _ => trivial) fun _ => keeps_pure ()

end

lemma follows_program (canceler : Bool) (task : Task) :
    (task.program canceler ()).run.Follows ((lifecycle canceler).protocol admits) {}
      fun _ _ => True :=
  (sound_program task () {} trivial).mono fun _ _ _ => trivial

/-! ### What a transaction does to the teams -/

lemma endings_append {log : Log Payload} {e : Event Payload}
    (hlog : log.events = s.log.events ++ [e]) (id : UUID) :
    Store.endings { s with log } id = s.endings id ++
      if e.type = .teamEnded ∧ e.payload.endedTeam = some id then [e] else [] := by
  simp only [Store.endings, hlog, List.filter_append, List.filter_singleton, Bool.cond_decide]

/-- What a request can do to the teams and to the events that end them. -/
inductive Moved (s s' : Store) : Op → Prop
  | same {o : Op} (hteams : s'.teams = s.teams) (hendings : ∀ id, s'.endings id = s.endings id) :
    Moved s s' o
  | created {o : Op} {teamID : UUID} {team : Team} (hnew : s.teams teamID = none)
      (hactive : team.status = .active)
      (hteams : s'.teams = Function.update s.teams teamID (some team))
      (hendings : ∀ id, s'.endings id = s.endings id) : Moved s s' o
  | ended {teamID : UUID} {team : Team} {status : Status} {reason : String} {e : Event Payload}
      (hteam : s.teams teamID = some team) (hactive : team.status = .active)
      (hteams : s'.teams = Function.update s.teams teamID (some { team with status, reason }))
      (hsession : e.sessionID = team.coordinatorSessionID)
      (hpayload : e.payload = .teamEnded teamID status reason)
      (hendings : ∀ id, s'.endings id = s.endings id ++ if teamID = id then [e] else []) :
    Moved s s' (.endTeam teamID status reason)

lemma Moved.of_eq (hteams : s'.teams = s.teams) (hlog : s'.log = s.log) : Moved s s' o :=
  .same hteams fun id => by rw [Store.endings, Store.endings, hlog]

lemma append_ok {sessionID : UUID} {type : EventType} {payload : Payload}
    (h : append sessionID type payload (s, t) = .ok (u, (s', t'))) :
    s'.teams = s.teams ∧ ∃ e, e.sessionID = sessionID ∧ e.payload = payload ∧
      ∀ id, s'.endings id = s.endings id ++
        if type = .teamEnded ∧ payload.endedTeam = some id then [e] else [] := by
  obtain ⟨log, e, rfl, hlog, hsession, htype, -, -, hpayload⟩ := appendSystem_ok h
  refine ⟨rfl, e, hsession, hpayload, fun id => ?_⟩
  rw [← htype, ← hpayload]
  exact endings_append hlog id

lemma insertSeeds_ok {cards : List CardSpec}
    (h : insertSeeds req teamID cards (s, t) = .ok (u, (s', t'))) :
    s'.teams = s.teams ∧ s'.log = s.log := by
  induction cards generalizing s t with
  | nil =>
    obtain ⟨-, rfl, -⟩ := pure_ok.1 h
    exact ⟨rfl, rfl⟩
  | cons c cs ih =>
    obtain ⟨_, ⟨s₁, t₁⟩, hseed, hrest⟩ := bind_ok.1 h
    obtain ⟨cardID, -, hseed⟩ := statement_ok.1 hseed
    cases hseed
    have hcs := ih hrest
    exact hcs

lemma getCreator_ok {creator : Session} (h : getCreator req (s, t) = .ok (creator, (s', t'))) :
    s' = s := by
  obtain ⟨_, -, h⟩ := statement_ok.1 h
  split at h
  · nomatch h
  split at h
  · nomatch h
  · exact (Prod.mk.inj (Except.ok.inj h)).2.symm

lemma insertTeam_ok {s₁ s₂ : Store} {t₁ t₂ : Script} {envelopeID : UUID}
    (hinsert : insertTeam req (s, t) = .ok (teamID, (s₁, t₁)))
    (hbind : bindEnvelope teamID (s₁, t₁) = .ok (envelopeID, (s₂, t₂))) :
    s.teams teamID = none ∧ s₂.log = s.log ∧ ∃ team : Team, team.status = .active ∧
      s₂.teams = Function.update s.teams teamID (some team) := by
  obtain ⟨_, -, hinsert⟩ := statement_ok.1 hinsert
  split at hinsert
  next hnew =>
    cases hinsert
    obtain ⟨_, -, hbind⟩ := statement_ok.1 hbind
    simp only [Store.putTeam, Function.update_self] at hbind
    cases hbind
    exact ⟨hnew, rfl, _, rfl, Function.update_idem _ _ _⟩
  next => nomatch hinsert

lemma moved_createTeam {a : UUID × UUID × Session}
    (h : createTeamWork req (s, t) = .ok (a, (s', t'))) : Moved s s' o := by
  obtain ⟨creator, ⟨s₀, t₀⟩, hcreator, h₀⟩ := bind_ok.1 h
  obtain rfl := getCreator_ok hcreator
  obtain ⟨teamID, ⟨s₁, t₁⟩, hinsert, h₁⟩ := bind_ok.1 h₀
  obtain ⟨envelopeID, ⟨s₂, t₂⟩, hbind, h₂⟩ := bind_ok.1 h₁
  obtain ⟨_, ⟨s₃, t₃⟩, hseeds, h₃⟩ := bind_ok.1 h₂
  obtain ⟨_, ⟨s₄, t₄⟩, happend, h₄⟩ := bind_ok.1 h₃
  obtain ⟨-, rfl, -⟩ := pure_ok.1 h₄
  obtain ⟨hnew, hlog, team, hactive, hteams⟩ := insertTeam_ok hinsert hbind
  obtain ⟨hteams₃, hlog₃⟩ := insertSeeds_ok hseeds
  obtain ⟨hteams₄, e, -, -, hendings⟩ := append_ok happend
  refine .created hnew hactive (hteams₄.trans (hteams₃.trans hteams)) fun id => ?_
  rw [hendings, if_neg fun h => (nomatch h.1), List.append_nil, Store.endings, hlog₃, hlog]
  rfl

lemma moved_endTeam {status : Status} {reason : String}
    (h : endTeamWork teamID status reason (s, t) = .ok (u, (s', t'))) :
    Moved s s' (.endTeam teamID status reason) := by
  obtain ⟨coordinator, ⟨s₁, t₁⟩, hend, h⟩ := bind_ok.1 h
  obtain ⟨_, -, hend⟩ := statement_ok.1 hend
  split at hend
  next team hteam =>
    split at hend
    next hactive =>
      cases hend
      obtain ⟨hteams, e, hsession, hpayload, hendings⟩ := append_ok h
      refine .ended hteam hactive hteams hsession hpayload fun id => ?_
      rw [hendings]
      simp [Payload.endedTeam, Store.endings, Store.putTeam]
    next =>
      cases hend
      obtain ⟨-, rfl, -⟩ := pure_ok.1 h
      exact .of_eq rfl rfl
  next =>
    cases hend
    obtain ⟨-, rfl, -⟩ := pure_ok.1 h
    exact .of_eq rfl rfl

/-- A transaction that moves the teams only as far as its statements do. -/
lemma moved_commit {α : Type} {w : Work α}
    (h : ∀ {a s' t'}, w (s, t) = .ok (a, (s', t')) → Moved s s' o) :
    Moved s (UnitOfWork.commit storeError w t s).2 o := by
  obtain ⟨e, heq⟩ | ⟨a, s', t', heq, hwork⟩ := commit_cases storeError w t s
  · rw [heq]
    exact .of_eq rfl rfl
  · rw [heq]
    exact h hwork

lemma moved_outside (s : Store) (t : Script) (x : Outside) :
    Moved s (s.outside t x) (.outside x) := by
  cases x with
  | wait | setStatus | putCard => exact .of_eq rfl rfl
  | createSession depth =>
    simp only [Store.outside]
    split
    · split <;> exact .of_eq rfl rfl
    · exact .of_eq rfl rfl
  | append sessionID type =>
    simp only [Store.outside]
    split
    · exact .of_eq rfl rfl
    next htype =>
      refine moved_commit fun h => ?_
      obtain ⟨hteams, e, -, -, hendings⟩ := append_ok h
      exact .same hteams fun id => by rw [hendings, if_neg fun h => htype h.1, List.append_nil]

/-- What a request does to the teams. -/
lemma moved_handle {a : o.Answer} (h : s.handle o t = some (a, s')) : Moved s s' o := by
  cases o
  all_goals obtain rfl := (Prod.mk.inj (Option.some.inj h)).2
  case createTeam => exact moved_commit moved_createTeam
  case createMember =>
    refine moved_commit fun h => ?_
    obtain ⟨_, ⟨s₁, t₁⟩, hkey, h⟩ := bind_ok.1 h
    obtain ⟨_, -, hkey⟩ := statement_ok.1 hkey
    cases hkey
    obtain ⟨_, -, h⟩ := statement_ok.1 h
    split at h
    · cases h
      exact .of_eq rfl rfl
    · nomatch h
  case cancel =>
    refine moved_commit fun h => ?_
    obtain ⟨_, -, h⟩ := statement_ok.1 h
    split at h
    · nomatch h
    · cases h
      split <;> exact .of_eq rfl rfl
  case endTeam => exact moved_commit moved_endTeam
  case outside x => exact moved_outside s t x
  all_goals exact .of_eq rfl rfl

/-! ### Ending once -/

/-- The events that end a team are none while it is active, and afterwards exactly one, on the log
of its coordinator and with its status. -/
def Recorded (s : Store) : Prop := ∀ teamID,
  match s.teams teamID with
  | none => s.endings teamID = []
  | some team =>
    if team.status = .active then s.endings teamID = []
    else ∃ e, s.endings teamID = [e] ∧ e.sessionID = team.coordinatorSessionID ∧
      e.payload = .teamEnded teamID team.status team.reason

/-- Every team is still there, and one that has ended is as it was. -/
def Kept (s s' : Store) : Prop := ∀ teamID team, s.teams teamID = some team →
  ∃ team', s'.teams teamID = some team' ∧
    team'.coordinatorSessionID = team.coordinatorSessionID ∧
    (team.status ≠ .active → team'.status = team.status ∧ team'.reason = team.reason)

lemma Kept.refl (s : Store) : Kept s s := fun _ team h => ⟨team, h, rfl, fun _ => ⟨rfl, rfl⟩⟩

lemma Kept.trans {s'' : Store} (h : Kept s s') (h' : Kept s' s'') : Kept s s'' := by
  intro teamID team hteam
  obtain ⟨team', hteam', hcoordinator, hended⟩ := h teamID team hteam
  obtain ⟨team'', hteam'', hcoordinator', hended'⟩ := h' teamID team' hteam'
  refine ⟨team'', hteam'', hcoordinator'.trans hcoordinator, fun hstatus => ?_⟩
  obtain ⟨h₁, h₂⟩ := hended hstatus
  obtain ⟨h₃, h₄⟩ := hended' (h₁ ▸ hstatus)
  exact ⟨h₃.trans h₁, h₄.trans h₂⟩

namespace Moved

variable {s s' : Store} {o : Op} {q : Note}

lemma kept (h : Moved s s' o) : Kept s s' := by
  intro teamID team hteam
  cases h with
  | same hteams => exact ⟨team, hteams ▸ hteam, rfl, fun _ => ⟨rfl, rfl⟩⟩
  | @created _ newID _ hnew _ hteams =>
    have hne : teamID ≠ newID := by
      rintro rfl
      nomatch hnew.symm.trans hteam
    exact ⟨team, by rw [hteams, Function.update_of_ne hne, hteam], rfl, fun _ => ⟨rfl, rfl⟩⟩
  | @ended endedID old status reason _ hold hactive hteams =>
    by_cases hid : teamID = endedID
    · subst hid
      obtain rfl := Option.mem_unique hteam hold
      exact ⟨{ team with status, reason }, by rw [hteams, Function.update_self], rfl,
        fun h => absurd hactive h⟩
    · exact ⟨team, by rw [hteams, Function.update_of_ne hid, hteam], rfl, fun _ => ⟨rfl, rfl⟩⟩

lemma recorded (h : Moved s s' o) (hadmits : admits q o) (hs : Recorded s) : Recorded s' := by
  intro teamID
  have hteamID := hs teamID
  cases h with
  | same hteams hendings => rwa [hteams, hendings]
  | @created _ newID _ hnew hactive hteams hendings =>
    rw [hteams, hendings]
    by_cases hid : teamID = newID
    · subst hid
      rw [hnew] at hteamID
      simpa [hactive] using hteamID
    · rwa [Function.update_of_ne hid]
  | @ended endedID old status reason e hold hactive hteams hsession hpayload hendings =>
    rw [hteams, hendings]
    by_cases hid : teamID = endedID
    · subst hid
      -- no event before, and now this one
      rw [hold] at hteamID
      have hnone : s.endings teamID = [] := by simpa [hactive] using hteamID
      rw [Function.update_self]
      dsimp only
      rw [if_neg hadmits.1, if_pos rfl, hnone]
      exact ⟨e, rfl, hsession, hpayload⟩
    · rw [Function.update_of_ne hid, if_neg (Ne.symm hid), List.append_nil]
      exact hteamID

end Moved

/-- What is kept from a store `s₀` on. -/
def recording (canceler : Bool) (s₀ : Store) : Upkeep (lifecycle canceler) where
  World w := Recorded w.store ∧ Kept s₀ w.store
  Note _ _ := True
  admits := admits
  Ended _ := True
  blank _ := trivial
  follows := follows_program canceler
  exec hw _ hadmits hhandle :=
    have hmoved := moved_handle (World.handle_eq_some hhandle).1
    ⟨⟨hmoved.recorded hadmits hw.1, hw.2.trans hmoved.kept⟩, trivial⟩
  frame _ _ _ _ _ := trivial

lemma holds_initial (canceler : Bool) : (recording canceler {}).Holds { world := {} } where
  world := ⟨fun _ => rfl, .refl {}⟩
  note _ h := nomatch h
  follows _ h := nomatch h

/-- For every interleaving of the calls of any number of processes, each of which may be cut off
between two transactions: a team that has left `active` has the same status for ever after; it has
left `active` if and only if the log of its coordinator has an event that ends it; and then there
is exactly one such event, with the status of the team. -/
theorem team_endsOnce {canceler : Bool} {p p' : Calls}
    (h : (lifecycle canceler).machine.Reaches { world := {} } p)
    (h' : (lifecycle canceler).machine.Reaches p p') {teamID : UUID} {team : Team}
    (hteam : p.world.store.teams teamID = some team) :
    (∃ team', p'.world.store.teams teamID = some team' ∧
      (team.status ≠ .active → team'.status = team.status)) ∧
    (team.status ≠ .active ↔ ∃ e ∈ p.world.store.log.session team.coordinatorSessionID,
      e.type = .teamEnded ∧ e.payload.endedTeam = some teamID) ∧
    (team.status ≠ .active → ∃ e, e.payload = .teamEnded teamID team.status team.reason ∧
      (p.world.store.log.session team.coordinatorSessionID).filter
        (fun e => e.type = .teamEnded ∧ e.payload.endedTeam = some teamID) = [e]) := by
  have hp := (recording canceler {}).holds h (holds_initial canceler)
  have hp' := (recording canceler p.world.store).holds h'
    ⟨⟨hp.world.1, .refl p.world.store⟩, fun _ _ => trivial, hp.follows⟩
  obtain ⟨team', hteam', -, hended⟩ := hp'.world.2 teamID team hteam
  refine ⟨⟨team', hteam', fun hstatus => (hended hstatus).1⟩, ?_⟩
  have hrecorded := hp.world.1 teamID
  rw [hteam] at hrecorded
  have hfilter : (p.world.store.log.session team.coordinatorSessionID).filter
      (fun e => e.type = .teamEnded ∧ e.payload.endedTeam = some teamID) = (p.world.store.endings
        teamID).filter fun e => e.sessionID = team.coordinatorSessionID := List.filter_comm _ _ _
  dsimp only at hrecorded
  split at hrecorded
  next hactive =>
    -- no event ends the team, on whichever log
    rw [hrecorded, List.filter_nil] at hfilter
    refine ⟨⟨fun hstatus => absurd hactive hstatus, ?_⟩, fun hstatus => absurd hactive hstatus⟩
    rintro ⟨e, he, hend⟩
    exact absurd (decide_eq_true hend) (List.filter_eq_nil_iff.1 hfilter e he)
  next hstatus =>
    obtain ⟨e, he, hsession, hpayload⟩ := hrecorded
    rw [he, List.filter_singleton, hsession, decide_eq_true rfl, cond_true] at hfilter
    have hmem : e ∈ (p.world.store.log.session team.coordinatorSessionID).filter
        (fun e => e.type = .teamEnded ∧ e.payload.endedTeam = some teamID) :=
      hfilter ▸ List.mem_singleton_self e
    obtain ⟨hlog, hend⟩ := List.mem_filter.1 hmem
    exact ⟨⟨fun _ => ⟨e, hlog, of_decide_eq_true hend⟩, fun _ => hstatus⟩,
      fun _ => ⟨e, hpayload, hfilter⟩⟩

/-! ### A run -/

def solo : CreateTeamRequest where
  creatorSessionID := 1
  name := "solo"
  members := [{ agentID := "writer", task := "write" }]
  cards := []
  engaged := {}

/-- Session 1 creates the team 2 with the member 4. The member completes, and two calls end the
team at the same time: the member's own and that of a sweep, of which one comes too late. -/
def soloRun : List (PoolAction Task Script) :=
  [.start (.outside (.createSession 0)), .exec 0 [some 1],
   .start (.createTeam solo),
   .exec 1 [some 0, some 2, some 3, some 0, some 0], .exec 1 [some 0, some 4, some 0],
   .exec 1 [some 0],
   .start (.outside (.setStatus 4 .completed (some "completed"))), .exec 2 [],
   .start (.onMemberTerminal 4), .exec 3 [some 0], .exec 3 [some 0], .exec 3 [some 0],
   .exec 3 [some 0], .start (.sweepBackstop 1), .exec 4 [some 0], .exec 4 [some 0],
   .exec 3 [some 0, some 5, some 0], .exec 4 [some 0, some 6, some 0]]

/-- The team is completed once. -/
theorem solo_endsOnce : ∃ p : Calls, (lifecycle true).machine.Reaches { world := {} } p ∧
      ∃ team, p.world.store.teams 2 = some team ∧ team.status = .completed ∧
        ∃ e, e.payload = .teamEnded 2 .completed team.reason ∧
          (p.world.store.log.session team.coordinatorSessionID).filter
            (fun e => e.type = .teamEnded ∧ e.payload.endedTeam = some 2) = [e] := by
  refine Machine.Reaches.exists_of_run_imp soloRun
    (fun p => (p.world.store.teams 2).map Team.status = some .completed) ?_
    fun p hreach hstatus => ?_
  · decide +kernel
  obtain ⟨team, hteam, hstatus⟩ := Option.map_eq_some_iff.1 hstatus
  have hended : team.status ≠ .active := by simp [hstatus]
  refine ⟨team, hteam, hstatus, ?_⟩
  obtain ⟨-, -, hevent⟩ := team_endsOnce hreach .refl hteam
  exact hstatus ▸ hevent hended

end NexusAgent.Teams
