import NexusAgent.Envelope.Cohort
import NexusAgent.Kernel.Metering
import NexusAgent.Runctl.Control

/-!
# Who drives the members of an envelope

A fan-out child and a team member are spawned with a clone of the process's kernel whose budget
gate draws from their envelope (`internal/delegate/spawn.go`, `internal/teams/lifecycle.go`). The
clone is used for the first run and is stored nowhere. Whoever drives the session later, the
approvals' resumer, the run control, a worker, the resume of a parent or a plan, calls the kernel
of the process, with the process's own gate.

`members` is the machine of all sessions and the kernel calls on them, each call with its gate. It
counts the model calls of each session and the draws that were granted to it from its own envelope.
-/

namespace NexusAgent.Members

open Envelopes Kernel

/-- The budget gate of a kernel: the process's own, or that of an envelope. -/
inductive Budget
  | process
  | envelope (gate : EnvelopeBudgetGate)

/-- A kernel call on a session. -/
structure Drive where
  sessionID : UUID
  budget : Budget
  live : Live
  /-- The draws that were granted to this call and not used yet. -/
  unspent : ℕ := 0

structure Session where
  row : Row := {}
  envelopeID : Option UUID := none

/-- The sessions, the kernel calls and the envelopes. -/
structure World where
  envelopes : UUID → Option Envelope := fun _ => none
  sessions : UUID → Option Session := fun _ => none
  drives : List Drive := []
  /-- The draws that were granted to a session from its own envelope. -/
  drawn : UUID → ℕ := fun _ => 0
  /-- The model calls of a session. -/
  streamed : UUID → ℕ := fun _ => 0

/-- A kernel call goes on, with some more draws. A model call that it comes to is made on one. -/
def Drive.goOn (d : Drive) (live : Live) (draws : ℕ) : Drive :=
  { d with live, unspent := d.unspent + draws - modelCalls live }

namespace World

def create (w : World) (sessionID : UUID) (envelopeID : Option UUID) : World :=
  { w with sessions := Function.update w.sessions sessionID (some { envelopeID }) }

def write (w : World) (sessionID : UUID) (row : Row) : World :=
  { w with sessions := Function.update w.sessions sessionID
             ((w.sessions sessionID).map fun s => { s with row }) }

/-- An envelope is written. -/
def putEnvelope (w : World) (envelopeID : UUID) (e : Envelope) : World :=
  { w with envelopes := Function.update w.envelopes envelopeID (some e) }

/-- The model call that a kernel call has come to is counted, and its draws are. -/
def count (w : World) (sessionID : UUID) (live : Live) (draws : ℕ) : World :=
  { w with streamed := w.streamed + Pi.single sessionID (modelCalls live)
           drawn := w.drawn + Pi.single sessionID draws }

/-- A kernel call begins. -/
def begin (w : World) (sessionID : UUID) (budget : Budget) (live : Live) : World :=
  let d : Drive := { sessionID, budget, live }
  { w.count sessionID live 0 with drives := w.drives ++ [d.goOn live 0] }

/-- The kernel call `d`, at place `i`, goes on. -/
def goOn (w : World) (i : ℕ) (d : Drive) (live : Live) (draws : ℕ) : World :=
  { w.count d.sessionID live draws with drives := w.drives.set i (d.goOn live draws) }

def envelopeOf (w : World) (sessionID : UUID) : Option UUID :=
  (w.sessions sessionID).bind Session.envelopeID

end World

/-- The gate that `Spawn` gives a child: where the lookup of the envelope fails, that is logged and
the child runs under the gate of the process. -/
def spawnBudget (tenantID : UUID) (envelopeID : Option UUID) (found : Option Envelope) : Budget :=
  match envelopeID, found with
  | some id, some e => .envelope (gateOf fanoutWording id tenantID e)
  | _, _ => .process

/-- The answer to a request of a kernel call with this gate, other than a draw. -/
def Budget.handle (b : Budget) (r : Row) : (o : Op) → Kernel.Reply → Option (o.Answer × Row)
  | .reserve req, t =>
    match b with
    | .process => r.handle (.reserve req) t
    | .envelope _ => none
  | o, t => r.handle o t

def draw (g : EnvelopeBudgetGate) (e : Envelope) (id : UUID) (req : Cost.ReserveRequest)
    (reply : Cost.Tenant.Reply) : Envelope × (Cost.Reservation × Option String) :=
  let drawn := e.drawEnvelope g.perCallEstimate.micros
  (after e drawn reply, g.reserve id req (drawAnswer e drawn reply))

/-- What can happen. -/
inductive Action
  | createFanout (envelopeID : UUID) (config : Plans.DelegateFanoutConfig)
  | createTeam (envelopeID : UUID) (ceiling : Cost.Money) (members : ℕ)
  /-- `Spawn`, of a fan-out child or, with no envelope, of any other session; `answered` says
  whether the lookup of the envelope goes through. -/
  | spawn (sessionID tenantID : UUID) (envelopeID : Option UUID) (cfg : RunConfig)
      (answered : Bool)
  /-- `spawnMember`, of a team member. -/
  | spawnMember (sessionID tenantID envelopeID : UUID) (cfg : RunConfig) (answered : Bool)
  /-- Another component loads the session and calls the kernel of the process. -/
  | drive (sessionID tenantID : UUID) (entry : Entry)
  /-- A request other than a draw is answered. -/
  | reply (i : ℕ) (t : Kernel.Reply)
  /-- A kernel call draws from its envelope. -/
  | draw (i : ℕ) (reservationID : UUID) (reply : Cost.Tenant.Reply)
  /-- A member returns what it did not use. -/
  | giveBack (envelopeID : UUID) (amount : Int64)
  | write (sessionID : UUID) (row : Row)
  /-- The process of a kernel call is gone. -/
  | crash (i : ℕ)

def World.lookup (w : World) (envelopeID : UUID) (answered : Bool) : Option Envelope :=
  if answered then w.envelopes envelopeID else none

/-- The sessions and the kernel calls on them, with the kernel `k` of the process. -/
def members (k : Kernel) : Machine World Action where
  step w
    | .createFanout envelopeID config =>
      match w.envelopes envelopeID, fanoutEnvelope config with
      | none, .ok (some e) => some (w.putEnvelope envelopeID e)
      | _, _ => none
    | .createTeam envelopeID ceiling n =>
      match w.envelopes envelopeID, teamEnvelope ceiling n with
      | none, some e => some (w.putEnvelope envelopeID e)
      | _, _ => none
    | .spawn sessionID tenantID envelopeID cfg answered =>
      match w.sessions sessionID with
      | some _ => none
      | none =>
        let found := envelopeID.bind (w.lookup · answered)
        some ((w.create sessionID envelopeID).begin sessionID
          (spawnBudget tenantID envelopeID found) ((Entry.run cfg).start k tenantID sessionID []))
    | .spawnMember sessionID tenantID envelopeID cfg answered =>
      match w.sessions sessionID with
      | some _ => none
      | none =>
        let w' := w.create sessionID (some envelopeID)
        match w.lookup envelopeID answered with
        | none => some w'
        | some e =>
          some (w'.begin sessionID (.envelope (gateOf teamWording envelopeID tenantID e))
            ((Entry.run cfg).start k tenantID sessionID []))
    | .drive sessionID tenantID entry => do
      let s ← w.sessions sessionID
      if Control.Loads s.row.status entry then
        some (w.begin sessionID .process (entry.start k tenantID sessionID s.row.log.events))
      else none
    | .reply i t => do
      let d ← w.drives[i]?
      let s ← w.sessions d.sessionID
      let (row, live) ← d.live.advance d.budget.handle s.row t
      some ((w.write d.sessionID row).goOn i d live 0)
    | .draw i reservationID reply => do
      let d ← w.drives[i]?
      match d.budget, d.live with
      | .envelope g, .ask (.reserve req) rest =>
        let e ← w.envelopes g.envelopeID
        let (e', answer) := Members.draw g e reservationID req reply
        let draws := if w.envelopeOf d.sessionID = some g.envelopeID then
          granted (.reserve req) answer else 0
        some ((w.putEnvelope g.envelopeID e').goOn i d (rest answer) draws)
      | _, _ => none
    | .giveBack envelopeID amount =>
      (w.envelopes envelopeID).bind fun e =>
        (e.returnToEnvelope amount).map (w.putEnvelope envelopeID)
    | .write sessionID row => some (w.write sessionID row)
    | .crash i => (w.drives[i]?).map fun d => w.goOn i d (.done none) 0

/-- The condition on a step: a fan-out child is spawned once its envelope is found, and nobody
else drives a member. -/
def BySpawn (w : World) : Action → Prop
  | .spawn _ _ (some envelopeID) _ answered => (w.lookup envelopeID answered).isSome
  | .drive sessionID _ _ => w.envelopeOf sessionID = none
  | _ => True

instance (w : World) (a : Action) : Decidable (BySpawn w a) := by
  unfold BySpawn
  split <;> infer_instance

lemma handle_envelope {g : EnvelopeBudgetGate} {r r' : Row} {o : Op} {t : Kernel.Reply}
    {a : o.Answer} (h : (Budget.envelope g).handle r o t = some (a, r')) : granted o a = 0 := by
  cases o with
  | reserve req => nomatch h
  | _ => rfl

/-! ### What a step keeps -/

/-- What is known of a session: whether it exists, and its envelope. -/
def World.kindOf (w : World) (sessionID : UUID) : Option (Option UUID) :=
  (w.sessions sessionID).map Session.envelopeID

lemma World.envelopeOf_eq_some {w : World} {sessionID id : UUID} :
    w.envelopeOf sessionID = some id ↔ w.kindOf sessionID = some (some id) := by
  rw [World.envelopeOf, World.kindOf, Option.bind_eq_some_iff, Option.map_eq_some_iff]

lemma World.kindOf_write (w : World) (sessionID : UUID) (row : Row) :
    (w.write sessionID row).kindOf = w.kindOf := by
  ext1 id
  by_cases hid : id = sessionID
  · subst hid
    simp [World.kindOf, World.write, Function.comp_def]
  · simp [World.kindOf, World.write, hid]

lemma World.kindOf_create (w : World) (sessionID : UUID) (envelopeID : Option UUID) :
    (w.create sessionID envelopeID).kindOf =
      Function.update w.kindOf sessionID (some envelopeID) := by
  ext1 id
  by_cases hid : id = sessionID
  · subst hid
    simp [World.kindOf, World.create]
  · simp [World.kindOf, World.create, hid]

/-- The draws of a session that its kernel calls have not used. -/
def World.unspent (w : World) (sessionID : UUID) : ℕ :=
  (w.drives.map fun d => if d.sessionID = sessionID then d.unspent else 0).sum

/-- A kernel call on a member has the gate of its envelope, and is paid for. -/
structure Pays (envelopeID : UUID) (d : Drive) : Prop where
  gate : ∃ g, d.budget = .envelope g ∧ g.envelopeID = envelopeID
  metered : Metered d.live (d.unspent + modelCalls d.live)

/-- The invariant: a session that is driven exists, the kernel calls on members are paid for, and
the draws of a member cover its model calls. -/
structure Inv (w : World) : Prop where
  known : ∀ d ∈ w.drives, w.kindOf d.sessionID ≠ none
  pays : ∀ d ∈ w.drives, ∀ id, w.kindOf d.sessionID = some (some id) → Pays id d
  -- a session that does not exist may become a member
  paid : ∀ sessionID, w.kindOf sessionID ≠ some none →
    w.streamed sessionID + w.unspent sessionID ≤ w.drawn sessionID

namespace Inv

variable {w w' : World}

section

variable (h : Inv w)
include h

/-- Steps that leave the kernel calls and the kinds of sessions alone. -/
lemma of_same (hkind : w'.kindOf = w.kindOf) (hdrives : w'.drives = w.drives)
    (hstreamed : w'.streamed = w.streamed) (hdrawn : w'.drawn = w.drawn) : Inv w' where
  known := by
    rw [hdrives, hkind]
    exact h.known
  pays := by
    rw [hdrives, hkind]
    exact h.pays
  paid := by
    unfold World.unspent
    rw [hdrives, hkind, hstreamed, hdrawn]
    exact h.paid

lemma write (sessionID : UUID) (row : Row) : Inv (w.write sessionID row) :=
  h.of_same (w.kindOf_write sessionID row) rfl rfl rfl

lemma putEnvelope (envelopeID : UUID) (e : Envelope) : Inv (w.putEnvelope envelopeID e) :=
  h.of_same rfl rfl rfl rfl

/-- A new session is not driven yet. -/
lemma create {sessionID : UUID} (hnew : w.sessions sessionID = none) (envelopeID : Option UUID) :
    Inv (w.create sessionID envelopeID) := by
  have hkind : w.kindOf sessionID = none := by
    unfold World.kindOf
    rw [hnew]
    rfl
  have hother {d : Drive} (hd : d ∈ w.drives) : d.sessionID ≠ sessionID := by
    intro heq
    exact h.known d hd (heq ▸ hkind)
  constructor
  · intro d hd
    rw [World.kindOf_create, Function.update_of_ne (hother hd)]
    exact h.known d hd
  · intro d hd
    rw [World.kindOf_create, Function.update_of_ne (hother hd)]
    exact h.pays d hd
  · intro id hid
    rw [World.kindOf_create] at hid
    by_cases hsame : id = sessionID
    · subst hsame
      exact h.paid id (hkind ▸ nofun)
    · rw [Function.update_of_ne hsame] at hid
      exact h.paid id hid

/-- A kernel call begins with nothing drawn, on a member with the gate of its envelope. -/
lemma begin {sessionID : UUID} {budget : Budget} {live : Live} (hknown : w.kindOf sessionID ≠ none)
    (hgate : ∀ id, w.kindOf sessionID = some (some id) →
      ∃ g, budget = .envelope g ∧ g.envelopeID = id) (hlive : Metered live 0) :
    Inv (w.begin sessionID budget live) := by
  have hcalls : modelCalls live = 0 := Nat.le_zero.1 hlive.modelCalls_le
  constructor
  · exact List.forall_mem_snoc h.known hknown
  · refine List.forall_mem_snoc h.pays fun id hid => ?_
    refine ⟨hgate id hid, ?_⟩
    show Metered live (0 + 0 - modelCalls live + modelCalls live)
    rw [hcalls]
    exact hlive
  · intro id hid
    have hpaid := h.paid id hid
    simpa [World.begin, World.count, World.unspent, Drive.goOn, hcalls] using hpaid

/-- A kernel call goes on: the model call it comes to, if any, is covered by a draw. -/
lemma goOn {i : ℕ} {d : Drive} (hd : w.drives[i]? = some d) {live : Live} {draws : ℕ}
    (hlive : ∀ id, w.kindOf d.sessionID = some (some id) → Metered live (d.unspent + draws)) :
    Inv (w.goOn i d live draws) := by
  have hmem := List.mem_of_getElem? hd
  constructor
  · intro d' hd'
    obtain hd' | rfl := List.mem_or_eq_of_mem_set hd'
    · exact h.known d' hd'
    · exact h.known d hmem
  · intro d' hd' id hid
    obtain hd' | rfl := List.mem_or_eq_of_mem_set hd'
    · exact h.pays d' hd' id hid
    · refine ⟨(h.pays d hmem id hid).gate, ?_⟩
      have hlive := hlive id hid
      show Metered live (d.unspent + draws - modelCalls live + modelCalls live)
      rw [Nat.sub_add_cancel hlive.modelCalls_le]
      exact hlive
  · intro id hid
    have hpaid := h.paid id hid
    have hsum : (w.goOn i d live draws).unspent id +
          (if d.sessionID = id then d.unspent else 0) =
        w.unspent id + if d.sessionID = id then d.unspent + draws - modelCalls live else 0 :=
      List.sum_map_set_add hd (d.goOn live draws) fun d =>
        if d.sessionID = id then d.unspent else 0
    show w.streamed id + (Pi.single d.sessionID (modelCalls live) : UUID → ℕ) id + _ ≤
      w.drawn id + (Pi.single d.sessionID draws : UUID → ℕ) id
    by_cases hsame : d.sessionID = id
    · subst hsame
      rw [if_pos rfl, if_pos rfl] at hsum
      rw [Pi.single_eq_same, Pi.single_eq_same]
      -- the session is driven, so it exists and is a member
      obtain ⟨kind, hkind⟩ := Option.ne_none_iff_exists'.1 (h.known d hmem)
      obtain ⟨envelopeID, rfl⟩ := Option.ne_none_iff_exists'.1 fun hnone =>
        hid (hkind.trans (congrArg some hnone))
      have hcalls := (hlive envelopeID hkind).modelCalls_le
      omega
    · rw [if_neg hsame, if_neg hsame] at hsum
      rw [Pi.single_eq_of_ne (Ne.symm hsame), Pi.single_eq_of_ne (Ne.symm hsame)]
      omega

lemma spawned {k : Kernel} {sessionID tenantID : UUID} (hnew : w.sessions sessionID = none)
    {envelopeID : Option UUID} {budget : Budget} {cfg : RunConfig}
    (hgate : ∀ id, envelopeID = some id → ∃ g, budget = .envelope g ∧ g.envelopeID = id) :
    Inv ((w.create sessionID envelopeID).begin sessionID budget
      ((Entry.run cfg).start k tenantID sessionID [])) := by
  have hkind : (w.create sessionID envelopeID).kindOf sessionID = some envelopeID := by
    rw [World.kindOf_create, Function.update_self]
  apply (h.create hnew envelopeID).begin
  · rw [hkind]
    exact nofun
  · intro id hid
    exact hgate id (Option.mem_unique hkind hid)
  · exact Entry.follows_metered k tenantID sessionID [] (.run cfg)

end

end Inv

/-- Every step under the condition keeps the invariant. -/
lemma Inv.step {k : Kernel} {w w' : World} {a : Action} (h : Inv w) (hby : BySpawn w a)
    (hst : (members k).step w a = some w') : Inv w' := by
  cases a with
  | createFanout envelopeID | createTeam envelopeID =>
    dsimp only [members] at hst
    split at hst
    · cases hst
      exact h.putEnvelope envelopeID _
    · nomatch hst
  | spawn sessionID tenantID envelopeID cfg answered =>
    dsimp only [members] at hst
    split at hst
    · nomatch hst
    next hnew =>
      cases hst
      apply h.spawned hnew
      rintro id rfl
      -- the lookup has found the envelope
      obtain ⟨e, he⟩ := Option.isSome_iff_exists.1 hby
      refine ⟨gateOf fanoutWording id tenantID e, ?_, rfl⟩
      rw [Option.bind_some, he]
      rfl
  | spawnMember sessionID tenantID envelopeID cfg answered =>
    dsimp only [members] at hst
    split at hst
    · nomatch hst
    next hnew =>
      split at hst
      · cases hst
        exact h.create hnew _
      next e he =>
        cases hst
        apply h.spawned hnew
        intro id hid
        exact ⟨_, rfl, Option.some.inj hid⟩
  | drive sessionID tenantID entry =>
    obtain ⟨s, hs, hst⟩ := Option.bind_eq_some_iff.1 hst
    obtain ⟨-, hst⟩ := Option.ite_none_right_eq_some.1 hst
    cases hst
    apply h.begin
    · unfold World.kindOf
      rw [hs]
      exact nofun
    · intro id hid
      -- a session that others drive is no member
      have hnone : w.envelopeOf sessionID = none := hby
      rw [World.envelopeOf_eq_some.2 hid] at hnone
      nomatch hnone
    · exact Entry.follows_metered ..
  | reply i t =>
    obtain ⟨d, hd, hst⟩ := Option.bind_eq_some_iff.1 hst
    obtain ⟨s, hs, hst⟩ := Option.bind_eq_some_iff.1 hst
    obtain ⟨⟨row, live⟩, hadvance, hst⟩ := Option.bind_eq_some_iff.1 hst
    cases hst
    apply (h.write d.sessionID row).goOn hd
    intro id hid
    rw [World.kindOf_write] at hid
    obtain ⟨⟨g, hbudget, -⟩, hmetered⟩ := h.pays d (List.mem_of_getElem? hd) id hid
    obtain ⟨o, rest, answer, hlive, hhandle, rfl⟩ := Process.advance_eq_some.1 hadvance
    rw [hlive] at hmetered
    rw [hbudget] at hhandle
    rw [← handle_envelope hhandle]
    exact hmetered.answer answer
  | draw i reservationID reply =>
    obtain ⟨d, hd, hst⟩ := Option.bind_eq_some_iff.1 hst
    split at hst
    next g req rest hbudget hlive =>
      obtain ⟨e, he, hst⟩ := Option.bind_eq_some_iff.1 hst
      cases hst
      apply (h.putEnvelope g.envelopeID _).goOn hd
      intro id (hid : w.kindOf d.sessionID = some (some id))
      obtain ⟨⟨g', hbudget', rfl⟩, hmetered⟩ := h.pays d (List.mem_of_getElem? hd) id hid
      obtain rfl := Budget.envelope.inj (hbudget.symm.trans hbudget')
      rw [hlive] at hmetered
      -- the gate is that of the session's own envelope, so that a granted draw counts
      have hown : w.envelopeOf d.sessionID = some g.envelopeID := World.envelopeOf_eq_some.2 hid
      rw [if_pos hown]
      exact hmetered.answer _
    · nomatch hst
  | giveBack envelopeID amount =>
    obtain ⟨e, e', he, he', rfl⟩ := Option.bind_map_some hst
    exact h.putEnvelope envelopeID e'
  | write sessionID row =>
    cases hst
    exact h.write sessionID row
  | crash i =>
    obtain ⟨d, hd, rfl⟩ := Option.map_eq_some_iff.1 hst
    exact h.goOn hd fun _ _ => trivial

lemma inv_init : Inv {} where
  known := List.forall_mem_nil _
  pays := List.forall_mem_nil _
  paid _ _ := le_rfl

/-- Members spend from their envelope: in every run in which members are driven by their spawn
only, and `Spawn` finds the envelope, each model call of a member follows a draw from its own
envelope that was granted and that no model call before it has used. -/
theorem members_draw {k : Kernel} {w : World} (h : (members k).ReachesBy BySpawn {} w)
    {sessionID envelopeID : UUID} (hmember : w.envelopeOf sessionID = some envelopeID) :
    w.streamed sessionID ≤ w.drawn sessionID := by
  have hinv : Inv w := h.invariant (I := Inv) inv_init fun _ _ _ hI hby hst => hI.step hby hst
  have hkind := World.envelopeOf_eq_some.1 hmember
  have hpaid := hinv.paid sessionID (by rw [hkind]; exact nofun)
  omega

/-! ### A member that goes on after a crash -/

/-- A team of two, one of whose members comes to its first model call. -/
def firstTurn : List Action :=
  [.createTeam 9 { micros := 10, currency := "USD" } 2, .spawnMember 1 7 9 {} true,
   .reply 0 (.wrote none), .draw 0 5 .answered, .reply 0 (.appended 1), .reply 0 (.more true)]

/-- The first run of a member draws before it calls the model. -/
theorem firstTurn_drawn :
    ∃ w, (members {}).ReachesBy BySpawn {} w ∧
      (w.envelopeOf 1 = some 9 ∧ w.streamed 1 = 1) ∧ w.streamed 1 ≤ w.drawn 1 := by
  refine Machine.ReachesBy.exists_of_runBy_imp firstTurn
    (fun w => w.envelopeOf 1 = some 9 ∧ w.streamed 1 = 1) ?_
    fun w hreach hw => ⟨hw, members_draw hreach hw.1⟩
  decide +kernel

/-- A worker resumes a member whose process is gone, and a fan-out child is spawned while the store
does not answer. Both call the model, and nothing was drawn from their envelopes. -/
theorem resumed_member_streams :
    (∃ w, (members {}).Reaches {} w ∧
      w.envelopeOf 1 = some 9 ∧ w.streamed 1 = 1 ∧ w.drawn 1 = 0) ∧
    ∃ w, (members {}).Reaches {} w ∧
      w.envelopeOf 2 = some 8 ∧ w.streamed 2 = 1 ∧ w.drawn 2 = 0 := by
  constructor
  · apply Machine.Reaches.exists_of_run
      [.createTeam 9 { micros := 10, currency := "USD" } 2, .spawnMember 1 7 9 {} true,
       .reply 0 (.wrote none), .crash 0, .drive 1 7 (.continueRun {}), .reply 1 (.wrote none),
       .reply 1 .unmetered, .reply 1 (.appended 1), .reply 1 (.more true)]
    decide +kernel
  · apply Machine.Reaches.exists_of_run
      [.createFanout 8 { childCount := 2, perChildCeiling := "5" }, .spawn 2 7 (some 8) {} false,
       .reply 0 (.wrote none), .reply 0 .unmetered, .reply 0 (.appended 1), .reply 0 (.more true)]
    decide +kernel

end NexusAgent.Members
