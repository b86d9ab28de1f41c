import NexusAgent.Kernel.Session
import NexusAgent.Kernel.Turnwise
import NexusAgent.Lib.Machine

/-!
# The prompts of a session

A session is driven by one kernel call after another: `Run` first, and then calls that resume it
from its log, each of which may return, be cut off or die with its process. `calls` is the
machine of such a session, with everything that a call waits for answered freely.
-/

namespace NexusAgent.Kernel

open EventLog Provider Exchange

/-- A session and the kernel call on it. -/
structure Driven where
  row : Row := {}
  live : Option Live := none
  started : Bool := false

/-- The prompt that waits for the provider's answer. -/
def Driven.prompt (s : Driven) : Option Prompt :=
  match s.live with
  | some (.ask (.stream p _) _) => some p
  | _ => none

inductive Drive
  | start (entry : Entry)
  /-- The request that the call waits at is answered. -/
  | reply (t : Reply)
  /-- The call has returned, was cut off or has died. -/
  | leave

def Entry.isRun : Entry → Bool
  | .run _ => true
  | _ => false

/-- One kernel call after another; `Run` comes first, and only once. -/
def calls (k : Kernel) (tenantID sessionID : UUID) : Machine Driven Drive where
  step s
    | .start entry =>
      if s.live.isNone ∧ entry.isRun = !s.started then
        let live := entry.start k tenantID sessionID s.row.log.events
        some { s with live := some live, started := true }
      else none
    | .reply t =>
      s.live.bind fun p => (p.advance Row.handle s.row t).map fun r =>
        { s with row := r.1, live := some r.2 }
    | .leave => some { s with live := none }

/-- A log has a tool use of an identifier, and no result for it. -/
def Unanswered (history : List (Event Payload)) (ref : UUID) : Prop :=
  (∃ e ∈ history, e.type = .toolUse ∧ e.eventID = ref) ∧
    ∀ e ∈ history, e.type = .toolResult → e.pairRef ≠ some ref

instance (history : List (Event Payload)) (ref : UUID) : Decidable (Unanswered history ref) :=
  inferInstanceAs (Decidable (_ ∧ _))

/-- The provider's identifiers of the tool uses of a log. -/
def providerIDs (history : List (Event Payload)) : List String :=
  (toolUses history).map fun e => e.payload.toolUseRequest.toolUseID

/-- The provider gives each tool use a new identifier, and a call that resolves a suspension
names a tool use without a result. -/
def Paired (s : Driven) : Drive → Prop
  | .start (.resume _ res) => Unanswered s.row.log.events res.toolUseEventID
  | .start (.resumeDelegation _ res) => Unanswered s.row.log.events res.toolUseEventID
  | .reply (.streamed answer) =>
    (offered answer).Nodup ∧ ∀ id ∈ offered answer, id ∉ providerIDs s.row.log.events
  | _ => True

instance (s : Driven) (a : Drive) : Decidable (Paired s a) := by
  unfold Paired
  split <;> infer_instance

/-! ### The conditions in terms of the journal -/

variable {history : List (Event Payload)} {ref : UUID}

lemma unanswered_iff :
    Unanswered history ref ↔
      (∃ id, .asked ref id ∈ journal history) ∧ .answered ref ∉ journal history := by
  rw [← mem_toolUses_iff, ← mem_answers_iff]
  refine and_congr ?_ ?_
  · simp [mem_toolUses, and_assoc]
  · unfold answers
    rw [List.mem_filterMap]
    constructor
    · rintro h ⟨e, he, hans⟩
      obtain ⟨htype, hpair⟩ := Option.ite_none_right_eq_some.1 hans
      exact h e he htype hpair
    · intro h e he htype hpair
      exact h ⟨e, he, (if_pos htype).trans hpair⟩

lemma mem_providerIDs {id : String}
    (h : .asked ref id ∈ journal history) : id ∈ providerIDs history := by
  obtain ⟨e, he, hexchange⟩ := List.mem_filterMap.1 h
  by_cases huse : e.type = .toolUse
  · rw [exchange_of_toolUse huse] at hexchange
    rw [← (Exchange.asked.inj (Option.some.inj hexchange)).2]
    exact List.mem_map_of_mem (mem_toolUses.2 ⟨he, huse⟩)
  by_cases hresult : e.type = .toolResult
  · rw [exchange_of_toolResult hresult] at hexchange
    obtain ⟨ref', -, heq⟩ := Option.map_eq_some_iff.1 hexchange
    nomatch heq
  · rw [exchange_of_other huse hresult] at hexchange
    nomatch hexchange

/-! ### Whole runs -/

lemma Driven.prompt_eq_some {s : Driven} {p : Prompt} :
    s.prompt = some p ↔ ∃ tools cont, s.live = some (.ask (.stream p tools) cont) := by
  unfold Driven.prompt
  constructor
  · intro h
    split at h
    · next tools cont hlive =>
      cases h
      exact ⟨tools, cont, hlive⟩
    · nomatch h
  · rintro ⟨tools, cont, hlive⟩
    rw [hlive]

/-- The log agrees with itself on what waits for a result, and the call under way keeps to the
protocol of turns. -/
structure Turning (k : Kernel) (mode : Mode) (s : Driven) : Prop where
  level : Level s.row.log.events s.row.log.events
  follows : ∀ p ∈ s.live, p.Follows (turnwise k mode) s.row.log.events fun _ _ => True
  unstarted : s.started = false → s.live = none ∧ s.row.log.events = []

/-- What the provider answers with is new, where that is asked for. -/
def Reply.Suits (mode : Mode) (q : List (Event Payload)) : Reply → Prop
  | .streamed answer => mode = .any → Fresh (journal q) (offered answer)
  | _ => True

variable {k : Kernel} {mode : Mode}

lemma Row.handle_turnwise {row row' : Row} {o : Op} {t : Reply} {answer : o.Answer}
    (ht : t.Suits mode row.log.events) (hh : row.handle o t = some (answer, row')) :
    (turnwise k mode).step row.log.events o answer row'.log.events := by
  have hkept (ho : ∀ d, o ≠ .append d) : row'.log.events = row.log.events :=
    congrArg Log.events (Row.handle_log ho hh)
  cases o with
  | append d =>
    rcases Row.handle_append hh with ⟨e, rfl, rfl⟩ | ⟨eventID, log, rfl, hlog, rfl⟩
    · rfl
    · exact Log.append_eq_some hlog
  | stream p tools =>
    obtain rfl := Row.handle_stream hh
    exact ⟨hkept fun _ heq => (nomatch heq), ht⟩
  | _ => exact hkept fun _ heq => nomatch heq

namespace Turning

lemma init : Turning k mode {} := ⟨level_nil, nofun, fun _ => ⟨rfl, rfl⟩⟩

variable {s : Driven} (h : Turning k mode s)
include h

/-- The answer to a request of the call under way. -/
lemma reply {p p' : Live} {row : Row} {t : Reply} (hp : s.live = some p)
    (ht : t.Suits mode s.row.log.events) (hst : p.advance Row.handle s.row t = some (row, p')) :
    Turning k mode { s with row, live := some p' } ∧ ∃ (o : Op) (answer : o.Answer),
      (turnwise k mode).admits s.row.log.events o ∧
      (turnwise k mode).step s.row.log.events o answer row.log.events := by
  obtain ⟨o, cont, answer, rfl, hh, rfl⟩ := Process.advance_eq_some.1 hst
  obtain ⟨hadm, hnext⟩ := h.follows _ hp
  have hstep := Row.handle_turnwise (k := k) ht hh
  refine ⟨⟨h.level.step hadm hstep, ?_, fun hnot => ?_⟩, o, answer, hadm, hstep⟩
  · rintro _ ⟨⟩
    exact hnext answer _ hstep
  · rw [(h.unstarted hnot).1] at hp
    nomatch hp

lemma start (hk : Windowless k) (tenantID sessionID : UUID) {entry : Entry}
    (hentry : entry.Suits mode s.row.log.events) :
    Turning k mode { s with live := some (entry.start k tenantID sessionID s.row.log.events)
                            started := true } := by
  refine ⟨h.level, ?_, nofun⟩
  rintro _ ⟨⟩
  exact Entry.follows_turnwise hk tenantID sessionID h.level entry hentry

lemma leave : Turning k mode { s with live := none } :=
  ⟨h.level, nofun, fun hnot => ⟨rfl, (h.unstarted hnot).2⟩⟩

/-- A fresh run is the first call of its session, so its log has nothing yet. -/
lemma log_eq_nil {cfg : RunConfig} (hrun : (Entry.run cfg).isRun = !s.started) :
    s.row.log.events = [] :=
  (h.unstarted (by simpa [Entry.isRun] using hrun)).2

end Turning

lemma not_asked_of_new {eventID : UUID} (h : eventID ∉ history.map Event.eventID) (id : String) :
    .asked eventID id ∉ journal history := by
  intro hasked
  obtain ⟨e, he, hid⟩ := List.mem_map.1 (mem_toolUses_iff.2 ⟨id, hasked⟩)
  exact h (List.mem_map.2 ⟨e, (mem_toolUses.1 he).1, hid⟩)

lemma Level.mem_owed {q : List (Event Payload)} (h : Level q q) :
    ref ∈ (batch q).owed ↔ (∃ id, .asked ref id ∈ journal q) ∧ .answered ref ∉ journal q := by
  rw [h.owed, ← mem_toolUses_iff, ← mem_answers_iff]
  rfl

/-- Tool uses under new identifiers and results that are waited for keep the journal in order. -/
lemma orderly_step {q q' : List (Event Payload)} {o : Op} {answer : o.Answer}
    (h : Orderly (journal q)) (hlevel : Level q q) (hadm : (turnwise k .any).admits q o)
    (hst : (turnwise k .any).step q o answer q') : Orderly (journal q') := by
  have hsame (heq : q' = q) : Orderly (journal q') := heq ▸ h
  cases o with
  | append d =>
    match answer with
    | .error _ => exact hsame hst
    | .ok (eventID, seq) =>
      obtain ⟨hnew, rfl⟩ := hst
      change Fits .any q d at hadm
      unfold Fits at hadm
      by_cases huse : d.type = .toolUse
      · rw [huse] at hadm
        rw [journal_snoc, exchange_of_toolUse (e := d.event eventID seq) huse]
        exact h.ask (not_asked_of_new hnew) (hadm.2 rfl)
      by_cases hresult : d.type = .toolResult
      · rw [hresult] at hadm
        obtain ⟨ref, howed, hpair⟩ := hadm
        obtain ⟨⟨id, hasked⟩, hopen⟩ := hlevel.mem_owed.1 howed
        rw [journal_of_toolResult (e := d.event eventID seq) hresult hpair]
        exact h.answer hasked hopen
      · rw [journal_of_other (e := d.event eventID seq) huse hresult]
        exact h
  | stream p tools => exact hsame hst.1
  | _ => exact hsame hst

/-- With new identifiers, the journal is in order too. -/
lemma turning_step (hk : Windowless k) (tenantID sessionID : UUID) (s : Driven) (a : Drive)
    (s' : Driven) (h : Turning k .any s ∧ Orderly (journal s.row.log.events)) (hadm : Paired s a)
    (hst : (calls k tenantID sessionID).step s a = some s') :
    Turning k .any s' ∧ Orderly (journal s'.row.log.events) := by
  obtain ⟨h, hord⟩ := h
  cases a with
  | start entry =>
    obtain ⟨⟨-, hrun⟩, ⟨⟩⟩ := Option.ite_none_right_eq_some.1 hst
    refine ⟨h.start hk tenantID sessionID ?_, hord⟩
    cases entry with
    | run cfg => exact h.log_eq_nil hrun
    | resume | resumeDelegation => exact ⟨rfl, h.level.mem_owed.2 (unanswered_iff.1 hadm)⟩
    | continueRun cfg => exact nofun
    | resumeConversation cfg input => rfl
  | reply t =>
    obtain ⟨p, ⟨row, p'⟩, hp, hadv, rfl⟩ := Option.bind_map_some hst
    have ht : t.Suits .any s.row.log.events := by
      cases t with
      | streamed answer =>
        exact fun _ => ⟨hadm.1, fun id hid ref hasked => hadm.2 id hid (mem_providerIDs hasked)⟩
      | _ => trivial
    obtain ⟨h', o, answer, hadmits, hstep⟩ := h.reply hp ht hadv
    exact ⟨h', orderly_step hord h.level hadmits hstep⟩
  | leave =>
    cases hst
    exact ⟨h.leave, hord⟩

/-- While a call keeps to the protocol of turns, its prompt is well paired. -/
lemma Turning.wellPaired {s : Driven} (h : Turning k .any s)
    (hord : Orderly (journal s.row.log.events)) {p : Prompt} (hp : s.prompt = some p) :
    WellPaired (signalsOf p.messages) := by
  obtain ⟨tools, cont, hlive⟩ := Driven.prompt_eq_some.1 hp
  obtain ⟨howed, hsignals, -⟩ := (h.follows _ hlive).1
  rw [hsignals]
  refine hord.wellPaired fun ref id hasked => ?_
  by_contra hopen
  have hmem := h.level.mem_owed.2 ⟨⟨id, hasked⟩, hopen⟩
  rw [howed] at hmem
  nomatch hmem

/-- With pruning and condensation off, every prompt that a session hands to the provider has
one result for each tool use, after it, and no other results, in every run in which the
provider gives each tool use a new identifier and a call that resolves a suspension names a
tool use without a result. -/
theorem prompt_wellPaired (k : Kernel) (hk : Windowless k) (tenantID sessionID : UUID)
    (s : Driven) (hs : (calls k tenantID sessionID).ReachesBy Paired {} s)
    (p : Prompt) (hp : s.prompt = some p) : WellPaired (signalsOf p.messages) := by
  obtain ⟨h, hord⟩ := hs.invariant
    (I := fun s => Turning k .any s ∧ Orderly (journal s.row.log.events)) ⟨.init, .nil⟩
    (turning_step hk tenantID sessionID)
  exact h.wellPaired hord hp

def oneCall (result : ToolResult) : List Drive :=
  [.start (.run {}), .reply (.wrote none), .reply .unmetered, .reply (.appended 1),
   .reply (.more true), .reply (.streamed (.ok ([.toolUse "t" "web/get@1" ""], none))),
   .reply (.wrote none), .reply (.appended 2), .reply (.more true), .reply (.executed result),
   .reply (.appended 3), .reply (.more true)]

/-- A session whose tool use is answered at once. -/
theorem answeredCall_wellPaired :
    ∃ s p, (calls {} 7 1).ReachesBy Paired {} s ∧ s.prompt = some p ∧
      signalsOf p.messages = [.call "t", .reply "t"] ∧ WellPaired (signalsOf p.messages) := by
  have hsignals : (((calls {} 7 1).runBy (fun s a => decide (Paired s a)) {}
      (oneCall {} ++ [.reply (.recorded none), .reply .unmetered, .reply (.appended 4),
        .reply (.more true)])).bind Driven.prompt).map (fun p => signalsOf p.messages) =
      some [.call "t", .reply "t"] := by decide +kernel
  obtain ⟨p, hprompt, hp⟩ := Option.map_eq_some_iff.1 hsignals
  obtain ⟨s, hrun, hs⟩ := Option.bind_eq_some_iff.1 hprompt
  have hreach := Machine.ReachesBy.of_runBy _ hrun
  have hk : Windowless {} := ⟨⟨le_rfl, le_rfl, le_rfl⟩, le_rfl⟩
  exact ⟨s, p, hreach, hs, hp, prompt_wellPaired {} hk 7 1 s hreach p hs⟩

/-- A tool use waits for an approval, which is granted. Its first result, recorded when the
approval was asked for, and the one of the resume both stand in the next prompt. -/
theorem approved_resultsTwice :
    ∃ s p, (calls {} 7 1).Reaches {} s ∧ s.prompt = some p ∧
      signalsOf p.messages = [.call "t", .reply "t", .reply "t"] ∧
      ¬ WellPaired (signalsOf p.messages) := by
  have hsignals : (((calls {} 7 1).run {}
      (oneCall { awaitingApproval := true } ++
        [.reply (.appended 4), .reply (.wrote none), .reply (.wrote none), .reply (.more true),
         .leave,
         .start (.resume {} { toolUseEventID := 2, toolID := "web/get@1", input := ""
                              decision := .granted }),
         .reply (.wrote none), .reply (.executedApproved (some {})), .reply (.appended 5),
         .reply (.more true), .reply .unmetered, .reply (.appended 6),
         .reply (.more true)])).bind Driven.prompt).map (fun p => signalsOf p.messages) =
      some [.call "t", .reply "t", .reply "t"] := by decide +kernel
  obtain ⟨p, hprompt, hp⟩ := Option.map_eq_some_iff.1 hsignals
  obtain ⟨s, hrun, hs⟩ := Option.bind_eq_some_iff.1 hprompt
  refine ⟨s, p, .of_run _ hrun, hs, hp, fun h => ?_⟩
  have hone := h.one_reply "t" (hp ▸ List.mem_cons_self)
  rw [hp] at hone
  exact absurd hone (by decide)

end NexusAgent.Kernel
