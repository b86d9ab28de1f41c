import NexusAgent.Kernel.Types

/-!
# The timeline of the web client

The web client folds the events of a run into the items that it shows
(`web/src/lib/timeline.ts`). A tool call is one item: its result is found by the reference of the
result, and a request for an approval or for a delegation, which has no such reference, by the last
call of its tool that is still open.

The times of the events are left out. Of a body only the fields that are read are kept.

- `Settled`: a call whose result has come is not open and waits for no approval, and this stays so
  as long as no further call comes.
-/

namespace NexusAgent.Web

open EventLog

/-! ### Events of a run -/

/-- The fields of a body that are read, where they are texts. -/
structure Body where
  body : Option String := none
  toolName : Option String := none
  input : Option String := none
  output : Option String := none
  isError : Bool := false
  reason : Option String := none
  detail : Option String := none
  toolID : Option String := none
  childSessionID : Option UUID := none
  /-- The field `to`. -/
  target : Option String := none

/-- An event as the client receives it. -/
structure RunEvent where
  eventID : UUID
  type : EventType
  toolID : Option String := none
  pairRef : Option UUID := none
  body : Body := {}

def omitEmpty (text : String) : Option String := if text = "" then none else some text

/-- The text of the reason that a run ended for. -/
def reasonText : Kernel.TerminalReason → String
  | .completed => "completed"
  | .maxTurnsExceeded => "max_turns_exceeded"
  | .costExhausted => "cost_exhausted"
  | .aborted => "aborted"
  | .stuckTerminated => "stuck_terminated"
  | .permissionDenied => "permission_denied"
  | .contextOverflow => "context_overflow"
  | .error => "error"
  | .refused => "refused"
  | .idleTimeout => "idle_timeout"

/-- The body that the client gets for a payload. -/
def bodyOf : Kernel.Payload → Body
  | .userMessage body | .content body => { body := some body }
  | .toolUse toolName input _ => { toolName := some toolName, input := some input }
  | .toolResult result =>
    { output := omitEmpty result.output, isError := result.isError
      reason := omitEmpty result.reason, childSessionID := result.childSessionID }
  | .stuckSuspected reason => { reason := some reason.string }
  | .approvalRequested toolID reason _ =>
    { toolID := omitEmpty toolID, reason := omitEmpty reason }
  | .delegationRequested toolID childSessionID => { toolID := omitEmpty toolID, childSessionID }
  | .toolLoaded toolID => { toolID := some toolID }
  | .budgetDecision _ reason _ _ => { reason := omitEmpty reason }
  | .terminal reason detail => { reason := some (reasonText reason), detail := omitEmpty detail }
  | _ => {}

/-- An event of the log as the client receives it; a thought has no body. -/
def toRunEvent (e : Event Kernel.Payload) : RunEvent :=
  { eventID := e.eventID, type := e.type, toolID := e.toolID, pairRef := e.pairRef
    body := if e.type = .thought then {} else bodyOf e.payload }

/-! ### Items -/

/-- What a tool call came to. -/
structure ItemResult where
  output : Option String
  isError : Bool
  reason : Option String

structure ToolItem where
  toolUseEventID : UUID
  toolID : String
  input : Option String
  result : Option ItemResult := none
  childSessionID : Option UUID := none
  awaitingApproval : Bool := false

/-- How an item of the system is shown. -/
inductive Tone
  | info
  | warn
  | error

inductive TimelineItem
  | user (key : UUID) (text : String)
  | assistant (key : UUID) (text : String)
  | tool (item : ToolItem)
  | system (key : UUID) (text : String) (tone : Tone)

def terminalReasonText : String → Option String
  | "completed" => some "Done."
  | "max_turns_exceeded" => some "Stopped — hit the maximum number of turns for this run."
  | "cost_exhausted" => some "Stopped — the cost ceiling for this run was reached."
  | "aborted" => some "Cancelled."
  | "stuck_terminated" =>
    some "Stopped — the agent looked like it was stuck in a repeating loop."
  | "permission_denied" => some "Stopped — a required permission was denied."
  | "context_overflow" =>
    some "Stopped — the conversation grew past the model's context window."
  | "error" => some "Stopped — an error occurred."
  | "refused" => some "The model declined to continue with this request."
  | "idle_timeout" =>
    some "This conversation was closed after a long period with no reply."
  | _ => none

def terminalReasonTone : String → Option Tone
  | "completed" | "aborted" => some .info
  | "refused" | "max_turns_exceeded" | "cost_exhausted" | "stuck_terminated"
  | "permission_denied" | "context_overflow" | "idle_timeout" => some .warn
  | "error" => some .error
  | _ => none

/-- The item of the end of a run. -/
def terminalNote (reason detail : Option String) (eventID : UUID) : TimelineItem :=
  let base := match reason.filter (· ≠ "") with
    | some reason => (terminalReasonText reason).getD ("Stopped (" ++ reason ++ ").")
    | none => "Stopped."
  let tone := ((reason.filter (· ≠ "")).bind terminalReasonTone).getD .info
  let text := match detail.filter (· ≠ "") with
    | some detail => if reason = some "completed" then base else base ++ " " ++ detail
    | none => base
  .system eventID text tone

/-! ### The fold -/

structure Timeline where
  items : List TimelineItem := []
  indexByToolUseEventID : UUID → Option ℕ := fun _ => none
  openToolUseEventIDByToolID : String → Option UUID := fun _ => none

namespace Timeline

def push (t : Timeline) (item : TimelineItem) : Timeline := { t with items := t.items ++ [item] }

def tool? (t : Timeline) (toolUseEventID : UUID) : Option (ℕ × ToolItem) :=
  match t.indexByToolUseEventID toolUseEventID with
  | none => none
  | some idx =>
    match t.items[idx]? with
    | some (.tool item) => some (idx, item)
    | _ => none

/-- An item of a tool use is changed. -/
def setTool (t : Timeline) (idx : ℕ) (item : ToolItem) : Timeline :=
  { t with items := t.items.set idx (.tool item) }

def closeOpenTool (t : Timeline) (toolID : String) (toolUseEventID : UUID) : Timeline :=
  if t.openToolUseEventIDByToolID toolID = some toolUseEventID then
    { t with openToolUseEventIDByToolID :=
        Function.update t.openToolUseEventIDByToolID toolID none }
  else t

/-- The tool whose approval or delegation is requested. -/
def requestedTool (ev : RunEvent) : String := (ev.body.toolID.or ev.toolID).getD ""

def updateOpen (t : Timeline) (toolID : String) (f : ToolItem → ToolItem) : Timeline :=
  match (t.openToolUseEventIDByToolID toolID).bind t.tool? with
  | none => t
  | some (idx, item) => t.setTool idx (f item)

def toolUse (t : Timeline) (ev : RunEvent) : Timeline :=
  let toolID := (ev.toolID.or ev.body.toolName).getD "unknown_tool"
  { items := t.items ++
      [.tool { toolUseEventID := ev.eventID, toolID, input := ev.body.input }]
    indexByToolUseEventID :=
      Function.update t.indexByToolUseEventID ev.eventID (some t.items.length)
    openToolUseEventIDByToolID :=
      Function.update t.openToolUseEventIDByToolID toolID (some ev.eventID) }

def toolResult (t : Timeline) (ev : RunEvent) : Timeline :=
  match ev.pairRef with
  | none => t
  | some pairID =>
    match t.tool? pairID with
    | none => t
    | some (idx, item) =>
      let result : ItemResult :=
        { output := ev.body.output, isError := ev.body.isError, reason := ev.body.reason }
      (t.setTool idx { item with result := some result, awaitingApproval := false }).closeOpenTool
        item.toolID pairID

def delegate (childSessionID : Option UUID) (item : ToolItem) : ToolItem :=
  match childSessionID with
  | none => item
  | some child => { item with childSessionID := some child }

/-- The item that an event shows up as, where it is not about a tool call. -/
def note (ev : RunEvent) : Option TimelineItem :=
  match ev.type with
  | .userMessage => some (.user ev.eventID (ev.body.body.getD ""))
  | .content => some (.assistant ev.eventID (ev.body.body.getD ""))
  | .terminal => some (terminalNote ev.body.reason ev.body.detail ev.eventID)
  | .stuckSuspected => some (.system ev.eventID ("Possible repeating loop detected (" ++
      ev.body.reason.getD "unrecognized pattern" ++ ").") .warn)
  | .condensation => some (.system ev.eventID
      "Earlier context was summarized to stay within the model's context window." .info)
  | .approvalGranted | .approvalGrantedModified => some (.system ev.eventID "Approved." .info)
  | .approvalDenied => some (.system ev.eventID "Denied." .warn)
  | .approvalExpired => some (.system ev.eventID
      "The approval request expired before anyone answered it." .warn)
  | .approvalInvalidated | .approvalResolutionRefused | .approvalMismatch =>
    some (.system ev.eventID "That approval could not be resolved as requested." .warn)
  | .autonomyTightened => some (.system ev.eventID ("Autonomy tightened to \"" ++
      ev.body.target.getD "a stricter level" ++ "\".") .info)
  | _ => none

/-- One event of the fold. -/
def event (t : Timeline) (ev : RunEvent) : Timeline :=
  match ev.type with
  | .toolUse => t.toolUse ev
  | .toolResult => t.toolResult ev
  | .approvalRequested =>
    t.updateOpen (requestedTool ev) fun item => { item with awaitingApproval := true }
  | .delegationRequested =>
    t.updateOpen (requestedTool ev) (delegate ev.body.childSessionID)
  | _ =>
    match note ev with
    | none => t
    | some item => t.push item

end Timeline

def fold (events : List RunEvent) : Timeline := events.foldl Timeline.event {}

def buildTimeline (events : List RunEvent) : List TimelineItem := (fold events).items

/-- The call of an item that waits for an approval. -/
def TimelineItem.awaiting : TimelineItem → Option ToolItem
  | .tool item => if item.awaitingApproval then some item else none
  | _ => none

/-- `findAwaitingApproval`: the last call that waits for an approval. -/
def findAwaitingApproval (items : List TimelineItem) : Option ToolItem :=
  items.reverse.findSome? TimelineItem.awaiting

/-! ### The maps of the fold -/

/-- The two maps and the items belong together: the item of a tool use is where the index says, and
the open call of a tool is a call of that tool. `seen` are the events that have been folded. -/
structure Indexed (t : Timeline) (seen : List UUID) : Prop where
  index : ∀ id idx, t.indexByToolUseEventID id = some idx →
    ∃ item, t.items[idx]? = some (.tool item) ∧ item.toolUseEventID = id
  unique : ∀ idx item, t.items[idx]? = some (.tool item) →
    t.indexByToolUseEventID item.toolUseEventID = some idx ∧ item.toolUseEventID ∈ seen
  opened : ∀ tool id, t.openToolUseEventIDByToolID tool = some id →
    ∃ idx item, t.tool? id = some (idx, item) ∧ item.toolID = tool

section

variable {t : Timeline} {seen : List UUID} {id : UUID} {idx : ℕ} {item : ToolItem}

lemma tool?_eq_some :
    t.tool? id = some (idx, item) ↔
      t.indexByToolUseEventID id = some idx ∧ t.items[idx]? = some (.tool item) := by
  unfold Timeline.tool?
  constructor
  · intro h
    split at h
    · nomatch h
    next idx' hidx =>
      split at h
      next item' hitem =>
        cases h
        exact ⟨hidx, hitem⟩
      next => nomatch h
  · rintro ⟨hidx, hitem⟩
    rw [hidx]
    simp only [hitem]

lemma Indexed.init : Indexed {} [] where
  index _ _ h := nomatch h
  unique _ _ h := nomatch h
  opened _ _ h := nomatch h

lemma Indexed.mono (h : Indexed t seen) {seen' : List UUID} (hsub : seen ⊆ seen') :
    Indexed t seen' :=
  { h with unique := fun idx item hitem => (h.unique idx item hitem).imp_right fun hid => hsub hid }

lemma Indexed.push (h : Indexed t seen) {note : TimelineItem} (hnote : ∀ item, note ≠ .tool item) :
    Indexed (t.push note) seen := by
  have hold {idx : ℕ} {item : ToolItem} :
      (t.push note).items[idx]? = some (.tool item) ↔ t.items[idx]? = some (.tool item) := by
    show (t.items ++ [note])[idx]? = _ ↔ _
    rw [List.getElem?_append]
    split_ifs with hlt
    · rfl
    · rw [List.getElem?_singleton, List.getElem?_eq_none (not_lt.1 hlt)]
      split_ifs
      · exact ⟨fun heq => absurd (Option.some.inj heq) (hnote item), fun heq => nomatch heq⟩
      · rfl
  refine ⟨fun id idx hidx => ?_, fun idx item hitem => h.unique idx item (hold.1 hitem), ?_⟩
  · obtain ⟨item, hitem, hid⟩ := h.index id idx hidx
    exact ⟨item, hold.2 hitem, hid⟩
  · intro tool id hopen
    obtain ⟨idx, item, htool, hid⟩ := h.opened tool id hopen
    obtain ⟨hidx, hitem⟩ := tool?_eq_some.1 htool
    exact ⟨idx, item, tool?_eq_some.2 ⟨hidx, hold.2 hitem⟩, hid⟩

lemma getElem?_setTool {item' : ToolItem} (hold : t.items[idx]? = some (.tool item)) (j : ℕ) :
    (t.setTool idx item').items[j]? = if j = idx then some (.tool item') else t.items[j]? := by
  show (t.items.set idx (.tool item'))[j]? = _
  have hlt : idx < t.items.length := (List.getElem?_eq_some_iff.1 hold).1
  by_cases hj : j = idx
  · simp [hj, hlt]
  · simp [hj, Ne.symm hj]

section

variable (h : Indexed t seen)
include h

/-- The item of a call is changed, but neither its identifier nor its tool. -/
lemma Indexed.setTool {item' : ToolItem} (hold : t.items[idx]? = some (.tool item))
    (hid : item'.toolUseEventID = item.toolUseEventID) (htool : item'.toolID = item.toolID) :
    Indexed (t.setTool idx item') seen := by
  refine ⟨fun id j hj => ?_, fun j item₁ hitem => ?_, fun tool id hopen => ?_⟩
  · obtain ⟨item₁, hitem, hid₁⟩ := h.index id j hj
    rw [getElem?_setTool hold]
    split_ifs with hidx
    · subst hidx
      obtain rfl : item = item₁ := by simpa [hold] using hitem
      exact ⟨item', rfl, hid.trans hid₁⟩
    · exact ⟨item₁, hitem, hid₁⟩
  · rw [getElem?_setTool hold] at hitem
    split_ifs at hitem with hidx
    · obtain rfl : item' = item₁ := by simpa using hitem
      rw [hid, hidx]
      exact h.unique idx item hold
    · exact h.unique j item₁ hitem
  · obtain ⟨j, item₁, hfound, htool₁⟩ := h.opened tool id hopen
    obtain ⟨hj, hitem⟩ := tool?_eq_some.1 hfound
    by_cases hidx : j = idx
    · subst hidx
      obtain rfl : item = item₁ := by simpa [hold] using hitem
      refine ⟨j, item', tool?_eq_some.2 ⟨hj, ?_⟩, htool.trans htool₁⟩
      rw [getElem?_setTool hold, if_pos rfl]
    · refine ⟨j, item₁, tool?_eq_some.2 ⟨hj, ?_⟩, htool₁⟩
      rw [getElem?_setTool hold, if_neg hidx]
      exact hitem

lemma Indexed.closeOpenTool (toolID : String) : Indexed (t.closeOpenTool toolID id) seen := by
  unfold Timeline.closeOpenTool
  split_ifs
  · refine ⟨h.index, h.unique, fun tool id' hopen => ?_⟩
    by_cases heq : tool = toolID
    · simp [heq] at hopen
    · exact h.opened tool id' (by simpa [heq] using hopen)
  · exact h

/-- A call that is new. -/
lemma Indexed.toolUse {ev : RunEvent} (hnew : ev.eventID ∉ seen) :
    Indexed (t.toolUse ev) (ev.eventID :: seen) := by
  -- the identifier of the call has no item yet
  have hnone (idx : ℕ) (item : ToolItem) (hitem : t.items[idx]? = some (.tool item)) :
      item.toolUseEventID ≠ ev.eventID := by
    intro heq
    exact hnew (heq ▸ (h.unique idx item hitem).2)
  have hlast (idx : ℕ) (item : ToolItem) :
      (t.toolUse ev).items[idx]? = some (.tool item) ↔ t.items[idx]? = some (.tool item) ∨
        idx = t.items.length ∧ item =
          { toolUseEventID := ev.eventID
            toolID := (ev.toolID.or ev.body.toolName).getD "unknown_tool"
            input := ev.body.input } := by
    show (t.items ++ [_])[idx]? = _ ↔ _
    rw [List.getElem?_append]
    split_ifs with hlt
    · simp [Nat.ne_of_lt hlt]
    · rw [List.getElem?_singleton, List.getElem?_eq_none (not_lt.1 hlt)]
      simp only [Option.ite_none_right_eq_some, Option.some.injEq, TimelineItem.tool.injEq,
        reduceCtorEq, false_or]
      exact and_congr (by omega) eq_comm
  refine ⟨fun id idx hidx => ?_, fun idx item hitem => ?_, fun tool id hopen => ?_⟩
  · by_cases hid : id = ev.eventID
    · obtain rfl : t.items.length = idx := by simpa [Timeline.toolUse, hid] using hidx
      exact ⟨_, (hlast _ _).2 (.inr ⟨rfl, rfl⟩), hid.symm⟩
    · obtain ⟨item, hitem, hid'⟩ := h.index id idx (by simpa [Timeline.toolUse, hid] using hidx)
      exact ⟨item, (hlast _ _).2 (.inl hitem), hid'⟩
  · obtain hold | ⟨rfl, rfl⟩ := (hlast idx item).1 hitem
    · have hne := hnone idx item hold
      obtain ⟨hidx, hseen⟩ := h.unique idx item hold
      exact ⟨by simpa [Timeline.toolUse, hne] using hidx, List.mem_cons_of_mem _ hseen⟩
    · exact ⟨by simp [Timeline.toolUse], List.mem_cons_self⟩
  · by_cases htool : tool = (ev.toolID.or ev.body.toolName).getD "unknown_tool"
    · obtain rfl : ev.eventID = id := by simpa [Timeline.toolUse, htool] using hopen
      refine ⟨t.items.length, _, tool?_eq_some.2 ⟨?_, (hlast _ _).2 (.inr ⟨rfl, rfl⟩)⟩,
        htool.symm⟩
      simp [Timeline.toolUse]
    · obtain ⟨idx, item, hfound, htool'⟩ :=
        h.opened tool id ((Function.update_of_ne htool _ _).symm.trans hopen)
      obtain ⟨hidx, hitem⟩ := tool?_eq_some.1 hfound
      have hne : id ≠ ev.eventID := by
        obtain ⟨item', hitem', hid⟩ := h.index id idx hidx
        exact hid ▸ hnone idx item' hitem'
      refine ⟨idx, item, tool?_eq_some.2 ⟨?_, (hlast _ _).2 (.inl hitem)⟩, htool'⟩
      simpa [Timeline.toolUse, hne] using hidx

lemma Indexed.toolResult (ev : RunEvent) : Indexed (t.toolResult ev) seen := by
  unfold Timeline.toolResult
  split
  · exact h
  split
  · exact h
  next idx item hfound =>
    refine Indexed.closeOpenTool ?_ item.toolID
    exact h.setTool (tool?_eq_some.1 hfound).2 rfl rfl

lemma Indexed.updateOpen (toolID : String) {f : ToolItem → ToolItem}
    (hf : ∀ item, (f item).toolUseEventID = item.toolUseEventID ∧ (f item).toolID = item.toolID) :
    Indexed (t.updateOpen toolID f) seen := by
  unfold Timeline.updateOpen
  split
  · exact h
  next idx item hfound =>
    obtain ⟨id, -, htool⟩ := Option.bind_eq_some_iff.1 hfound
    exact h.setTool (tool?_eq_some.1 htool).2 (hf item).1 (hf item).2

end

lemma note_ne_tool {ev : RunEvent} {note : TimelineItem} (h : Timeline.note ev = some note)
    (item : ToolItem) : note ≠ .tool item := by
  rintro rfl
  unfold Timeline.note at h
  split at h <;> simp [terminalNote] at h

lemma Indexed.event (h : Indexed t seen) {ev : RunEvent} (hnew : ev.eventID ∉ seen) :
    Indexed (t.event ev) (ev.eventID :: seen) := by
  have hmono := h.mono (List.subset_cons_self ev.eventID seen)
  unfold Timeline.event
  split
  · exact h.toolUse hnew
  · exact hmono.toolResult ev
  · exact hmono.updateOpen _ fun _ => ⟨rfl, rfl⟩
  · refine hmono.updateOpen _ fun item => ?_
    unfold Timeline.delegate
    split <;> exact ⟨rfl, rfl⟩
  · split
    · exact hmono
    next note hnote => exact hmono.push (note_ne_tool hnote)

end

lemma indexed_fold {events : List RunEvent} (h : (events.map RunEvent.eventID).Nodup) :
    Indexed (fold events) (events.map RunEvent.eventID).reverse := by
  induction events using List.reverseRecOn with
  | nil => exact .init
  | append_singleton events ev ih =>
    rw [List.map_append, List.nodup_append] at h
    rw [fold, List.foldl_append, List.map_append, List.reverse_append]
    refine (ih h.1).event fun hmem => ?_
    exact h.2.2 ev.eventID (List.mem_reverse.1 hmem) ev.eventID (by simp) rfl

/-! ### Calls whose result has come -/

structure Settled (t : Timeline) (id : UUID) : Prop where
  closed : ∀ tool, t.openToolUseEventIDByToolID tool ≠ some id
  unawaited : ∀ item, .tool item ∈ t.items → item.toolUseEventID = id →
    item.awaitingApproval = false

section

variable {t : Timeline} {seen : List UUID} {id : UUID} {ev : RunEvent}

lemma settled_of_none (h : Indexed t seen) (hnone : t.tool? id = none) : Settled t id := by
  refine ⟨fun tool hopen => ?_, fun item hitem hid => ?_⟩
  · obtain ⟨idx, item, hfound, -⟩ := h.opened tool id hopen
    nomatch hnone.symm.trans hfound
  · obtain ⟨idx, hidx⟩ := List.mem_iff_getElem?.1 hitem
    have hfound := tool?_eq_some.2 ⟨(h.unique idx item hidx).1, hidx⟩
    rw [hid, hnone] at hfound
    nomatch hfound

lemma settled_closeOpenTool (h : Indexed t seen) {idx : ℕ} {item : ToolItem}
    (hfound : t.tool? id = some (idx, item)) (hwaits : item.awaitingApproval = false) :
    Settled (t.closeOpenTool item.toolID id) id := by
  -- a call is open for its own tool only
  have hown (tool : String) (hopen : t.openToolUseEventIDByToolID tool = some id) :
      tool = item.toolID := by
    obtain ⟨idx', item', hfound', htool⟩ := h.opened tool id hopen
    obtain ⟨-, rfl⟩ := Prod.mk.inj (Option.mem_unique hfound hfound')
    exact htool.symm
  have hunawaited (item' : ToolItem) (hitem : .tool item' ∈ t.items)
      (hid : item'.toolUseEventID = id) : item'.awaitingApproval = false := by
    obtain ⟨j, hj⟩ := List.mem_iff_getElem?.1 hitem
    have hfound' := tool?_eq_some.2 ⟨(h.unique j item' hj).1, hj⟩
    rw [hid, hfound] at hfound'
    cases hfound'
    exact hwaits
  unfold Timeline.closeOpenTool
  split_ifs with hlast
  · refine ⟨fun tool hopen => ?_, hunawaited⟩
    by_cases heq : tool = item.toolID
    · simp [heq] at hopen
    · exact heq (hown tool ((Function.update_of_ne heq _ _).symm.trans hopen))
  · exact ⟨fun tool hopen => hlast (hown tool hopen ▸ hopen), hunawaited⟩

lemma settled_toolResult (h : Indexed t seen) (hpair : ev.pairRef = some id) :
    Settled (t.toolResult ev) id := by
  unfold Timeline.toolResult
  simp only [hpair]
  split
  next hnone => exact settled_of_none h hnone
  next idx item hfound =>
    obtain ⟨hidx, hold⟩ := tool?_eq_some.1 hfound
    let item' : ToolItem :=
      { item with
        result := some { output := ev.body.output, isError := ev.body.isError
                         reason := ev.body.reason }
        awaitingApproval := false }
    have hindexed : Indexed (t.setTool idx item') seen := h.setTool hold rfl rfl
    have hfound' : (t.setTool idx item').tool? id = some (idx, item') :=
      tool?_eq_some.2 ⟨hidx, (getElem?_setTool hold idx).trans (if_pos rfl)⟩
    have hsettled := settled_closeOpenTool hindexed hfound' rfl
    exact hsettled

lemma Settled.updateOpen (hs : Settled t id) (h : Indexed t seen) (toolID : String)
    {f : ToolItem → ToolItem} (hf : ∀ item, (f item).toolUseEventID = item.toolUseEventID) :
    Settled (t.updateOpen toolID f) id := by
  unfold Timeline.updateOpen
  split
  · exact hs
  next idx item hfound =>
    obtain ⟨open_, hopen, htool⟩ := Option.bind_eq_some_iff.1 hfound
    obtain ⟨hidx, hold⟩ := tool?_eq_some.1 htool
    refine ⟨hs.closed, fun item' hitem hid => ?_⟩
    obtain ⟨j, hj⟩ := List.mem_iff_getElem?.1 hitem
    rw [getElem?_setTool hold] at hj
    split_ifs at hj with heq
    · obtain rfl := TimelineItem.tool.inj (Option.some.inj hj)
      obtain ⟨item₁, hitem₁, hid₁⟩ := h.index open_ idx hidx
      obtain rfl : item = item₁ := by simpa [hold] using hitem₁
      rw [hf, hid₁] at hid
      exact absurd (hid ▸ hopen) (hs.closed toolID)
    · exact hs.unawaited item' (List.mem_of_getElem? hj) hid

lemma Settled.event (hs : Settled t id) (h : Indexed t seen)
    (hev : ev.type = .taintTransition ∨ ev.type = .approvalRequested) :
    Settled (t.event ev) id := by
  unfold Timeline.event
  rcases hev with hev | hev
  · simpa [hev, Timeline.note] using hs
  · rw [hev]
    exact hs.updateOpen h _ fun _ => rfl

end

lemma settled_fold {events rest : List RunEvent} {id : UUID} (hs : Settled (fold events) id)
    (hnodup : ((events ++ rest).map RunEvent.eventID).Nodup)
    (hrest : ∀ ev ∈ rest, ev.type = .taintTransition ∨ ev.type = .approvalRequested) :
    Settled (fold (events ++ rest)) id := by
  induction rest using List.reverseRecOn with
  | nil => rwa [List.append_nil]
  | append_singleton rest ev ih =>
    rw [← List.append_assoc] at hnodup ⊢
    have hnodup' : ((events ++ rest).map RunEvent.eventID).Nodup := by
      rw [List.map_append] at hnodup
      exact hnodup.of_append_left
    have hsettled := ih hnodup' fun e he => hrest e (List.mem_append_left _ he)
    rw [fold, List.foldl_append]
    exact hsettled.event (indexed_fold hnodup') (hrest ev (by simp))

/-- Exactly one item waits for an approval. It is that of the call, and `findAwaitingApproval`
returns it. -/
def ShowsPending (items : List TimelineItem) (toolUseEventID : UUID) : Prop :=
  ∃ item, items.filterMap TimelineItem.awaiting = [item] ∧
    item.toolUseEventID = toolUseEventID ∧ findAwaitingApproval items = some item

lemma Settled.not_showsPending {t : Timeline} {id : UUID} (h : Settled t id) :
    ¬ ShowsPending t.items id := by
  rintro ⟨item, hone, hid, -⟩
  have hmem : item ∈ t.items.filterMap TimelineItem.awaiting := by simp [hone]
  obtain ⟨shown, hshown, hawaiting⟩ := List.mem_filterMap.1 hmem
  cases shown with
  | tool item' =>
    obtain ⟨hwaits, heq⟩ := Option.ite_none_right_eq_some.1 hawaiting
    obtain rfl := Option.some.inj heq
    rw [h.unawaited item' hshown hid] at hwaits
    nomatch hwaits
  | _ => nomatch hawaiting

end NexusAgent.Web
