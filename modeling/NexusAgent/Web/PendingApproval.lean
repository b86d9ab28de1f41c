import NexusAgent.Kernel.Prompts
import NexusAgent.Web.Timeline

/-!
# What the web client shows of a pending approval

A kernel call that waits for an approval has appended the result of its tool call, at most one
taint transition and then the request for the approval (`kernel/turns.go`, `suspendForApproval` in
`kernel/terminal.go`). The web client takes a request to be about the last call of its tool that
has no result yet (`web/src/lib/timeline.ts`), and the call that suspended the run has one.

- `requesting`: the protocol that says so, followed by every kernel call.
-/

namespace NexusAgent.Web

open EventLog Kernel Routine Provider

def Requested (log : List (Event Payload)) (toolUseEventID : UUID) : Prop :=
  ∃ before result rest, log = before ++ result :: rest ∧ result.type = .toolResult ∧
    result.pairRef = some toolUseEventID ∧
    ∀ e ∈ rest, e.type = .taintTransition ∨ e.type = .approvalRequested

/-- The state of the protocol is the log. What a session waits for is recorded when its approval
has been requested. -/
def requesting : Protocol (List (Event Payload)) Op Op.Answer where
  admits log
    | .recordSuspension r => Requested log r.toolUseEventID
    | _ => True
  step log
    | .append d, .ok (eventID, seq), log' => log' = log ++ [d.event eventID seq]
    | _, _, log' => log' = log

/-! ### Parts of calls -/

section

variable {α : Type} {s : RunState} {log : List (Event Payload)}

/-- A part of a call that records no suspension. -/
abbrev Requests (c : Call α) : Prop := Keeps requesting (fun _ _ => True) c

lemma requests_other {o : Op} (ho : ∀ log, requesting.admits log o) :
    Requests (request o : Call o.Answer) :=
  keeps_request fun _ log _ => ⟨ho log, fun _ _ _ => trivial⟩

/-- An append goes through and the event joins the log, or the call ends. -/
lemma wp_append {type : EventType} {actor : Actor} {toolID : Option String}
    {pairRef : Option UUID} {payload : Payload}
    {R : Event Payload → RunState → List (Event Payload) → Prop}
    (hR : ∀ ev s', ev.type = type → ev.pairRef = pairRef → R ev s' (log ++ [ev])) :
    wp requesting (appendEvent type actor toolID pairRef payload) R (fun _ => True) s log := by
  refine wp_bind.2 (wp_get.2 (wp_ask trivial fun answer log' hst => ?_))
  match answer with
  | .error e => exact wp_ask trivial fun _ _ _ => trivial
  | .ok (eventID, seq) =>
    obtain rfl := hst
    exact wp_bind.2 (wp_set.2 (hR _ _ rfl rfl))

lemma quiet_requesting (log : List (Event Payload)) : Quiet requesting log := by
  intro o ho
  cases o <;> first | exact ho.elim | exact ⟨trivial, fun _ _ hst => hst⟩

lemma requests_quietly :
    Quietly requesting (fun _ => True) (fun _ => True) (fun _ _ => True) fun _ => True where
  quiet _ := ⟨quiet_requesting _, trivial⟩
  append _ _ _ _ :=
    ⟨trivial, fun _ log' _ => ⟨quiet_requesting log', trivial⟩, fun _ _ _ _ => trivial⟩
  setStatus _ _ _ _ := ⟨trivial, fun _ _ _ => trivial⟩

lemma requests : Ending requesting (fun _ _ => True) (fun _ _ _ => True) fun _ => True where
  toInvariant := requests_quietly.invariant (fun _ _ => trivial) fun _ _ => trivial
  fail := requests_quietly.fail none
  running := requests_quietly.updateStatus trivial none
  terminate t := requests_quietly.terminate trivial t trivial
  suspendForUserInput := requests_quietly.suspendForUserInput trivial trivial

lemma requests_suspendForDelegation (toolUse : Event Payload) (childSessionID : Option UUID) :
    Requests (suspendForDelegation toolUse childSessionID : Call α) :=
  requests_quietly.suspendForDelegation trivial trivial
    (fun r => requests_other (o := .recordDelegation r) fun _ => trivial) _ _

/-! ### Tool calls -/

def Replied (log : List (Event Payload)) (toolUseEventID : UUID) : Prop :=
  ∃ before result rest, log = before ++ result :: rest ∧ result.type = .toolResult ∧
    result.pairRef = some toolUseEventID ∧ ∀ e ∈ rest, e.type = .taintTransition

lemma Replied.taint {id : UUID} (h : Replied log id) {ev : Event Payload}
    (htype : ev.type = .taintTransition) : Replied (log ++ [ev]) id := by
  obtain ⟨before, result, rest, rfl, hresult, hpair, hrest⟩ := h
  refine ⟨before, result, rest ++ [ev], by simp, hresult, hpair, ?_⟩
  simpa [or_imp, forall_and, htype] using hrest

lemma Replied.requested {id : UUID} (h : Replied log id) {ev : Event Payload}
    (htype : ev.type = .approvalRequested) : Requested (log ++ [ev]) id := by
  obtain ⟨before, result, rest, rfl, hresult, hpair, hrest⟩ := h
  refine ⟨before, result, rest ++ [ev], by simp, hresult, hpair, fun e he => ?_⟩
  rcases List.mem_append.1 he with hold | hlast
  · exact .inl (hrest e hold)
  · exact .inr (List.mem_singleton.1 hlast ▸ htype)

lemma wp_suspendForApproval {toolUse : Event Payload} (h : Replied log toolUse.eventID)
    (input : String) (result : ToolResult) :
    wp requesting (suspendForApproval toolUse input result : Call α) (fun _ _ _ => True)
      (fun _ => True) s log := by
  refine wp_bind.2 (wp_append fun ev s' htype _ => ?_)
  refine wp_bind.2 (wp_bind.2 (wp_get.2 (wp_request.2 ⟨trivial, fun written log' hst => ?_⟩)))
  obtain rfl : log' = log ++ [ev] := hst
  match written with
  | some err => exact requests_quietly.fail _ _ s' _ trivial
  | none =>
    refine wp_bind.2 (wp_get.2 (wp_ask ?_ fun recorded _ _ => ?_))
    · exact h.requested htype
    · match recorded with
      | some err => exact requests_quietly.fail _ _ s' _ trivial
      | none => exact requests_quietly.yield_stop ev s' _ trivial

lemma requests_dispatchCall (cfg : RunConfig) (tu : ToolUseRequest) (toolUse : Event Payload) :
    Requests (dispatchCall cfg tu toolUse) := by
  intro s log _
  refine wp_bind.2 (wp_get.2 (wp_ask trivial fun result log' hst => ?_))
  obtain rfl : log' = log := hst
  refine wp_bind.2 (wp_append fun ev s₁ htype hpair => ?_)
  have hreplied : Replied (log' ++ [ev]) toolUse.eventID :=
    ⟨log', ev, [], rfl, htype, hpair, List.forall_mem_nil _⟩
  -- what comes after the request for an approval records no suspension
  have hafter : Requests (do
      when result.awaitingDelegation (suspendForDelegation toolUse result.childSessionID)
      observe tu
      pure (ContentBlock.toolResult tu.toolUseID (resultText result) result.isError)) := by
    refine keeps_bind (keeps_when (requests_suspendForDelegation _ _)) fun _ => ?_
    exact keeps_bind (requests.observe tu) fun _ => keeps_pure _
  have hrest (s : RunState) (log : List (Event Payload)) (h : Replied log toolUse.eventID) :
      wp requesting (do
        when result.permissionDenied
          (terminate (terminalPermissionDenied (toolUse.toolID.getD "unknown")))
        when result.awaitingApproval (suspendForApproval toolUse tu.input result)
        when result.awaitingDelegation (suspendForDelegation toolUse result.childSessionID)
        observe tu
        pure (ContentBlock.toolResult tu.toolUseID (resultText result) result.isError))
        (fun _ _ _ => True) (fun _ => True) s log := by
    refine wp_bind.2
      (wp_when (fun _ => wp_terminate (requests.terminate _ _ _ trivial)) fun _ => ?_)
    refine wp_bind.2 (wp_when (fun _ => ?_) fun _ => hafter s log trivial)
    exact wp_mono (wp_suspendForApproval h _ _) fun _ s' log' _ => hafter s' log' trivial
  refine wp_bind.2 (wp_emit (quiet_requesting _) trivial ?_)
  refine wp_bind.2 (wp_when (fun _ => ?_) fun _ => hrest _ _ hreplied)
  refine wp_bind.2 (wp_append fun ev' s₂ htype' _ => ?_)
  exact wp_emit (quiet_requesting _) trivial (hrest _ _ (hreplied.taint htype'))

end

/-! ### Kernel calls -/

lemma entry_follows_requesting (k : Kernel) (tenantID sid : UUID)
    (history : List (Event Payload)) (entry : Entry) :
    (entry.start k tenantID sid history).Follows requesting history fun _ _ => True := by
  have hbudget {o : Op} (ho : o.Budgeting) : Requests (request o : Call o.Answer) :=
    requests_other fun _ => by cases o <;> first | exact ho.elim | trivial
  have hturn := requests.turn hbudget
    (fun p tools => requests_other (o := .stream p tools) fun _ => trivial) requests_dispatchCall k
  exact requests.follows k hturn (fun _ _ _ => trivial) history entry

/-- The call under way requests approvals only after results. -/
def Requesting (s : Driven) : Prop :=
  ∀ p ∈ s.live, p.Follows requesting s.row.log.events fun _ _ => True

lemma Requesting.reply {s : Driven} {p p' : Live} {row : Row} {t : Reply} (h : Requesting s)
    (hp : s.live = some p) (hst : p.advance Row.handle s.row t = some (row, p')) :
    Requesting { s with row, live := some p' } := by
  obtain ⟨o, k, answer, rfl, hh, rfl⟩ := Process.advance_eq_some.1 hst
  obtain ⟨-, hnext⟩ := h _ hp
  rintro _ ⟨⟩
  refine hnext answer _ ?_
  by_cases happend : ∃ d, o = .append d
  · obtain ⟨d, rfl⟩ := happend
    rcases Row.handle_append hh with ⟨e, rfl, rfl⟩ | ⟨eventID, log, rfl, hlog, rfl⟩
    · rfl
    · exact (Log.append_eq_some hlog).2
  · have hlog : row.log = s.row.log := Row.handle_log (fun d heq => happend ⟨d, heq⟩) hh
    show requesting.step s.row.log.events o answer row.log.events
    rw [hlog]
    cases o with
    | append d => exact absurd ⟨d, rfl⟩ happend
    | _ => rfl

lemma requesting_step (k : Kernel) (tenantID sid : UUID) {s s' : Driven} {a : Drive}
    (h : Requesting s) (hst : (calls k tenantID sid).step s a = some s') : Requesting s' := by
  cases a with
  | start entry =>
    obtain ⟨-, heq⟩ := Option.ite_none_right_eq_some.1 hst
    cases heq
    rintro _ ⟨⟩
    exact entry_follows_requesting k tenantID sid _ entry
  | reply t =>
    obtain ⟨p, ⟨row, p'⟩, hp, hadv, rfl⟩ := Option.bind_map_some hst
    exact h.reply hp hadv
  | leave =>
    cases hst
    exact fun _ hp => nomatch hp

/-! ### The client -/

/-- What a session that is being suspended for an approval waits for. -/
def recording (s : Driven) : Option SuspendRequest :=
  match s.live with
  | some (.ask (.recordSuspension r) _) => some r
  | _ => none

lemma Requesting.requested {s : Driven} (h : Requesting s) {r : SuspendRequest}
    (hr : recording s = some r) : Requested s.row.log.events r.toolUseEventID := by
  unfold recording at hr
  split at hr
  next r' cont hlive =>
    cases hr
    exact (h _ hlive).1
  next => nomatch hr

lemma settled_of_requested {log : Log Payload} {id : UUID} (h : Requested log.events id) :
    Settled (fold (log.events.map toRunEvent)) id := by
  have hnodup : ((log.events.map toRunEvent).map RunEvent.eventID).Nodup := by
    rw [List.map_map]
    exact log.nodup_eventID
  obtain ⟨before, result, rest, heq, htype, hpair, hrest⟩ := h
  -- the log up to the result, and what comes after it
  have hsplit : log.events.map toRunEvent =
      (before ++ [result]).map toRunEvent ++ rest.map toRunEvent := by simp [heq]
  rw [hsplit] at hnodup ⊢
  refine settled_fold ?_ hnodup ?_
  · have hbefore : ((before.map toRunEvent).map RunEvent.eventID).Nodup := by
      simp only [List.map_append, List.append_assoc] at hnodup ⊢
      exact hnodup.of_append_left
    rw [List.map_append, fold, List.foldl_append]
    show Settled ((fold (before.map toRunEvent)).event (toRunEvent result)) id
    simp only [toRunEvent, htype]
    exact settled_toolResult (indexed_fold hbefore) hpair
  · intro ev hev
    obtain ⟨e, he, rfl⟩ := List.mem_map.1 hev
    exact hrest e he

/-- Whenever a session is suspended for an approval, the client does not show the call that
suspended it as the one that waits. -/
theorem pending_notShown (k : Kernel) (tenantID sid : UUID) (s : Driven)
    (hs : (calls k tenantID sid).Reaches {} s) (r : SuspendRequest) (hr : recording s = some r) :
    ¬ ShowsPending (buildTimeline (s.row.log.events.map toRunEvent)) r.toolUseEventID := by
  have hinv := hs.invariant (I := Requesting) (fun _ hp => nomatch hp)
    fun _ _ _ h hst => requesting_step k tenantID sid h hst
  exact (settled_of_requested (hinv.requested hr)).not_showsPending

/-- A single call asks for an approval, and the client shows none that waits. -/
theorem singleCall_notShown :
    ∃ s r, (calls {} 7 1).Reaches {} s ∧ recording s = some r ∧
      findAwaitingApproval (buildTimeline (s.row.log.events.map toRunEvent)) = none ∧
      ¬ ShowsPending (buildTimeline (s.row.log.events.map toRunEvent)) r.toolUseEventID := by
  have hrun : ∃ s, (calls {} 7 1).Reaches {} s ∧ ((recording s).isSome ∧
      findAwaitingApproval (buildTimeline (s.row.log.events.map toRunEvent)) = none) := by
    apply Machine.Reaches.exists_of_run
      (oneCall { awaitingApproval := true } ++ [.reply (.appended 4), .reply (.wrote none)])
    decide +kernel
  obtain ⟨s, hs, hsome, hnone⟩ := hrun
  obtain ⟨r, hr⟩ := Option.isSome_iff_exists.1 hsome
  exact ⟨s, r, hs, hr, hnone, pending_notShown {} 7 1 s hs r hr⟩

/-- Two calls of one tool in a turn: the first suspends the run, and the client shows the second
one as the call that waits for an approval. -/
theorem parallelCalls_shown :
    ∃ s, (calls {} 7 1).Reaches {} s ∧ (recording s).map SuspendRequest.toolUseEventID = some 2 ∧
      (findAwaitingApproval (buildTimeline (s.row.log.events.map toRunEvent))).map
        ToolItem.toolUseEventID = some 3 := by
  apply Machine.Reaches.exists_of_run
    [.start (.run {}), .reply (.wrote none), .reply .unmetered, .reply (.appended 1),
     .reply (.more true),
     .reply (.streamed (.ok ([.toolUse "t" "web/get@1" "", .toolUse "u" "web/get@1" ""], none))),
     .reply (.wrote none), .reply (.appended 2), .reply (.more true), .reply (.appended 3),
     .reply (.more true), .reply (.executed { awaitingApproval := true }), .reply (.appended 4),
     .reply (.more true), .reply (.appended 5), .reply (.wrote none)]
  decide +kernel

end NexusAgent.Web
