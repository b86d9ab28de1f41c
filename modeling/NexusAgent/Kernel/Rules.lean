import NexusAgent.Kernel.Loop

/-!
# Rules for kernel calls

Pre- and postconditions of the parts that every kernel call is made of, for an arbitrary
protocol. Most requests mean nothing to a protocol about the log, the status or the taint of a
session: `Quiet` collects them, so that a protocol only says what appends, status writes,
model calls and tool calls do.
-/

namespace NexusAgent.Kernel

open EventLog Provider Routine

/-- The requests to the budget gate. -/
def Op.Budgeting : Op → Prop
  | .reserve _ | .reconcile .. => True
  | _ => False

/-- Requests other than appends, status writes, model calls, tool calls, those to the budget gate
and those that record what a session waits for. -/
def Op.Unobserved : Op → Prop
  | .yield .. | .executeApproved .. | .record .. | .forget _ | .panic => True
  | _ => False

/-- Unobserved requests that do not go to the consumer. -/
def Op.Passing : Op → Prop
  | .yield .. => False
  | o => o.Unobserved

lemma Op.Passing.unobserved {o : Op} (h : o.Passing) : o.Unobserved := by
  cases o <;> trivial

variable {Q α : Type} {π : Protocol Q Op Op.Answer} {E : Q → Prop} {s : RunState} {q : Q}
  {R : α → RunState → Q → Prop} {o : Op} {c : Call Unit} {ev : Event Payload}
  {I : RunState → Q → Prop} {J : Event Payload → RunState → Q → Prop} {type : EventType}
  {actor : Actor} {toolID : Option String} {pairRef : Option UUID} {payload : Payload}

/-- In state `q` the unobserved requests are admitted, and none of them is noticed. -/
def Quiet (π : Protocol Q Op Op.Answer) (q : Q) : Prop :=
  ∀ o : Op, o.Unobserved → π.admits q o ∧ ∀ a q', π.step q o a q' → q' = q

lemma wp_unobserved {R : o.Answer → RunState → Q → Prop} (hq : Quiet π q) (ho : o.Unobserved)
    (hR : ∀ a, R a s q) : wp π (request o) R E s q := by
  refine wp_request.2 ⟨(hq o ho).1, fun a q' hst => ?_⟩
  obtain rfl := (hq o ho).2 a q' hst
  exact hR a

lemma wp_yield {e : Option (Event Payload)} {err : Option String}
    {R : Bool → RunState → Q → Prop} (hq : Quiet π q) (hR : ∀ b, R b s q) :
    wp π (yield e err) R E s q :=
  wp_unobserved (o := .yield e err) hq trivial hR

lemma wp_fail {ev : Option (Event Payload)} {err : String} (hq : Quiet π q) (hE : E q) :
    wp π (fail ev err) R E s q := by
  refine wp_bind.2 (wp_yield hq fun _ => ?_)
  exact wp_stop.2 hE

lemma wp_when {b : Bool} {R : Unit → RunState → Q → Prop}
    (htrue : b = true → wp π c R E s q) (hfalse : b = false → R () s q) :
    wp π (when b c) R E s q := by
  cases b with
  | true => exact htrue rfl
  | false => exact hfalse rfl

lemma wp_emit {R : Unit → RunState → Q → Prop} (hq : Quiet π q) (hE : E q)
    (hR : R () s q) : wp π (emit ev) R E s q := by
  refine wp_bind.2 (wp_yield hq fun more => ?_)
  exact wp_when (fun _ => wp_stop.2 hE) fun _ => hR

/-- The last event of a call is handed over, and the call ends. -/
lemma wp_yield_stop (hq : Quiet π q) (hE : E q) :
    wp π (do let _ ← yield (some ev) none; stop : Call α) R E s q :=
  wp_bind.2 (wp_yield hq fun _ => wp_stop.2 hE)

/-- An event of this session that is to be appended. -/
def RunState.draft (st : RunState) (type : EventType) (actor : Actor) (toolID : Option String)
    (pairRef : Option UUID) (payload : Payload) : Draft :=
  { sessionID := st.sessionID, type, actor, toolID, pairRef, payload }

/-- The state after an append: the event is the last of the history. -/
def RunState.appended (st : RunState) (ev : Event Payload) : RunState :=
  { st with history := st.history ++ [ev] }

/-- An append goes through and the event joins the history, or it fails and the call ends. -/
lemma wp_appendEvent {R : Event Payload → RunState → Q → Prop}
    (hadm : π.admits q (.append (s.draft type actor toolID pairRef payload)))
    (herr : ∀ (e : AppendError) q',
      π.step q (.append (s.draft type actor toolID pairRef payload))
        (.error e : Except AppendError (UUID × ℕ)) q' → Quiet π q' ∧ E q')
    (hok : ∀ (eventID : UUID) (seq : ℕ) q',
      π.step q (.append (s.draft type actor toolID pairRef payload))
        (.ok (eventID, seq) : Except AppendError (UUID × ℕ)) q' →
      let ev := (s.draft type actor toolID pairRef payload).event eventID seq
      R ev (s.appended ev) q') :
    wp π (appendEvent type actor toolID pairRef payload) R E s q := by
  refine wp_bind.2 (wp_get.2 (wp_ask hadm fun a q' hst => ?_))
  match a with
  | .error e =>
    obtain ⟨hquiet, hE⟩ := herr e q' hst
    exact wp_fail hquiet hE
  | .ok (eventID, seq) => exact wp_bind.2 (wp_set.2 (hok eventID seq q' hst))

lemma wp_pruneView_off {k : Kernel} (hoff : k.prunePolicy.Off)
    {R : List Message → RunState → Q → Prop} (hR : R s.transcript s q) :
    wp π (pruneView k) R E s q := by
  refine wp_bind.2 (wp_get.2 ?_)
  rw [Promptctx.prune_off k.pruneRef hoff s.transcript]
  exact hR

/-- Hygiene, with what it keeps and what it finds owed in the words of `hygiene`. -/
lemma wp_repair_iff {R : Unit → RunState → Q → Prop} :
    wp π repair R E s q ↔ wp π (do
      let blocks ← appendSynthetic (hygiene s.history).2
      when (!blocks.isEmpty) (say { role := .tool, blocks })) R E
      { s with history := (hygiene s.history).1 } q := Iff.rfl

/-! ### Invariants of kernel calls -/

/-- The own state of a call may change, but not whose call it is. -/
structure RunState.Same (s s' : RunState) : Prop where
  tenant : s'.tenantID = s.tenantID
  session : s'.sessionID = s.sessionID

/-- Events that neither say how a call came out nor record a taint. -/
def Plain (type : EventType) : Prop :=
  type ∉ [.terminal, .approvalRequested, .delegationRequested, .awaitingInput, .taintTransition]

instance (type : EventType) : Decidable (Plain type) := inferInstanceAs (Decidable (_ ∉ _))

lemma keeps_when {b : Bool} (hc : Keeps π I c E) :
    Keeps π I (when b c) E := by
  cases b with
  | true => exact hc
  | false => exact keeps_pure ()

/-- What the parts of a turn keep between their events. While an event is appended and not yet
handed over, `J` holds in the place of `I`; where a call ends early, `E` does. -/
structure Invariant (π : Protocol Q Op Op.Answer) (I : RunState → Q → Prop)
    (J : Event Payload → RunState → Q → Prop) (E : Q → Prop) : Prop where
  passing {o : Op} (ho : o.Passing) : Keeps π I (request o : Call o.Answer) E
  append {type : EventType} {actor : Actor} {toolID : Option String} {pairRef : Option UUID}
    {payload : Payload} (htype : Plain type) {s : RunState} {q : Q} (hI : I s q) :
    wp π (appendEvent type actor toolID pairRef payload) J E s q
  emit {ev : Event Payload} {s : RunState} {q : Q} (hJ : J ev s q) :
    wp π (emit ev) (fun _ => I) E s q
  same {s s' : RunState} {q : Q} (hI : I s q) (hs : s.Same s') : I s' q
  same_owed {ev : Event Payload} {s s' : RunState} {q : Q} (hJ : J ev s q) (hs : s.Same s') :
    J ev s' q

namespace Invariant

variable (h : Invariant π I J E)
include h

lemma panicked : Keeps π I (panicked : Call α) E :=
  keeps_bind (h.passing (o := .panic) trivial) fun answer => nomatch (show Empty from answer)

lemma note (htype : Plain type) :
    Keeps π I (do let ev ← appendEvent type actor toolID pairRef payload; Kernel.emit ev) E :=
  fun _ _ hI => wp_seq (h.append htype hI) fun _ _ _ hJ => h.emit hJ

lemma noted (htype : Plain type) {f : Event Payload → Call α} (hf : ∀ ev, Keeps π I (f ev) E) :
    Keeps π I (do
      let ev ← appendEvent type actor toolID pairRef payload
      Kernel.emit ev
      f ev) E := by
  refine fun _ _ hI => wp_seq (h.append htype hI) fun ev _ _ hJ => wp_bind.2 ?_
  exact wp_mono (h.emit hJ) fun _ => hf ev

lemma say (m : Message) : Keeps π I (say m) E := fun _ _ hI => wp_modify.2 (h.same hI ⟨rfl, rfl⟩)

lemma appendBudgetDecision (res : Cost.Reservation) : Keeps π I (appendBudgetDecision res) E :=
  h.note (by decide)

lemma appendSynthetic (synth : List SyntheticResult) :
    Keeps π I (appendSynthetic synth) E := by
  induction synth with
  | nil => exact keeps_pure []
  | cons r rest ih =>
    refine fun _ _ hI => wp_seq (h.append (by decide) hI) fun ev _ _ hJ => ?_
    refine wp_bind.2 (wp_get.2 (wp_seq (h.emit hJ) fun _ => ?_))
    exact keeps_bind ih fun blocks => keeps_pure _

lemma repair : Keeps π I repair E := by
  intro s q hI
  refine wp_repair_iff.2 (keeps_bind (h.appendSynthetic _) (fun blocks => ?_) _ q ?_)
  · exact keeps_when (h.say _)
  · exact h.same hI ⟨rfl, rfl⟩

lemma pruneView (k : Kernel) : Keeps π I (pruneView k) E := by
  refine keeps_bind keeps_get fun st => ?_
  match Promptctx.prune k.pruneRef st.transcript k.prunePolicy with
  | none => exact h.panicked
  | some (view, prunedCount) =>
    exact keeps_bind (keeps_when (h.note (by decide))) fun _ => keeps_pure view

lemma condenseView (k : Kernel) (cfg : RunConfig)
    (hcondense : ∀ covered, Keeps π I (Kernel.condense cfg covered) E) (view : List Message) :
    Keeps π I (condenseView k cfg view) E := by
  unfold Kernel.condenseView
  match Promptctx.shouldCondense view k.condenseThresholdBytes with
  | none => exact keeps_pure view
  | some covered =>
    refine keeps_bind (hcondense _) fun r => ?_
    refine keeps_bind (h.appendBudgetDecision _) fun _ => ?_
    refine keeps_bind keeps_get fun st => h.noted (by decide) fun ev => ?_
    exact keeps_bind (fun _ _ hI => wp_modify.2 (h.same hI ⟨rfl, rfl⟩)) fun _ => keeps_pure _

lemma appendThoughts (k : Kernel) (reasoning : List (List UInt8)) :
    Keeps π I (appendThoughts k reasoning) E := by
  induction reasoning with
  | nil => exact keeps_pure []
  | cons raw rest ih => exact h.noted (by decide) fun _ => keeps_bind ih fun _ => keeps_pure _

lemma appendContent (text : String) : Keeps π I (appendContent text) E := by
  apply iteInduction (motive := fun c => Keeps π I c E)
  · exact fun _ => keeps_pure _
  · exact fun _ => h.noted (by decide) fun _ => keeps_pure _

lemma appendToolUses (toolUses : List ToolUseRequest) :
    Keeps π I (appendToolUses toolUses) E := by
  induction toolUses with
  | nil => exact keeps_pure []
  | cons tu rest ih => exact h.noted (by decide) fun _ => keeps_bind ih fun _ => keeps_pure _

lemma hear (input : String) : Keeps π I (hear input) E := by
  refine fun _ _ hI => wp_seq (h.append (by decide) hI) fun ev _ _ hJ => ?_
  exact wp_bind.2 (wp_modify.2 (h.emit (h.same_owed hJ ⟨rfl, rfl⟩)))

lemma pairResult (toolUseEventID : UUID) (toolID : String) (result : ToolResult) :
    Keeps π I (pairResult toolUseEventID toolID result) E := by
  refine fun _ _ hI => wp_seq (h.append (by decide) hI) fun ev _ _ hJ => ?_
  exact wp_bind.2 (wp_get.2 (wp_bind.2 (wp_modify.2 (h.emit (h.same_owed hJ ⟨rfl, rfl⟩)))))

end Invariant

lemma keeps_dispatch (cfg : RunConfig)
    (hcall : ∀ tu toolUse, Keeps π I (dispatchCall cfg tu toolUse) E)
    (calls : List (ToolUseRequest × Event Payload)) : Keeps π I (dispatch cfg calls) E := by
  induction calls with
  | nil => exact keeps_pure []
  | cons c rest ih =>
    exact keeps_bind (hcall c.1 c.2) fun block => keeps_bind ih fun blocks => keeps_pure _

lemma keeps_appendToolsLoaded (hnote : ∀ toolID, Keeps π I (do
      let ev ← appendEvent .toolLoaded .system (some toolID) none (.toolLoaded toolID)
      emit ev) E) (tools : List String) : Keeps π I (appendToolsLoaded tools) E := by
  induction tools with
  | nil => exact keeps_pure ()
  | cons toolID rest ih =>
    have hloaded := keeps_bind (hnote toolID) fun _ => ih
    rwa [bind_assoc] at hloaded

lemma keeps_markRunning (hrunning : Keeps π I (updateStatus .running none) E)
    (hfail : ∀ err, Keeps π I (fail none err : Call Unit) E) : Keeps π I markRunning E := by
  refine keeps_bind hrunning fun err => ?_
  match err with
  | some err => exact hfail err
  | none => exact keeps_pure ()

lemma keeps_resolveApproval
    (hpassing : ∀ {o : Op}, o.Passing → Keeps π I (request o : Call o.Answer) E)
    (hfail : ∀ err, Keeps π I (fail none err : Call ToolResult) E) (cfg : RunConfig)
    (res : PendingResolution) :
    Keeps π I (resolveApproval cfg res) E := by
  unfold resolveApproval
  cases res.decision with
  | granted | grantedModified =>
    refine keeps_bind keeps_get fun st => ?_
    refine keeps_bind (hpassing (o := .executeApproved ..) trivial) fun executed => ?_
    cases executed with
    | none => exact hfail _
    | some result => exact keeps_pure result
  | denied | invalidated => exact keeps_pure _

/-- The summary of a transcript, where all that it asks for keeps the invariant. -/
lemma keeps_condense (hbudget : ∀ {o : Op}, o.Budgeting → Keeps π I (request o : Call o.Answer) E)
    (hstream : ∀ covered, Keeps π I (stream (Promptctx.condensePrompt covered) []) E)
    (cfg : RunConfig) (covered : List Message) : Keeps π I (condense cfg covered) E := by
  refine keeps_bind keeps_get fun st => ?_
  refine keeps_bind (hbudget (o := .reserve _) trivial) fun r => ?_
  apply iteInduction (motive := fun c => Keeps π I c E)
  · exact fun _ => keeps_pure _
  intro _
  refine keeps_bind (hstream covered) fun answer => ?_
  match answer with
  | .error _ =>
    exact keeps_bind (hbudget (o := .reconcile ..) trivial) fun _ => keeps_pure _
  | .ok (chunks, streamErr) =>
    refine keeps_bind (hbudget (o := .reconcile ..) trivial) fun _ => ?_
    split_ifs <;> exact keeps_pure _

/-! ### Calls that do not return -/

/-- A call that ends the run does not return, so that anything may be said of what it returns. -/
lemma wp_terminate {t : Terminal} {R₀ : Empty → RunState → Q → Prop}
    (h : wp π (terminate t) R₀ E s q) :
    wp π (terminate t) R E s q := by
  refine wp_seq (wp_bind.1 h) fun ev s q h => ?_
  refine wp_seq (wp_bind.1 h) fun err s q h => ?_
  match err with
  | some err => exact wp_seq (wp_bind.1 h) fun _ _ _ h => h
  | none =>
    refine wp_seq (wp_bind.1 h) fun _ s q h => ?_
    exact wp_seq (wp_bind.1 h) fun _ _ _ h => h

lemma wp_suspendForUserInput {R₀ : Empty → RunState → Q → Prop}
    (h : wp π suspendForUserInput R₀ E s q) : wp π suspendForUserInput R E s q := by
  refine wp_seq (wp_bind.1 h) fun ev s q h => ?_
  refine wp_seq (wp_bind.1 h) fun err s q h => ?_
  match err with
  | some err => exact wp_seq (wp_bind.1 h) fun _ _ _ h => h
  | none => exact wp_seq (wp_bind.1 h) fun _ _ _ h => h

/-! ### Invariants of runs -/

/-- An invariant that the ending of a run keeps as well. -/
structure Ending (π : Protocol Q Op Op.Answer) (I : RunState → Q → Prop)
    (J : Event Payload → RunState → Q → Prop) (E : Q → Prop) : Prop extends
    Invariant π I J E where
  fail {α : Type} (err : String) : Keeps π I (fail none err : Call α) E
  running : Keeps π I (updateStatus .running none) E
  terminate {α : Type} (t : Terminal) : Keeps π I (Kernel.terminate t : Call α) E
  suspendForUserInput {α : Type} : Keeps π I (Kernel.suspendForUserInput : Call α) E

namespace Ending

variable (h : Ending π I J E)
include h

lemma markRunning : Keeps π I markRunning E := keeps_markRunning h.running h.fail

lemma resolveApproval (cfg : RunConfig) (res : PendingResolution) :
    Keeps π I (resolveApproval cfg res) E :=
  keeps_resolveApproval h.passing h.fail cfg res

lemma reserveTurn (hreserve : ∀ r, Keeps π I (reserve r) E) (cfg : RunConfig) :
    Keeps π I (reserveTurn cfg) E := by
  refine keeps_bind keeps_get fun st => ?_
  refine keeps_bind (hreserve _) fun r => ?_
  refine keeps_bind (h.appendBudgetDecision _) fun _ => ?_
  exact keeps_bind (keeps_when (h.terminate _)) fun _ => keeps_pure _

lemma assistantTurn (k : Kernel) (out : Output) : Keeps π I (assistantTurn k out) E := by
  refine keeps_bind (h.appendThoughts k _) fun thoughts => ?_
  refine keeps_bind (keeps_when (h.terminate _)) fun _ => ?_
  refine keeps_bind (keeps_when (h.terminate _)) fun _ => ?_
  refine keeps_bind (h.appendContent _) fun text => ?_
  refine keeps_bind (h.appendToolUses _) fun calls => ?_
  exact keeps_bind (keeps_when (h.say _)) fun _ => keeps_pure calls

lemma observe (tu : ToolUseRequest) : Keeps π I (observe tu) E := by
  refine keeps_bind keeps_get fun st => ?_
  refine keeps_bind (h.passing (o := .record ..) trivial) fun verdict => ?_
  match verdict with
  | none => exact keeps_pure ()
  | some verdict => exact h.noted (by decide) fun _ => keeps_when (h.terminate _)

/-- What a turn does with the answer of the model. -/
lemma answered (k : Kernel) (cfg : RunConfig)
    (hcall : ∀ tu toolUse, Keeps π I (dispatchCall cfg tu toolUse) E) (out : Output) :
    Keeps π I (do
      let calls ← Kernel.assistantTurn k out
      match classify out.toolUses out.text with
      | .toolCalls =>
        let blocks ← Kernel.dispatch cfg calls
        Kernel.when (!blocks.isEmpty) (Kernel.say { role := .tool, blocks })
      | .content | .empty =>
        if cfg.conversational then Kernel.suspendForUserInput
        else Kernel.terminate { reason := .completed }) E := by
  refine keeps_bind (h.assistantTurn k out) fun calls => ?_
  have hreply : Keeps π I (if cfg.conversational then Kernel.suspendForUserInput
      else Kernel.terminate { reason := .completed } : Call Unit) E := by
    split_ifs
    · exact h.suspendForUserInput
    · exact h.terminate _
  match classify out.toolUses out.text with
  | .toolCalls =>
    exact keeps_bind (keeps_dispatch cfg hcall calls) fun _ => keeps_when (h.say _)
  | .content | .empty => exact hreply

lemma turn (hbudget : ∀ {o : Op}, o.Budgeting → Keeps π I (request o : Call o.Answer) E)
    (hstream : ∀ p tools, Keeps π I (stream p tools) E)
    (hcall : ∀ cfg tu toolUse, Keeps π I (dispatchCall cfg tu toolUse) E) (k : Kernel)
    (cfg : RunConfig) : Keeps π I (turn k cfg) E := by
  have hsettle (res : Cost.Reservation) (usage : Usage) (reported : Bool) :
      Keeps π I (reconcile res usage reported) E :=
    hbudget (o := .reconcile ..) trivial
  have hstreamTurn (res : Cost.Reservation) (view : List Message) :
      Keeps π I (streamTurn cfg res view) E := by
    refine keeps_bind (hstream _ _) fun answer => ?_
    match answer with
    | .error e => exact keeps_bind (hsettle _ _ _) fun _ => h.terminate _
    | .ok (chunks, some e) => exact keeps_bind (hsettle _ _ _) fun _ => h.terminate _
    | .ok (chunks, none) => exact keeps_bind (hsettle _ _ _) fun _ => keeps_pure _
  have hcondense := keeps_condense hbudget (fun _ => hstream _ _) cfg
  refine keeps_bind h.repair fun _ => ?_
  refine keeps_bind (h.reserveTurn (fun _ => hbudget (o := .reserve _) trivial) cfg) fun res => ?_
  refine keeps_bind (h.pruneView k) fun view => ?_
  refine keeps_bind (h.condenseView k cfg hcondense view) fun view => ?_
  exact keeps_bind (hstreamTurn res view) fun out => h.answered k cfg (hcall cfg) out

/-! #### Kernel calls -/

lemma seed (cfg : RunConfig) : Keeps π I (seed cfg) E := by
  refine keeps_bind h.markRunning fun _ => ?_
  refine keeps_bind (keeps_appendToolsLoaded (fun _ => h.note (by decide)) _) fun _ => ?_
  exact keeps_bind (keeps_when (h.note (by decide))) fun _ => keeps_when (h.hear _)

/-- The loop does not return: it ends with the run. -/
lemma wp_runTurns (k : Kernel) (hturn : ∀ cfg, Keeps π I (Kernel.turn k cfg) E) (cfg : RunConfig)
    {R : Unit → RunState → Q → Prop} {s : RunState} {q : Q} (hI : I s q) :
    wp π (runTurns k cfg) R E s q := by
  suffices hloop : ∀ n s q, I s q → wp π (turnsFrom k cfg n) R E s q from hloop cfg.turns s q hI
  intro n
  induction n with
  | zero => exact fun s q hI => wp_terminate (h.terminate _ s q hI)
  | succ n ih => exact fun s q hI => (hturn cfg).wp_bind hI fun _ => ih

lemma wp_call (k : Kernel) (hturn : ∀ cfg, Keeps π I (Kernel.turn k cfg) E) (entry : Entry)
    {R : Unit → RunState → Q → Prop} {s : RunState} {q : Q} (hI : I s q) :
    wp π (entry.call k) R E s q := by
  have hturns (cfg : RunConfig) (s : RunState) (q : Q) (hI : I s q) :
      wp π (runTurns k cfg) R E s q :=
    h.wp_runTurns k hturn cfg hI
  match entry with
  | .run cfg => exact (h.seed cfg).wp_bind hI fun _ => hturns cfg
  | .resume cfg res =>
    refine h.markRunning.wp_bind hI fun _ _ _ hI => ?_
    refine (h.resolveApproval cfg res).wp_bind hI fun result _ _ hI => ?_
    refine (h.pairResult _ _ _).wp_bind hI fun _ _ _ hI => ?_
    refine (keeps_when (h.terminate _)).wp_bind hI fun _ _ _ hI => ?_
    exact (keeps_when (h.fail _)).wp_bind hI fun _ => hturns cfg
  | .resumeDelegation cfg res =>
    refine h.markRunning.wp_bind hI fun _ _ _ hI => ?_
    exact (h.pairResult _ _ _).wp_bind hI fun _ => hturns cfg
  | .continueRun cfg => exact h.markRunning.wp_bind hI fun _ => hturns cfg
  | .resumeConversation cfg input =>
    refine h.markRunning.wp_bind hI fun _ _ _ hI => ?_
    exact (h.hear input).wp_bind hI fun _ => hturns cfg

/-- Every kernel call on a session keeps to the protocol. -/
lemma follows (k : Kernel) (hturn : ∀ cfg, Keeps π I (Kernel.turn k cfg) E)
    {tenantID sid : UUID} {q : Q}
    (hI : ∀ s : RunState, s.tenantID = tenantID → s.sessionID = sid → I s q)
    (history : List (Event Payload)) (entry : Entry) :
    (entry.start k tenantID sid history).Follows π q fun _ => E := by
  have hcall (s : RunState) (hs : I s q) : ((entry.call k) s).run.Follows π q fun _ => E := by
    refine Process.Follows.mono (h.wp_call k hturn entry (R := fun _ _ _ => False) hs) ?_
    rintro (_ | _) q' hq'
    · exact hq'
    · exact hq'.elim
  match entry with
  | .run _ => exact hcall _ (hI _ rfl rfl)
  | .resume .. | .resumeDelegation .. | .continueRun .. | .resumeConversation .. =>
    exact hcall _ (hI _ rfl rfl)

end Ending

/-- An invariant that the suspension of a run keeps as well. -/
structure Pervasive (π : Protocol Q Op Op.Answer) (I : RunState → Q → Prop)
    (J : Event Payload → RunState → Q → Prop) (E : Q → Prop) : Prop extends Ending π I J E where
  suspendForApproval {α : Type} (toolUse : Event Payload) (input : String) (result : ToolResult) :
    Keeps π I (Kernel.suspendForApproval toolUse input result : Call α) E
  suspendForDelegation {α : Type} (toolUse : Event Payload) (childSessionID : Option UUID) :
    Keeps π I (Kernel.suspendForDelegation toolUse childSessionID : Call α) E

namespace Pervasive

variable (h : Pervasive π I J E)
include h

/-- What a tool call does once its result and its taint are recorded. -/
lemma afterResult (tu : ToolUseRequest) (toolUse : Event Payload) (result : ToolResult) :
    Keeps π I (do
      Kernel.when result.permissionDenied
        (Kernel.terminate (terminalPermissionDenied (toolUse.toolID.getD "unknown")))
      Kernel.when result.awaitingApproval (Kernel.suspendForApproval toolUse tu.input result)
      Kernel.when result.awaitingDelegation
        (Kernel.suspendForDelegation toolUse result.childSessionID)
      Kernel.observe tu
      Pure.pure (ContentBlock.toolResult tu.toolUseID (resultText result) result.isError)) E := by
  refine keeps_bind (keeps_when (h.terminate _)) fun _ => ?_
  refine keeps_bind (keeps_when (h.suspendForApproval toolUse tu.input result)) fun _ => ?_
  refine keeps_bind (keeps_when (h.suspendForDelegation toolUse result.childSessionID)) fun _ => ?_
  exact keeps_bind (h.observe tu) fun _ => keeps_pure _

/-- A tool call, where its execution and the record of a taint keep the invariant. -/
lemma dispatchCall (hexecute : ∀ req rc, Keeps π I (execute req rc) E)
    (htaint : ∀ engaged, Keeps π I (recordTaint engaged) E) (cfg : RunConfig) (tu : ToolUseRequest)
    (toolUse : Event Payload) : Keeps π I (dispatchCall cfg tu toolUse) E := by
  refine keeps_bind keeps_get fun st => ?_
  refine keeps_bind (hexecute _ _) fun result => h.noted (by decide) fun _ => ?_
  exact keeps_bind (keeps_when (htaint _)) fun _ => h.afterResult tu toolUse result

end Pervasive

/-! ### Protocols that notice little -/

/-- An invariant under which a protocol notices nothing but appends and status writes of some kinds,
model calls, tool calls and the records of what a session waits for. -/
structure Quietly (π : Protocol Q Op Op.Answer) (types : EventType → Prop)
    (statuses : SessionStatus → Prop) (I : RunState → Q → Prop) (E : Q → Prop) : Prop where
  quiet {s : RunState} {q : Q} (hI : I s q) : Quiet π q ∧ E q
  append {s : RunState} {q : Q} (hI : I s q) {d : Draft} (htype : types d.type)
    (hd : d.sessionID = s.sessionID) : π.admits q (.append d) ∧
    (∀ (e : AppendError) q',
      π.step q (.append d) (.error e : Except AppendError (UUID × ℕ)) q' → Quiet π q' ∧ E q') ∧
    ∀ (eventID : UUID) (seq : ℕ) q',
      π.step q (.append d) (.ok (eventID, seq) : Except AppendError (UUID × ℕ)) q' →
      I (s.appended (d.event eventID seq)) q'
  setStatus {s : RunState} {q : Q} (hI : I s q) {status : SessionStatus}
    (hstatus : statuses status) (reason : Option TerminalReason) :
    π.admits q (.setStatus s.sessionID status reason) ∧
      ∀ err q', π.step q (.setStatus s.sessionID status reason) err q' → I s q'

namespace Quietly

variable {types : EventType → Prop} {statuses : SessionStatus → Prop}
  (h : Quietly π types statuses I E)
include h

lemma unobserved (ho : o.Unobserved) : Keeps π I (request o : Call o.Answer) E :=
  fun _ _ hI => wp_unobserved (h.quiet hI).1 ho fun _ => hI

lemma appendEvent (htype : types type) :
    Keeps π I (appendEvent type actor toolID pairRef payload) E := by
  intro s q hI
  obtain ⟨hadm, herr, hok⟩ := h.append hI (d := s.draft type actor toolID pairRef payload) htype rfl
  exact wp_appendEvent hadm herr hok

lemma updateStatus {status : SessionStatus} (hstatus : statuses status)
    (reason : Option TerminalReason) : Keeps π I (updateStatus status reason) E :=
  fun _ _ hI => wp_bind.2 (wp_get.2 (wp_request.2 (h.setStatus hI hstatus reason)))

lemma emit (ev : Event Payload) : Keeps π I (emit ev) E :=
  fun _ _ hI => wp_emit (h.quiet hI).1 (h.quiet hI).2 hI

lemma fail (ev : Option (Event Payload)) (err : String) : Keeps π I (fail ev err : Call α) E :=
  fun _ _ hI => wp_fail (h.quiet hI).1 (h.quiet hI).2

lemma yield_stop (ev : Event Payload) :
    Keeps π I (do let _ ← yield (some ev) none; stop : Call α) E :=
  fun _ _ hI => wp_yield_stop (h.quiet hI).1 (h.quiet hI).2

lemma note (htype : types type) :
    Keeps π I
      (do let ev ← Kernel.appendEvent type actor toolID pairRef payload; Kernel.emit ev) E :=
  keeps_bind (h.appendEvent htype) h.emit

/-- A call goes on where a request has no failure to report. -/
lemma checked {c : Call (Option String)} {ev : Event Payload} {message : String → String}
    {rest : Call α} (hc : Keeps π I c E) (hrest : Keeps π I rest E) :
    Keeps π I (do
      match ← c with
      | some err => Kernel.fail (some ev) (message err)
      | none => rest) E := by
  refine keeps_bind hc fun err => ?_
  match err with
  | some err => exact h.fail _ _
  | none => exact hrest

lemma terminate (htype : types .terminal) (t : Terminal) (hstatus : statuses t.status) :
    Keeps π I (terminate t : Call α) E := by
  refine keeps_bind (h.appendEvent htype) fun ev => h.checked (h.updateStatus hstatus _) ?_
  exact keeps_bind (h.unobserved (o := .forget _) trivial) fun _ => h.yield_stop ev

lemma observe (htype : types .stuckSuspected) (hterminal : types .terminal)
    (hfailed : statuses .failed) (tu : ToolUseRequest) : Keeps π I (observe tu) E := by
  refine keeps_bind keeps_get fun st => ?_
  refine keeps_bind (h.unobserved (o := .record ..) trivial) fun verdict => ?_
  match verdict with
  | none => exact keeps_pure ()
  | some verdict =>
    refine keeps_bind (h.appendEvent htype) fun ev => ?_
    exact keeps_bind (h.emit ev) fun _ => keeps_when (h.terminate hterminal _ hfailed)

lemma suspendForUserInput (htype : types .awaitingInput) (hstatus : statuses .awaitingInput) :
    Keeps π I (suspendForUserInput : Call α) E :=
  keeps_bind (h.appendEvent htype) fun ev =>
    h.checked (h.updateStatus hstatus none) (h.yield_stop ev)

lemma suspendForApproval (htype : types .approvalRequested) (hstatus : statuses .suspended)
    (hrecord : ∀ r, Keeps π I (recordSuspension r) E) (toolUse : Event Payload) (input : String)
    (result : ToolResult) : Keeps π I (suspendForApproval toolUse input result : Call α) E := by
  refine keeps_bind (h.appendEvent htype) fun ev => h.checked (h.updateStatus hstatus none) ?_
  exact keeps_bind keeps_get fun st => h.checked (hrecord _) (h.yield_stop ev)

lemma suspendForDelegation (htype : types .delegationRequested) (hstatus : statuses .suspended)
    (hrecord : ∀ r, Keeps π I (recordDelegation r) E) (toolUse : Event Payload)
    (childSessionID : Option UUID) :
    Keeps π I (suspendForDelegation toolUse childSessionID : Call α) E := by
  refine keeps_bind (h.appendEvent htype) fun ev => h.checked (h.updateStatus hstatus none) ?_
  exact keeps_bind keeps_get fun st => h.checked (hrecord _) (h.yield_stop ev)

lemma invariant (htypes : ∀ type, Plain type → types type)
    (hsame : ∀ {s s' q}, I s q → s.Same s' → I s' q) : Invariant π I (fun _ => I) E where
  passing ho := h.unobserved ho.unobserved
  append htype := h.appendEvent (htypes _ htype) _ _
  emit := h.emit _ _ _
  same := hsame
  same_owed := hsame

end Quietly

/-! ### Parts that keep a relation -/

/-- Events that are no part of the conversation. -/
def Bookkeeping (type : EventType) : Prop :=
  type ∉ [.thought, .content, .toolUse, .toolResult, .userMessage]

instance (type : EventType) : Decidable (Bookkeeping type) :=
  inferInstanceAs (Decidable (_ ∉ _))

/-- Requests other than appends and model calls. -/
def Op.Steady : Op → Prop
  | .append _ | .stream .. => False
  | _ => True

/-- A protocol that notices nothing but appends and model calls, and a relation that appends of
bookkeeping keep. -/
structure Frame (π : Protocol Q Op Op.Answer) (F : RunState → Q → RunState → Q → Prop) : Prop where
  steady : ∀ q (o : Op), o.Steady → π.admits q o ∧ ∀ a q', π.step q o a q' → q' = q
  refl : ∀ s q, F s q s q
  trans : ∀ {s q s' q' s'' q''}, F s q s' q' → F s' q' s'' q'' → F s q s'' q''
  append : ∀ s q (d : Draft), Bookkeeping d.type → π.admits q (.append d) ∧
    ∀ (eventID : UUID) (seq : ℕ) q',
      π.step q (.append d) (.ok (eventID, seq) : Except AppendError (UUID × ℕ)) q' →
      F s q (s.appended (d.event eventID seq)) q'

/-- A part of a call whose states before and after it are related by `F`. -/
def Framed (π : Protocol Q Op Op.Answer) (F : RunState → Q → RunState → Q → Prop) (c : Call α) :
    Prop :=
  ∀ s q, wp π c (fun _ s' q' => F s q s' q') (fun _ => True) s q

namespace Frame

variable {F : RunState → Q → RunState → Q → Prop} (h : Frame π F)
include h

lemma framed {c : Call α} (hc : ∀ s q, Keeps π (F s q) c) : Framed π F c :=
  fun s q => hc s q s q (h.refl s q)

lemma request (ho : o.Steady) (s : RunState) (q : Q) :
    Keeps π (F s q) (Routine.request o : Call o.Answer) := by
  refine keeps_request fun s' q' hF => ⟨(h.steady q' o ho).1, fun a q'' hst => ?_⟩
  obtain rfl := (h.steady q' o ho).2 a q'' hst
  exact hF

lemma quiet (q : Q) : Quiet π q := by
  intro o ho
  refine h.steady q o ?_
  cases o <;> first | exact ho.elim | trivial

lemma quietly (s : RunState) (q : Q) :
    Quietly π Bookkeeping (fun _ => True) (F s q) fun _ => True where
  quiet _ := ⟨h.quiet _, trivial⟩
  append hF _ htype _ := by
    obtain ⟨hadm, hok⟩ := h.append _ _ _ htype
    refine ⟨hadm, fun _ q' _ => ⟨h.quiet q', trivial⟩, fun eventID seq q' hst => ?_⟩
    exact h.trans hF (hok eventID seq q' hst)
  setStatus hF _ _ _ := by
    refine ⟨(h.steady _ (.setStatus ..) trivial).1, fun err q' hst => ?_⟩
    obtain rfl := (h.steady _ (.setStatus ..) trivial).2 err q' hst
    exact hF

lemma emit (ev : Event Payload) : Framed π F (emit ev) :=
  h.framed fun s q => (h.quietly s q).emit ev

lemma terminate (t : Terminal) : Framed π F (terminate t : Call α) :=
  h.framed fun s q => (h.quietly s q).terminate (by decide) t trivial

lemma note {type : EventType} {actor : Actor} {toolID : Option String} {pairRef : Option UUID}
    {payload : Payload} (htype : Bookkeeping type) :
    Framed π F (do let ev ← appendEvent type actor toolID pairRef payload; Kernel.emit ev) :=
  h.framed fun s q => (h.quietly s q).note htype

lemma reserveTurn (cfg : RunConfig) : Framed π F (reserveTurn cfg) := by
  refine h.framed fun s q => ?_
  have hquietly := h.quietly s q
  refine keeps_bind keeps_get fun st => ?_
  refine keeps_bind (h.request (o := .reserve _) trivial s q) fun r => ?_
  refine keeps_bind (hquietly.note (by decide)) fun _ => ?_
  exact keeps_bind (keeps_when (hquietly.terminate (by decide) _ trivial)) fun _ => keeps_pure _

lemma fail (err : String) : Framed π F (fail none err : Call α) :=
  h.framed fun s q => (h.quietly s q).fail none err

lemma markRunning : Framed π F markRunning :=
  h.framed fun s q => keeps_markRunning ((h.quietly s q).updateStatus trivial none)
    ((h.quietly s q).fail none)

lemma appendToolsLoaded (tools : List String) : Framed π F (appendToolsLoaded tools) :=
  h.framed fun s q => keeps_appendToolsLoaded (fun _ => (h.quietly s q).note (by decide)) tools

lemma resolveApproval (cfg : RunConfig) (res : PendingResolution) :
    Framed π F (resolveApproval cfg res) :=
  h.framed fun s q => keeps_resolveApproval (fun ho => (h.quietly s q).unobserved ho.unobserved)
    ((h.quietly s q).fail none) cfg res

lemma hushed (b : Bool) (hc : Framed π F c) : Framed π F (when b c) := by
  cases b with
  | true => exact hc
  | false => exact h.refl

/-- What the plain reply of a model leads to does not return. -/
lemma wp_reply (cfg : RunConfig) :
    wp π (if cfg.conversational then suspendForUserInput
      else Kernel.terminate { reason := .completed }) R (fun _ => True) s q := by
  split
  · exact wp_suspendForUserInput
      ((h.quietly s q).suspendForUserInput (by decide) trivial s q (h.refl s q))
  · exact wp_terminate (h.terminate _ s q)

/-- The model call: what is left to say is what its answer gives. -/
lemma wp_streamTurn {cfg : RunConfig} {res : Cost.Reservation} {view : List Message}
    {R : Output → RunState → Q → Prop}
    (hadm : π.admits q (.stream (Promptctx.build cfg.system view) cfg.catalog))
    (hR : ∀ chunks q', π.step q (.stream (Promptctx.build cfg.system view) cfg.catalog)
        (.ok (chunks, none) : Except StreamError (List Chunk × Option StreamError)) q' →
      R (Output.ofChunks chunks) s q') :
    wp π (streamTurn cfg res view) R (fun _ => True) s q := by
  refine wp_ask hadm fun answer q' hst => ?_
  have hsettle {α : Type} {usage : Usage} {reported : Bool} {c : Call α}
      {R : α → RunState → Q → Prop} (hc : wp π c R (fun _ => True) s q') :
      wp π (do let _ ← reconcile res usage reported; c) R (fun _ => True) s q' := by
    refine wp_ask (h.steady q' (.reconcile ..) trivial).1 fun err q'' hst => ?_
    obtain rfl := (h.steady q' (.reconcile ..) trivial).2 err q'' hst
    exact hc
  match answer with
  | .error e => exact hsettle (wp_terminate (h.terminate _ s q'))
  | .ok (chunks, some e) => exact hsettle (wp_terminate (h.terminate _ s q'))
  | .ok (chunks, none) => exact hsettle (hR chunks q' hst)

/-- One tool call: after its result, nothing that matters happens. -/
lemma wp_dispatchCall {cfg : RunConfig} {tu : ToolUseRequest} {toolUse : Event Payload}
    {R : ContentBlock → RunState → Q → Prop}
    (hresult : ∀ result, wp π (appendToolResult toolUse.eventID toolUse.toolID result)
      (fun _ s₁ q₁ => ∀ s' q', F s₁ q₁ s' q' →
        R (.toolResult tu.toolUseID (resultText result) result.isError) s' q')
      (fun _ => True) s q) :
    wp π (dispatchCall cfg tu toolUse) R (fun _ => True) s q := by
  refine wp_bind.2 (wp_get.2 (wp_ask (h.steady q (.execute ..) trivial).1 ?_))
  intro result q' hst
  obtain rfl := (h.steady q (.execute ..) trivial).2 result q' hst
  refine wp_seq (hresult result) fun ev s₁ q₁ hR => ?_
  have hquietly := h.quietly s₁ q₁
  have hrest : Keeps π (F s₁ q₁) (do
      Kernel.emit ev
      when result.taintChanged (recordTaint result.taintEngaged)
      when result.permissionDenied
        (Kernel.terminate (terminalPermissionDenied (toolUse.toolID.getD "unknown")))
      when result.awaitingApproval (suspendForApproval toolUse tu.input result)
      when result.awaitingDelegation (suspendForDelegation toolUse result.childSessionID)
      observe tu) := by
    refine keeps_bind (hquietly.emit ev) fun _ => ?_
    refine keeps_bind (keeps_when (hquietly.note (by decide))) fun _ => ?_
    refine keeps_bind (keeps_when (hquietly.terminate (by decide) _ trivial)) fun _ => ?_
    refine keeps_bind (keeps_when (hquietly.suspendForApproval (by decide) trivial
      (fun _ => h.request (o := .recordSuspension _) trivial s₁ q₁) _ _ _)) fun _ => ?_
    refine keeps_bind (keeps_when (hquietly.suspendForDelegation (by decide) trivial
      (fun _ => h.request (o := .recordDelegation _) trivial s₁ q₁) _ _)) fun _ => ?_
    exact hquietly.observe (by decide) (by decide) trivial tu
  have hreturned := wp_seq (hrest s₁ q₁ (h.refl s₁ q₁)) fun _ s' q' hF =>
    wp_pure.2 (hR s' q' hF)
  simpa only [bind_assoc] using hreturned

end Frame

end NexusAgent.Kernel
