import NexusAgent.Kernel.Visibility

/-!
# Runs that complete

A run can end in many ways: its budget is exhausted, the model call fails, is refused or cut off, a
tool call is denied, the stuck detector steps in, the turns are used up. `Progress.Favours` says of
each answer of the surroundings that it leads to none of these. `completing` is what a run does
then: it ends in no other way than completed, after content of its own, and it never waits for the
user.
-/

namespace NexusAgent.Kernel

open EventLog Provider Routine

structure Progress where
  /-- How many turns the run may still take. -/
  turns : ℕ
  /-- Whether the run has appended content. -/
  content : Bool := false

/-- An answer of the model that a run can go on with: it is neither cut off nor refused, it calls
tools and there is a turn for what follows, or the run has content to complete with. -/
structure Progress.Useful (g : Progress) (out : Output) : Prop where
  whole : out.done ≠ some .maxOutput
  given : out.done ≠ some .refusal
  reply : out.toolUses = [] → out.text ≠ "" ∨ g.content = true
  calls : out.toolUses ≠ [] → 1 < g.turns

instance (g : Progress) (out : Output) : Decidable (g.Useful out) :=
  decidable_of_iff (out.done ≠ some .maxOutput ∧ out.done ≠ some .refusal ∧
      (out.toolUses = [] → out.text ≠ "" ∨ g.content = true) ∧
      (out.toolUses ≠ [] → 1 < g.turns))
    ⟨fun h => ⟨h.1, h.2.1, h.2.2.1, h.2.2.2⟩, fun h => ⟨h.whole, h.given, h.reply, h.calls⟩⟩

/-- Answers that do not make a run fail. -/
def Progress.Favours (g : Progress) : (o : Op) → o.Answer → Prop
  | .reserve r, answer => r.purpose = .turn → answer.2 = none
  | .stream .., answer =>
    match answer with
    | .ok (chunks, none) => g.Useful (Output.ofChunks chunks)
    | _ => False
  | .execute .., result => result.permissionDenied = false
  | .record .., verdict =>
    match verdict with
    | none => True
    | some verdict => verdict.terminate = false
  | _, _ => True

instance (g : Progress) : (o : Op) → (a : o.Answer) → Decidable (g.Favours o a)
  | .reserve r, (answer : Cost.Reservation × Option String) =>
    inferInstanceAs (Decidable (r.purpose = .turn → answer.2 = none))
  | .stream .., answer =>
    match answer with
    | .ok (chunks, none) => inferInstanceAs (Decidable (g.Useful (Output.ofChunks chunks)))
    | .ok (_, some _) => .isFalse id
    | .error _ => .isFalse id
  | .execute .., (result : ToolResult) =>
    inferInstanceAs (Decidable (result.permissionDenied = false))
  | .record .., verdict =>
    match verdict with
    | none => .isTrue trivial
    | some verdict => inferInstanceAs (Decidable (verdict.terminate = false))
  | .append _, _ | .setStatus .., _ | .recordSuspension _, _ | .recordDelegation _, _
  | .yield .., _ | .reconcile .., _ | .executeApproved .., _ | .forget _, _ | .panic, _ =>
    .isTrue trivial

def Progress.after (g : Progress) : (o : Op) → o.Answer → Progress
  | .stream .., answer =>
    match answer with
    | .ok (chunks, _) =>
      if (Output.ofChunks chunks).toolUses = [] then g else { g with turns := g.turns - 1 }
    | .error _ => g
  | .append d, answer =>
    match answer with
    | .ok _ => if d.type = .content then { g with content := true } else g
    | .error _ => g
  | _, _ => g

/-- What a run that is answered favourably may append. -/
structure Progress.Permits (g : Progress) (d : Draft) : Prop where
  completed : d.type = .terminal →
    (∃ detail, d.payload = .terminal .completed detail) ∧ g.content = true
  unattended : d.type ≠ .awaitingInput

/-- Runs that end completed, if at all. -/
def completing : Protocol Progress Op Op.Answer where
  admits g
    | .append d => g.Permits d
    | _ => True
  step g o a g' := g.Favours o a ∧ g' = g.after o a

/-- At most `n` turns are left, and at least one. With `c` there is content. -/
structure Amid (n : ℕ) (c : Bool) (g : Progress) : Prop where
  pos : 1 ≤ g.turns
  le : g.turns ≤ n
  content : c = true → g.content = true

variable {α : Type} {n : ℕ} {c : Bool} {s : RunState} {g : Progress}

/-! ### Rules -/

lemma quiet_completing : Quiet completing g := by
  intro o ho
  cases o with
  | append _ | setStatus _ _ _ | stream _ _ | execute _ _ => exact ho.elim
  | _ => exact ⟨trivial, fun _ _ hst => hst.2⟩

/-- An event that is neither the end of the run nor the wait for the user is appended. -/
lemma wp_appended {type : EventType} {actor : Actor} {toolID : Option String}
    {pairRef : Option UUID} {payload : Payload} {R : Event Payload → RunState → Progress → Prop}
    (hterminal : type ≠ .terminal) (hinput : type ≠ .awaitingInput)
    (hR : ∀ ev s', R ev s' (if type = .content then { g with content := true } else g)) :
    wp completing (appendEvent type actor toolID pairRef payload) R (fun _ => True) s g := by
  apply wp_appendEvent
  · exact ⟨fun h => absurd h hterminal, hinput⟩
  · rintro e g' ⟨-, rfl⟩
    exact ⟨quiet_completing, trivial⟩
  · rintro eventID seq g' ⟨-, rfl⟩
    exact hR _ _

/-- What a part of a run keeps that is answered favourably. -/
abbrev Carries (n : ℕ) (c : Bool) (call : Call α) : Prop :=
  Keeps completing (fun _ => Amid n c) call

lemma carries_quietly (n : ℕ) (c : Bool) :
    Quietly completing (fun type => type ≠ .terminal ∧ type ≠ .awaitingInput) (fun _ => True)
      (fun _ => Amid n c) fun _ => True where
  quiet _ := ⟨quiet_completing, trivial⟩
  append h d htype _ := by
    refine ⟨⟨fun ht => absurd ht htype.1, htype.2⟩, ?_, ?_⟩
    · rintro e _ ⟨-, rfl⟩
      exact ⟨quiet_completing, trivial⟩
    · rintro eventID seq _ ⟨-, rfl⟩
      show Amid n c (if d.type = .content then _ else _)
      split_ifs
      · exact ⟨h.pos, h.le, fun _ => rfl⟩
      · exact h
  setStatus h _ _ _ := ⟨trivial, fun _ _ hst => hst.2 ▸ h⟩

lemma carries (n : ℕ) (c : Bool) :
    Invariant completing (fun _ => Amid n c) (fun _ _ => Amid n c) fun _ => True :=
  (carries_quietly n c).invariant (fun _ h => by simp_all [Plain]) fun h _ => h

lemma carries_other {o : Op} (hadm : ∀ g, completing.admits g o)
    (hafter : ∀ (g : Progress) a, g.after o a = g) : Carries n c (request o : Call o.Answer) := by
  refine keeps_request fun _ g h => ⟨hadm g, ?_⟩
  rintro a _ ⟨-, rfl⟩
  rwa [hafter]

/-! ### The parts of a turn -/

/-- A model call that is answered favourably uses up a turn if the model calls tools. -/
lemma wp_stream {p : Prompt} {tools : List ToolSchema}
    {R : Except StreamError (List Chunk × Option StreamError) → RunState → Progress → Prop}
    (hR : ∀ chunks, g.Useful (Output.ofChunks chunks) →
      R (.ok (chunks, none)) s (if (Output.ofChunks chunks).toolUses = [] then g
        else { g with turns := g.turns - 1 })) :
    wp completing (stream p tools) R (fun _ => True) s g := by
  refine wp_request.2 ⟨trivial, ?_⟩
  rintro answer g' ⟨hfavours, rfl⟩
  match answer, hfavours with
  | .ok (chunks, none), huseful => exact hR chunks huseful

lemma Amid.called (h : Amid (n + 1) c g) {out : Output} (hout : g.Useful out)
    (hcalls : out.toolUses ≠ []) : Amid n c { g with turns := g.turns - 1 } := by
  have hpos := hout.calls hcalls
  have hle := h.le
  exact ⟨by dsimp only; omega, by dsimp only; omega, h.content⟩

lemma carries_stream (p : Prompt) (tools : List ToolSchema) : Carries n c (stream p tools) := by
  intro s g h
  refine wp_stream fun chunks hout => ?_
  split_ifs with hcalls
  · exact h
  · cases n with
    | zero => exact absurd (h.pos.trans h.le) (by decide)
    | succ n =>
      have hamid := h.called hout hcalls
      exact ⟨hamid.pos, hamid.le.trans n.le_succ, hamid.content⟩

lemma carries_reserveTurn (cfg : RunConfig) : Carries n c (reserveTurn cfg) := by
  intro s g h
  refine wp_bind.2 (wp_get.2 (wp_ask trivial ?_))
  rintro ⟨res, refused⟩ g' ⟨hpassed, hg'⟩
  obtain rfl : refused = none := hpassed rfl
  obtain rfl : g' = g := hg'
  exact keeps_bind ((carries n c).appendBudgetDecision res) (fun _ => keeps_pure res) s g' h

/-- The model answers, with tool calls or with a reply to complete the run with. -/
lemma Amid.wp_streamTurn (h : Amid (n + 1) c g) (cfg : RunConfig) (res : Cost.Reservation)
    (view : List Message) :
    wp completing (streamTurn cfg res view)
      (fun out _ g' => out.done ≠ some .maxOutput ∧ out.done ≠ some .refusal ∧
        (out.toolUses ≠ [] → Amid n c g') ∧
        (out.toolUses = [] → Amid (n + 1) c g' ∧ (out.text ≠ "" ∨ g'.content = true)))
      (fun _ => True) s g := by
  refine wp_bind.2 (wp_stream fun chunks hout => ?_)
  refine wp_ask trivial ?_
  rintro err _ ⟨-, rfl⟩
  refine ⟨hout.whole, hout.given, fun hcalls => ?_, fun hreply => ?_⟩
  · rw [if_neg hcalls]
    exact h.called hout hcalls
  · rw [if_pos hreply]
    exact ⟨h, hout.reply hreply⟩

lemma Amid.wp_appendContent (h : Amid n c g) {text : String} (htext : text ≠ "") :
    wp completing (appendContent text) (fun _ _ => Amid n true) (fun _ => True) s g := by
  unfold appendContent
  rw [if_neg htext]
  refine wp_bind.2 (wp_appended (by decide) (by decide) fun ev s' => ?_)
  have hamid : Amid n true { g with content := true } := ⟨h.pos, h.le, fun _ => rfl⟩
  exact keeps_bind ((carries_quietly n true).emit ev) (fun _ => keeps_pure _) s' _ hamid

lemma Amid.wp_assistantTurn (h : Amid n c g) (k : Kernel) {out : Output} {c' : Bool}
    (hwhole : out.done ≠ some .maxOutput) (hgiven : out.done ≠ some .refusal)
    (hcontent : ∀ s g, Amid n c g →
      wp completing (appendContent out.text) (fun _ _ => Amid n c') (fun _ => True) s g) :
    wp completing (assistantTurn k out) (fun _ _ => Amid n c') (fun _ => True) s g := by
  refine wp_seq ((carries n c).appendThoughts k _ s g h) fun thoughts s g h => ?_
  refine wp_bind.2 (wp_when (fun htrue => absurd (of_decide_eq_true htrue) hwhole) fun _ => ?_)
  refine wp_bind.2 (wp_when (fun htrue => absurd (of_decide_eq_true htrue) hgiven) fun _ => ?_)
  refine wp_seq (hcontent s g h) fun text s g h => ?_
  refine wp_seq ((carries n c').appendToolUses _ s g h) fun calls s g h => ?_
  exact wp_bind.2 (wp_when (fun _ => wp_modify.2 h) fun _ => h)

/-- The stuck detector does not end the run. -/
lemma carries_observe (tu : ToolUseRequest) : Carries n c (observe tu) := by
  intro s g h
  refine wp_bind.2 (wp_get.2 (wp_ask trivial ?_))
  rintro verdict g' ⟨hspared, hg'⟩
  obtain rfl : g' = g := hg'
  match verdict, hspared with
  | none, _ => exact h
  | some verdict, hspared =>
    refine (carries n c).noted (by decide) (fun ev => ?_) s g' h
    rw [show verdict.terminate = false from hspared]
    exact keeps_pure ()

lemma carries_dispatchCall (cfg : RunConfig) (tu : ToolUseRequest) (toolUse : Event Payload) :
    Carries n c (dispatchCall cfg tu toolUse) := by
  have hquietly := carries_quietly n c
  intro s g h
  refine wp_bind.2 (wp_get.2 (wp_ask trivial ?_))
  rintro result g' ⟨hallowed, hg'⟩
  obtain rfl : g' = g := hg'
  have hdenied : Carries n c (when result.permissionDenied
      (terminate (terminalPermissionDenied (toolUse.toolID.getD "unknown")))) := by
    have hfalse : result.permissionDenied = false := hallowed
    rw [hfalse]
    exact keeps_pure ()
  -- what follows the call neither ends the run nor waits for the user
  refine (carries n c).noted (by decide) (fun ev => ?_) s g' h
  refine keeps_bind (keeps_when (hquietly.note (by decide))) fun _ => ?_
  refine keeps_bind hdenied fun _ => ?_
  refine keeps_bind (keeps_when (hquietly.suspendForApproval (by decide) trivial
    (fun r => carries_other (o := .recordSuspension r) (fun _ => trivial) fun _ _ => rfl) _ _ _))
    fun _ => ?_
  refine keeps_bind (keeps_when (hquietly.suspendForDelegation (by decide) trivial
    (fun r => carries_other (o := .recordDelegation r) (fun _ => trivial) fun _ _ => rfl) _ _))
    fun _ => ?_
  exact keeps_bind (carries_observe tu) fun _ => keeps_pure _

/-! ### Turns -/

lemma Amid.wp_terminate (h : Amid n true g) {R : α → RunState → Progress → Prop} :
    wp completing (terminate { reason := .completed }) R (fun _ => True) s g := by
  refine wp_bind.2 ?_
  apply wp_appendEvent
  · exact ⟨fun _ => ⟨⟨_, rfl⟩, h.content rfl⟩, show EventType.terminal ≠ .awaitingInput by decide⟩
  · rintro e g' ⟨-, rfl⟩
    exact ⟨quiet_completing, trivial⟩
  rintro eventID seq g' ⟨-, rfl⟩
  refine wp_bind.2 (wp_bind.2 (wp_get.2 (wp_request.2 ⟨trivial, ?_⟩)))
  rintro err g' ⟨-, rfl⟩
  match err with
  | some err => exact wp_fail quiet_completing trivial
  | none =>
    refine wp_bind.2 (wp_unobserved (o := .forget _) quiet_completing trivial fun _ => ?_)
    exact wp_yield_stop quiet_completing trivial

/-- A turn returns when the model has called tools, and a turn less is left then. -/
lemma Amid.wp_turn (h : Amid (n + 1) c g) (k : Kernel) {cfg : RunConfig}
    (hcfg : cfg.conversational = false) :
    wp completing (turn k cfg) (fun _ _ => Amid n c) (fun _ => True) s g := by
  have hparts := carries (n + 1) c
  refine wp_seq (hparts.repair s g h) fun _ s g h => ?_
  refine wp_seq (carries_reserveTurn cfg s g h) fun res s g h => ?_
  refine wp_seq (hparts.pruneView k s g h) fun view s g h => ?_
  have hbudget {o : Op} (ho : o.Budgeting) : Carries (n + 1) c (request o : Call o.Answer) := by
    cases o <;> first | exact ho.elim | exact carries_other (fun _ => trivial) fun _ _ => rfl
  have hcondense := hparts.condenseView k cfg (keeps_condense hbudget
    (fun _ => carries_stream _ _) cfg) view
  refine wp_seq (hcondense s g h) fun view s g h => ?_
  refine wp_seq (h.wp_streamTurn cfg res view) ?_
  rintro out s g ⟨hwhole, hgiven, hcalls, hreply⟩
  by_cases htools : out.toolUses = []
  · obtain ⟨h, hcontent⟩ := hreply htools
    have hassistant : wp completing (assistantTurn k out) (fun _ _ => Amid (n + 1) true)
        (fun _ => True) s g := by
      obtain htext | hg := hcontent
      · exact h.wp_assistantTurn k hwhole hgiven fun s g h => h.wp_appendContent htext
      · have hamid : Amid (n + 1) true g := ⟨h.pos, h.le, fun _ => hg⟩
        exact hamid.wp_assistantTurn k hwhole hgiven ((carries _ true).appendContent out.text)
    refine wp_seq hassistant fun calls s g h => ?_
    have hcompleted : wp completing (if cfg.conversational then suspendForUserInput
        else terminate { reason := .completed } : Call Unit) (fun _ _ => Amid n c)
        (fun _ => True) s g := by
      rw [hcfg]
      exact h.wp_terminate
    cases hclass : classify out.toolUses out.text with
    | toolCalls => exact absurd hclass (by simp [classify, htools]; split_ifs <;> decide)
    | content | empty => exact hcompleted
  · have h := hcalls htools
    have hclass : classify out.toolUses out.text = .toolCalls := by simp [classify, htools]
    have hassistant := h.wp_assistantTurn (s := s) k hwhole hgiven
      ((carries n c).appendContent out.text)
    refine wp_seq hassistant fun calls s g h => ?_
    rw [hclass]
    have hdispatch := keeps_dispatch cfg (carries_dispatchCall cfg) calls s g h
    refine wp_seq hdispatch fun blocks s g h => ?_
    exact wp_when (fun _ => wp_modify.2 h) fun _ => h

/-- The loop: by induction on the turns that are left. A turn that returns leaves at least one, so
the run does not exceed them. -/
lemma Amid.wp_turnsFrom (h : Amid n c g) (k : Kernel) {cfg : RunConfig}
    (hcfg : cfg.conversational = false) :
    wp completing (turnsFrom k cfg n) (fun _ _ _ => True) (fun _ => True) s g := by
  induction n generalizing s g with
  | zero => exact absurd (h.pos.trans h.le) (by decide)
  | succ n ih => exact wp_seq (h.wp_turn k hcfg) fun _ s g h => ih h

lemma RunConfig.turns_pos (cfg : RunConfig) : 1 ≤ cfg.turns := by
  unfold RunConfig.turns
  split_ifs with h
  · decide
  · omega

/-- A run that `Continue` enters and that is not a conversation ends completed, after content of
its own, if it ends at all while it is answered favourably. -/
theorem continueRun_follows_completing (k : Kernel) {cfg : RunConfig}
    (hcfg : cfg.conversational = false) (tenantID sessionID : UUID)
    (history : List (Event Payload)) :
    (Entry.start k tenantID sessionID history (.continueRun cfg)).Follows completing
      { turns := cfg.turns } fun _ _ => True := by
  have hcall (s : RunState) : wp completing (continueRun k cfg) (fun _ _ _ => True)
      (fun _ => True) s { turns := cfg.turns } := by
    have hstart : Amid cfg.turns false { turns := cfg.turns } :=
      ⟨cfg.turns_pos, le_rfl, fun hc => nomatch hc⟩
    have hquietly := carries_quietly cfg.turns false
    have hrunning := keeps_markRunning (hquietly.updateStatus trivial none) (hquietly.fail none)
    exact hrunning.wp_bind hstart fun _ s g h => h.wp_turnsFrom k hcfg
  exact Process.Follows.mono (hcall _) fun r g h => trivial

/-! ### How such a run comes out -/

/-- A call under way that has been answered favourably and was not stopped. -/
structure Favoured (live : Live) (r : Record) (g : Progress) : Prop where
  delivering : live.Follows delivery r fun _ r => Finished r
  completing : live.Follows completing g fun _ _ => True
  unstopped : r.stopped = false
  content : g.content = true → ∃ e ∈ r.appended, e.type = .content
  completed : ∀ ev ∈ r.appended, ev.type = .terminal →
    (∃ detail, ev.payload = .terminal .completed detail) ∧ ∃ e ∈ r.appended, e.type = .content
  unattended : ∀ ev ∈ r.appended, ev.type ≠ .awaitingInput

/-- Answers to other requests than appends leave the events and the content of a run as they
are. -/
lemma after_of_not_append (r : Record) (g : Progress) {o : Op} (ho : ∀ d, o ≠ .append d)
    (a : o.Answer) :
    (r.after o a).appended = r.appended ∧ (g.after o a).content = g.content := by
  cases o with
  | append d => exact absurd rfl (ho d)
  | setStatus _ _ _ =>
    match a with
    | none => exact ⟨rfl, rfl⟩
    | some _ => exact ⟨rfl, rfl⟩
  | stream _ _ =>
    refine ⟨rfl, ?_⟩
    match a with
    | .error _ => rfl
    | .ok (chunks, _) =>
      show (if (Output.ofChunks chunks).toolUses = [] then g
        else { g with turns := g.turns - 1 }).content = g.content
      split_ifs <;> rfl
  | _ => exact ⟨rfl, rfl⟩

namespace Favoured

variable {o : Op} {k : o.Answer → Live} {r : Record}

lemma start (k : Kernel) {cfg : RunConfig} (hcfg : cfg.conversational = false)
    (tenantID sessionID : UUID) (history : List (Event Payload)) :
    Favoured (Entry.start k tenantID sessionID history (.continueRun cfg)) {}
      { turns := cfg.turns } where
  delivering := Entry.follows_delivery k tenantID sessionID history _
  completing := continueRun_follows_completing k hcfg tenantID sessionID history
  unstopped := rfl
  content h := nomatch h
  completed _ h := nomatch h
  unattended _ h := nomatch h

lemma appended {d : Draft} {k : (Op.append d).Answer → Live}
    (h : Favoured (.ask (.append d) k) r g) (eventID : UUID) (seq : ℕ) :
    let a : Except AppendError (UUID × ℕ) := .ok (eventID, seq)
    Favoured (k a) (r.after (.append d) a) (g.after (.append d) a) := by
  have hpermits : g.Permits d := h.completing.1
  have hnew (P : Event Payload → Prop) (hold : ∃ e ∈ r.appended, P e) :
      ∃ e ∈ r.appended ++ [d.event eventID seq], P e := by
    obtain ⟨e, he, hP⟩ := hold
    exact ⟨e, List.mem_append_left _ he, hP⟩
  refine { delivering := h.delivering.2 _ _ rfl, completing := h.completing.2 _ _ ⟨trivial, rfl⟩
           unstopped := h.unstopped, content := ?_, completed := ?_, unattended := ?_ }
  · intro hcontent
    change (if d.type = .content then { g with content := true } else g).content = true at hcontent
    split_ifs at hcontent with htype
    · exact ⟨_, List.mem_append_right _ (List.mem_singleton_self _), htype⟩
    · exact hnew _ (h.content hcontent)
  · refine List.forall_mem_snoc (fun ev hev htype => ?_) fun htype => ?_
    · exact (h.completed ev hev htype).imp_right (hnew _)
    · exact (hpermits.completed htype).imp_right fun hcontent => hnew _ (h.content hcontent)
  · exact List.forall_mem_snoc h.unattended hpermits.unattended

lemma answered (h : Favoured (.ask o k) r g) {a : o.Answer} (hfavours : g.Favours o a)
    (hgo : (r.after o a).stopped = false) : Favoured (k a) (r.after o a) (g.after o a) := by
  by_cases ho : ∃ d, o = .append d
  · obtain ⟨d, rfl⟩ := ho
    match a with
    | .ok (eventID, seq) => exact h.appended eventID seq
    | .error e =>
      exact { h with
        delivering := h.delivering.2 _ _ (.inl rfl)
        completing := h.completing.2 _ _ ⟨trivial, rfl⟩ }
  · obtain ⟨happended, hcontent⟩ := after_of_not_append r g (fun d hd => ho ⟨d, hd⟩) a
    exact {
      delivering := h.delivering.2 a _ (delivery_after r o a)
      completing := h.completing.2 a _ ⟨hfavours, rfl⟩
      unstopped := hgo
      content := by
        rw [happended, hcontent]
        exact h.content
      completed := by
        rw [happended]
        exact h.completed
      unattended := by
        rw [happended]
        exact h.unattended }

lemma outcome {a : Option (Unit × RunState)} (h : Favoured (.done a) r g) :
    ∃ before ev, r.appended = before ++ [ev] ∧ isOutcome ev.type = true ∧
      (r.status = some .suspended ∨
        (∃ detail, ev.type = .terminal ∧ ev.payload = .terminal .completed detail) ∧
          ∃ e ∈ r.appended, e.type = .content) := by
  have hfinished : Finished r := h.delivering
  obtain ⟨before, ev, happended, -, houtcome, -, hstatus⟩ := hfinished.outcome h.unstopped
  have hev : ev ∈ r.appended := happended ▸ List.mem_append_right _ (List.mem_singleton_self _)
  refine ⟨before, ev, happended, houtcome, ?_⟩
  by_cases htype : ev.type = .terminal
  · obtain ⟨⟨detail, hpayload⟩, hcontent⟩ := h.completed ev hev htype
    exact .inr ⟨⟨detail, htype, hpayload⟩, hcontent⟩
  · left
    rw [hstatus]
    have hinput := h.unattended ev hev
    unfold outcomeStatus
    cases hcase : ev.type <;> simp_all [isOutcome]

end Favoured

end NexusAgent.Kernel
