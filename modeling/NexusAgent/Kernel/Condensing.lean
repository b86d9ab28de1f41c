import NexusAgent.Kernel.Prompts

/-!
# Condensation and tool results

A transcript over the threshold is replaced by a summary and its last four messages. The cut is
made by count, without a look at what the messages are: where it is before a tool message, the
results are kept and their tool uses are not.
-/

namespace NexusAgent.Kernel

open EventLog Provider Routine

/-- Tool uses and results come in pairs: the results of a message are those of the tool uses in
the message before it, which are those with `asked`, and it is a tool message if there are any. -/
def InPairs (asked : String → Prop) : List Message → Prop
  | [] => ∀ id, ¬ asked id
  | m :: rest =>
    (∀ id, asked id → m.role = .tool) ∧ (∀ id, .reply id ∈ signals m.blocks ↔ asked id) ∧
      InPairs (fun id => .call id ∈ signals m.blocks) rest

/-- A transcript whose tool uses and results come in pairs. -/
def PairedUp (transcript : List Message) : Prop := InPairs (fun _ => False) transcript

/-- The cut is before a message with tool results. -/
def CutsAtResult (k : Kernel) (transcript : List Message) : Prop :=
  ∃ covered ∈ Promptctx.shouldCondense transcript k.condenseThresholdBytes,
    ∃ m ∈ (transcript.drop covered).head?, ∃ id, .reply id ∈ signals m.blocks

lemma InPairs.drop_iff {asked : String → Prop} {transcript : List Message}
    (h : InPairs asked transcript) (n : ℕ) : PairedUp (transcript.drop n) ↔
      ¬ ∃ m ∈ (transcript.drop n).head?, ∃ id, .reply id ∈ signals m.blocks := by
  induction n generalizing asked transcript with
  | zero =>
    cases transcript with
    | nil => simp [PairedUp, InPairs]
    | cons m rest =>
      -- without results there were no tool uses before the message either
      obtain ⟨-, -, hrest⟩ := h
      simp [PairedUp, InPairs, hrest]
  | succ n ih =>
    cases transcript with
    | nil => simp [PairedUp, InPairs]
    | cons m rest => exact ih h.2.2

/-- A text has no tool uses and no results. -/
lemma pairedUp_text_cons (role : Role) (text : String) {transcript : List Message} :
    PairedUp (textMessage role text :: transcript) ↔ PairedUp transcript := by
  simp [PairedUp, InPairs, signals, signal, textMessage]

/-- The prompts of a turn that has found a transcript: but for the one of the condenser, they are
in pairs if and only if the cut is not before tool results. -/
def prompting (k : Kernel) (transcript : List Message) : Protocol Unit Op Op.Answer where
  admits _
    | .stream p _ => (∃ covered, p = Promptctx.condensePrompt covered) ∨
        (PairedUp p.messages ↔ ¬ CutsAtResult k transcript)
    | _ => True
  step _ _ _ _ := True

section

variable {α β : Type} {k : Kernel} {found transcript : List Message}

lemma quiet_prompting (q : Unit) : Quiet (prompting k found) q := by
  intro o ho
  cases o <;> first | exact ho.elim | exact ⟨trivial, fun _ _ _ => rfl⟩

/-- A part of a call that leaves the transcript alone. -/
abbrev Leaves (k : Kernel) (found transcript : List Message) (c : Call α) : Prop :=
  Keeps (prompting k found) (fun s _ => s.transcript = transcript) c

lemma leaves (k : Kernel) (found transcript : List Message) :
    Quietly (prompting k found) (fun _ => True) (fun _ => True)
      (fun s _ => s.transcript = transcript) fun _ => True where
  quiet _ := ⟨quiet_prompting _, trivial⟩
  append h _ _ _ := ⟨trivial, fun _ q' _ => ⟨quiet_prompting q', trivial⟩, fun _ _ _ _ => h⟩
  setStatus h _ _ _ := ⟨trivial, fun _ _ _ => h⟩

lemma leaves_budget {o : Op} (ho : o.Budgeting) :
    Leaves k found transcript (request o : Call o.Answer) :=
  keeps_request fun _ _ h => by cases o <;> first | exact ho.elim | exact ⟨trivial, fun _ _ _ => h⟩

lemma leaves_condense (cfg : RunConfig) (covered : List Message) :
    Leaves k found transcript (condense cfg covered) :=
  keeps_condense leaves_budget (fun _ _ _ hs => ⟨.inl ⟨_, rfl⟩, fun _ _ _ => hs⟩) cfg covered

lemma leaves_streamTurn (cfg : RunConfig) (res : Cost.Reservation) {view : List Message}
    (h : PairedUp view ↔ ¬ CutsAtResult k found) :
    Leaves k found transcript (streamTurn cfg res view) := by
  have hend (t : Terminal) : Leaves k found transcript (terminate t : Call Output) :=
    (leaves k found transcript).terminate trivial t trivial
  refine keeps_bind (fun _ _ hs => ⟨.inr h, fun _ _ _ => hs⟩) fun answer => ?_
  match answer with
  | .error e => exact keeps_bind (leaves_budget (o := .reconcile ..) trivial) fun _ => hend _
  | .ok (chunks, some e) =>
    exact keeps_bind (leaves_budget (o := .reconcile ..) trivial) fun _ => hend _
  | .ok (chunks, none) =>
    exact keeps_bind (leaves_budget (o := .reconcile ..) trivial) fun _ => keeps_pure _

end

/-- The transcript that the model is shown, and its answer. -/
def promptTurn (k : Kernel) (cfg : RunConfig) (res : Cost.Reservation) : Call Output := do
  let view ← pruneView k
  let view ← condenseView k cfg view
  streamTurn cfg res view

/-- The transcript is shown as it is, or as a summary and its last messages. -/
lemma wp_condenseView (k : Kernel) (cfg : RunConfig) {s : RunState} {q : Unit}
    (h : PairedUp s.transcript) :
    wp (prompting k s.transcript) (condenseView k cfg s.transcript)
      (fun view s' _ => view = s'.transcript ∧ (PairedUp view ↔ ¬ CutsAtResult k s.transcript))
      (fun _ => True) s q := by
  unfold condenseView
  split
  next hnone => exact ⟨rfl, by simp [CutsAtResult, hnone, h]⟩
  next covered hcovered =>
  have hleaves := leaves k s.transcript s.transcript
  have hcondense : Leaves k s.transcript s.transcript (condense cfg (s.transcript.take covered)) :=
    leaves_condense cfg _
  refine hcondense.wp_bind rfl fun ⟨metered, res⟩ s₁ q₁ hs₁ => ?_
  refine (hleaves.note trivial).wp_bind hs₁ fun _ s₂ q₂ hs₂ => ?_
  refine wp_bind.2 (wp_get.2 ?_)
  refine (hleaves.appendEvent trivial).wp_bind hs₂ fun ev s₃ q₃ hs₃ => ?_
  refine (hleaves.emit ev).wp_bind hs₃ fun _ s₄ q₄ _ => ?_
  refine wp_bind.2 (wp_modify.2 (wp_pure.2 ⟨rfl, ?_⟩))
  rw [hs₂, pairedUp_text_cons, h.drop_iff]
  simp [CutsAtResult, hcovered]

/-- Where pruning is off and the tool uses and results of the working transcript come in pairs, so
they do in the transcript that the turn sends to the provider and goes on with, if and only if the
transcript is not cut before tool results. -/
theorem condensed_pairedUp_iff (k : Kernel) (hoff : k.prunePolicy.Off) (cfg : RunConfig)
    (res : Cost.Reservation) (s : RunState) (h : PairedUp s.transcript) :
    wp (prompting k s.transcript) (promptTurn k cfg res)
      (fun _ s' _ => PairedUp s'.transcript ↔ ¬ CutsAtResult k s.transcript) (fun _ => True)
      s () := by
  refine wp_bind.2 (wp_pruneView_off hoff ?_)
  refine wp_seq (wp_condenseView k cfg h) ?_
  rintro view s' q' ⟨rfl, hview⟩
  refine wp_mono (leaves_streamTurn cfg res hview s' q' rfl) fun _ s'' _ hs'' => ?_
  rwa [hs'']

/-- A kernel that condenses whatever has more than four messages. -/
def condensing : Kernel := { condenseThresholdBytes := 1 }

def twoCalls : List Message :=
  [textMessage .user "go", { role := .assistant, blocks := [.toolUse "a" "web/get@1" ""] },
   toolResultMessage "a" "one" false,
   { role := .assistant, blocks := [.toolUse "b" "web/get@1" ""] },
   toolResultMessage "b" "two" false]

/-- A transcript that is condensed before a tool use, and stays in pairs. -/
theorem twoCalls_condensed :
    Promptctx.shouldCondense twoCalls 1 = some 1 ∧ ¬ CutsAtResult condensing twoCalls ∧
      wp (prompting condensing twoCalls)
        (promptTurn condensing {}
          { id := 0, tenantID := 7, sessionID := 1, modelID := ""
            decision := { kind := .skip, reason := "", reserved := { currency := "USD" } } })
        (fun _ s' _ => PairedUp s'.transcript ↔ ¬ CutsAtResult condensing twoCalls) (fun _ => True)
        { tenantID := 7, sessionID := 1, transcript := twoCalls } () := by
  have hcovered : Promptctx.shouldCondense twoCalls 1 = some 1 := by decide
  refine ⟨hcovered, ?_, ?_⟩
  · rintro ⟨covered, hcut, m, hm, id, hid⟩
    obtain rfl : 1 = covered := Option.mem_unique hcovered hcut
    obtain rfl : _ = m := Option.some.inj hm
    simp [signals, signal] at hid
  · refine condensed_pairedUp_iff condensing ⟨le_rfl, le_rfl, le_rfl⟩ {} _
      { tenantID := 7, sessionID := 1, transcript := twoCalls } ?_
    simp [PairedUp, InPairs, twoCalls, signals, signal, textMessage, toolResultMessage]

/-- A turn whose budget decision is appended as the event `n`. -/
def replies (n : UUID) (chunks : List Chunk) : List Drive :=
  [.reply .unmetered, .reply (.appended n), .reply (.more true),
   .reply (.streamed (.ok (chunks, none))), .reply (.wrote none)]

/-- A turn that calls a tool, which answers. -/
def callsTool (n : UUID) (id : String) : List Drive :=
  replies n [.toolUse id "web/get@1" ""] ++
    [.reply (.appended (n + 1)), .reply (.more true), .reply (.executed {}),
     .reply (.appended (n + 2)), .reply (.more true), .reply (.recorded none)]

/-- In a conversation a call is answered, after which the model has nothing to say. The user goes
on, and another call is answered: the cut is between the first call and its result, and the model
is shown the result alone. -/
theorem conversation_splitsPair :
    ∃ s p, (calls condensing 7 1).ReachesBy Paired {} s ∧ s.prompt = some p ∧
      (p.messages.map fun m => signals m.blocks) =
        [[], [.reply "t"], [], [.call "u"], [.reply "u"]] ∧ ¬ PairedUp p.messages := by
  have hprompt : (((calls condensing 7 1).runBy (fun s a => decide (Paired s a)) {}
      ([.start (.run { conversational := true }), .reply (.wrote none)] ++ callsTool 1 "t" ++
        replies 4 [.done .stop ""] ++
        [.reply (.appended 5), .reply (.wrote none), .reply (.more true), .leave,
         .start (.resumeConversation { conversational := true } "go on"), .reply (.wrote none),
         .reply (.appended 6), .reply (.more true)] ++ callsTool 7 "u" ++
        [.reply .unmetered, .reply (.appended 10), .reply (.more true), .reply .unmetered,
         .reply (.streamed (.ok ([], none))), .reply (.wrote none), .reply (.appended 11),
         .reply (.more true), .reply (.appended 12), .reply (.more true)])).bind
      Driven.prompt).map (fun p => p.messages.map fun m => signals m.blocks) =
      some [[], [.reply "t"], [], [.call "u"], [.reply "u"]] := by decide +kernel
  obtain ⟨p, hprompt, hp⟩ := Option.map_eq_some_iff.1 hprompt
  obtain ⟨s, hrun, hs⟩ := Option.bind_eq_some_iff.1 hprompt
  refine ⟨s, p, .of_runBy _ hrun, hs, hp, fun h => ?_⟩
  -- the second message answers a call that the first one does not make
  obtain ⟨summary, rest, hmessages, hsummary, hrest⟩ := List.map_eq_cons_iff.1 hp
  obtain ⟨result, rest', rfl, hresult, -⟩ := List.map_eq_cons_iff.1 hrest
  rw [hmessages] at h
  have hcall := (h.2.2.2.1 "t").1 (by simp [hresult])
  simp [hsummary] at hcall

end NexusAgent.Kernel
