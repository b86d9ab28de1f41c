import NexusAgent.Promptctx.Window

/-!
# What pruning does to tool results

`Prune` shortens old tool messages in a view of the transcript, and its callers rely on it to
change nothing but texts. It puts a message of one text block in the place of the one that was
too large, so that it keeps to that only for messages which had one text block before. A tool
message holds tool results, and they are lost.
-/

namespace NexusAgent.Promptctx

open Provider

/-- A block without its text. -/
def outline : ContentBlock → ContentBlock
  | .text _ => .text ""
  | .thinking _ signature => .thinking "" signature
  | .toolUse toolUseID toolName input => .toolUse toolUseID toolName input
  | .toolResult toolUseID _ isError => .toolResult toolUseID "" isError

def outlineMessage (m : Message) : Message := { m with blocks := m.blocks.map outline }

def toolUseID : ContentBlock → Option String
  | .toolUse toolUseID _ _ => some toolUseID
  | _ => none

/-- The identifier that a tool result answers, and whether it is an error. -/
def toolResultID : ContentBlock → Option (String × Bool)
  | .toolResult toolUseID _ isError => some (toolUseID, isError)
  | _ => none

def blocks (transcript : List Message) : List ContentBlock := transcript.flatMap Message.blocks

/-- A view of a transcript differs from it in the texts of blocks only. -/
structure Rewords (transcript view : List Message) : Prop where
  length_eq : view.length = transcript.length
  toolUses_eq : (blocks view).filterMap toolUseID = (blocks transcript).filterMap toolUseID
  toolResults_eq :
    (blocks view).filterMap toolResultID = (blocks transcript).filterMap toolResultID
  outline_eq : view.map outlineMessage = transcript.map outlineMessage

/-- A tool message that is too large for a policy. -/
def Oversized (policy : PrunePolicy) (m : Message) : Prop :=
  m.role = .tool ∧
    (0 < policy.hardClearAt ∧ policy.hardClearAt < m.plainText.utf8ByteSize ∨
      0 < policy.softTrimAt ∧ policy.softTrimAt < m.plainText.utf8ByteSize)

/-- Pruning is off, or it stays within the transcript and every message that it shortens is one
block of text. -/
def Harmless (transcript : List Message) (policy : PrunePolicy) : Prop :=
  policy.Off ∨ cutoff transcript policy ≤ transcript.length ∧
    ∀ m ∈ transcript.take (cutoff transcript policy).toNat, Oversized policy m →
      ∃ text, m.blocks = [.text text]

/-! ### Outlines -/

lemma blocks_outline (transcript : List Message) :
    blocks (transcript.map outlineMessage) = (blocks transcript).map outline := by
  unfold blocks
  rw [List.flatMap_map, List.map_flatMap]
  rfl

lemma toolUseID_outline (b : ContentBlock) : toolUseID (outline b) = toolUseID b := by
  cases b <;> rfl

lemma toolResultID_outline (b : ContentBlock) : toolResultID (outline b) = toolResultID b := by
  cases b <;> rfl

lemma filterMap_outline {α : Type} {f : ContentBlock → Option α}
    (hf : ∀ b, f (outline b) = f b) (transcript : List Message) :
    (blocks transcript).filterMap f = (blocks (transcript.map outlineMessage)).filterMap f := by
  rw [blocks_outline, List.filterMap_map]
  exact List.filterMap_congr fun b _ => (hf b).symm

/-- Equal outlines are all there is to a change of texts. -/
lemma rewords_iff {transcript view : List Message} :
    Rewords transcript view ↔ view.map outlineMessage = transcript.map outlineMessage := by
  refine ⟨Rewords.outline_eq, fun h => ⟨?_, ?_, ?_, h⟩⟩
  · rw [← List.length_map outlineMessage, h, List.length_map]
  · rw [filterMap_outline toolUseID_outline, h, ← filterMap_outline toolUseID_outline]
  · rw [filterMap_outline toolResultID_outline, h, ← filterMap_outline toolResultID_outline]

lemma outline_eq_text {b : ContentBlock} :
    outline b = .text "" ↔ ∃ text, b = .text text := by
  cases b <;> simp [outline]

lemma outline_textMessage {m : Message} {text : String} :
    outlineMessage (textMessage m.role text) = outlineMessage m ↔
      ∃ text', m.blocks = [.text text'] := by
  obtain ⟨role, blocks⟩ := m
  show ({ role, blocks := [.text ""] } : Message) = { role, blocks := blocks.map outline } ↔ _
  rw [Message.mk.injEq, eq_comm (a := [ContentBlock.text ""]), List.map_eq_singleton_iff]
  constructor
  · rintro ⟨-, b, rfl, hb⟩
    obtain ⟨text', rfl⟩ := outline_eq_text.1 hb
    exact ⟨text', rfl⟩
  · rintro ⟨text', rfl⟩
    exact ⟨rfl, _, rfl, rfl⟩

/-! ### The loop over the transcript -/

section

variable (ref : String → String) (policy : PrunePolicy)

/-- A message that is too large is replaced by a text, and others are left alone. -/
lemma pruneMessage_cases (m : Message) :
    Oversized policy m ∧ (∃ text, pruneMessage ref policy m = some (textMessage m.role text)) ∨
      ¬ Oversized policy m ∧ pruneMessage ref policy m = none := by
  unfold pruneMessage
  dsimp only
  split
  · next hrole => exact .inr ⟨fun h => hrole h.1, rfl⟩
  next hrole =>
  have hrole := not_not.1 hrole
  split
  · next hhard => exact .inl ⟨⟨hrole, .inl hhard⟩, _, rfl⟩
  next hhard =>
  split
  · next hsoft => exact .inl ⟨⟨hrole, .inr hsoft⟩, _, rfl⟩
  next hsoft => exact .inr ⟨fun h => h.2.elim hhard hsoft, rfl⟩

/-- The view after the first `n` messages have the outlines of the transcript when each of those
that were shortened has. -/
lemma pruneFirst_outline (n : ℕ) (ms : List Message) :
    (pruneFirst ref policy n ms).1.map outlineMessage = ms.map outlineMessage ↔
      ∀ m ∈ ms.take n, Oversized policy m → ∃ text, m.blocks = [.text text] := by
  fun_induction pruneFirst ref policy n ms with
  | case1 ms => simp
  | case2 n => simp
  | case3 n m ms out count hrec m' hm' ih =>
    rw [hrec] at ih
    rcases pruneMessage_cases ref policy m with ⟨hover, text, hm⟩ | ⟨-, hm⟩
    · obtain rfl := Option.mem_unique hm' hm
      simp [ih, outline_textMessage, hover]
    · nomatch hm'.symm.trans hm
  | case4 n m ms out count hrec hm' ih =>
    rw [hrec] at ih
    rcases pruneMessage_cases ref policy m with ⟨-, text, hm⟩ | ⟨hfits, -⟩
    · nomatch hm'.symm.trans hm
    · simp [ih, hfits]

/-- Pruning returns a view that differs from the transcript in texts only exactly when it is
off, or stays within the transcript and shortens nothing but messages of one text. -/
theorem prune_rewords_iff (transcript : List Message) :
    (∃ view count, prune ref transcript policy = some (view, count) ∧
      Rewords transcript view) ↔ Harmless transcript policy := by
  unfold Harmless
  by_cases hoff : policy.Off
  · rw [prune_off ref hoff]
    simp [hoff, rewords_iff]
  rw [prune, if_neg (show ¬ (_ ∧ _ ∧ _) from hoff), or_iff_right hoff]
  split
  · next hpast => simp [Int.not_le.2 hpast]
  next hwithin =>
  rw [and_iff_right (Int.not_lt.1 hwithin), ← pruneFirst_outline ref policy, ← rewords_iff]
  constructor
  · rintro ⟨view, count, heq, h⟩
    rwa [Option.some.inj heq]
  · intro h
    exact ⟨_, _, rfl, h⟩

end

/-- A tool result of two bytes, over a limit of one, is gone from the view. -/
theorem prune_losesResult :
    ∃ transcript policy, ∀ ref, ∃ view count,
      prune ref transcript policy = some (view, count) ∧
      (blocks transcript).filterMap toolResultID = [("t", false)] ∧
      (blocks view).filterMap toolResultID = [] :=
  ⟨[toolResultMessage "t" "ok" false], { hardClearAt := 1 }, fun _ => ⟨_, _, rfl, rfl, rfl⟩⟩

end NexusAgent.Promptctx
