import NexusAgent.Provider.Types

/-!
# The OpenAI-compatible adapter

The response stream of a chat completion (`internal/provider/litellm/litellm.go`): lines of
server-sent events, decoded one at a time into normalized chunks. Tool calls are collected by index
until the finish reason comes, and the usage and the reason are handed on at the line `[DONE]`.

The JSON decoder is a parameter. A stream is what arrives on the connection: lines, and the point
at which the context of the call ends; a failure of the connection comes after the last line.
-/

namespace NexusAgent.Provider.Litellm

/-! ### The wire -/

/-- A part of a tool call. -/
structure ToolCallDelta where
  index : ℤ
  id : String := ""
  name : String := ""
  arguments : String := ""

/-- The first choice of a chunk. -/
structure Choice where
  content : String := ""
  toolCalls : List ToolCallDelta := []
  finishReason : Option String := none

structure WireUsage where
  promptTokens : Int64 := 0
  completionTokens : Int64 := 0
  /-- The cached tokens, where the object has the details of the prompt. -/
  cachedTokens : Option Int64 := none

/-- One line of the stream, decoded. -/
structure ChatStreamChunk where
  choices : List Choice := []
  usage : Option WireUsage := none

/-- What arrives on the connection. -/
inductive Arrival
  | line (text : String)
  /-- The context of the call has ended. -/
  | cancelled (err : StreamError)

/-- `readSSELine`: the payload of a data line; other lines are skipped. -/
def sseData (line : String) : Option String :=
  if "data:".toList.isPrefixOf line.toList then
    some (Go.trimSpace (String.ofList (line.toList.drop 5)))
  else none

def finishReasonToDone (reason : String) : DoneReason :=
  if reason = "length" then .maxOutput
  else if reason = "content_filter" then .refusal
  else .stop

/-! ### The decoder -/

/-- A tool call as far as it has come. -/
structure ToolCallState where
  id : String := ""
  name : String := ""
  args : String := ""

structure Decoder where
  toolCalls : List (ℤ × ToolCallState) := []
  usage : Usage := {}
  usageSeen : Bool := false
  gotDone : Bool := false
  /-- The finish reason; it counts once it has come. -/
  doneReason : DoneReason := .stop
  /-- Chunks that have been decoded and not handed on. -/
  pending : List Chunk := []
  closed : Bool := false

/-- A part joins its tool call. -/
def ToolCallState.add (tb : ToolCallState) (tc : ToolCallDelta) : ToolCallState where
  id := if tc.id ≠ "" then tc.id else tb.id
  name := if tc.name ≠ "" then tc.name else tb.name
  args := tb.args ++ tc.arguments

def addToolCall (calls : List (ℤ × ToolCallState)) (tc : ToolCallDelta) :
    List (ℤ × ToolCallState) :=
  match calls.lookup tc.index with
  | none => calls ++ [(tc.index, ToolCallState.add {} tc)]
  | some _ => calls.map fun c => if c.1 = tc.index then (c.1, c.2.add tc) else c

/-- `flushToolCalls`: the calls under the indices from zero up to their number. -/
def flushToolCalls (calls : List (ℤ × ToolCallState)) : List Chunk :=
  (List.range calls.length).filterMap fun i => (calls.lookup (i : ℤ)).map fun tb =>
    .toolUse tb.id tb.name (if tb.args = "" then "\x7b\x7d" else tb.args)

def WireUsage.usage (u : WireUsage) : Usage where
  inputUncached := u.promptTokens - u.cachedTokens.getD 0
  inputCacheRead := u.cachedTokens.getD 0
  outputTokens := u.completionTokens

namespace Decoder

/-- The usage object of a line, if it has one. -/
def readUsage (s : Decoder) (evt : ChatStreamChunk) : Decoder :=
  match evt.usage with
  | none => s
  | some u => { s with usage := u.usage, usageSeen := true }

/-- The first choice of a line, if it has one. -/
def readChoice (s : Decoder) (evt : ChatStreamChunk) : Decoder :=
  match evt.choices with
  | [] => s
  | choice :: _ =>
    let content := if choice.content ≠ "" then [Chunk.content choice.content] else []
    let toolCalls := choice.toolCalls.foldl addToolCall s.toolCalls
    match choice.finishReason with
    | none => { s with pending := s.pending ++ content, toolCalls }
    | some reason =>
      { s with
        pending := s.pending ++ content ++ flushToolCalls toolCalls
        toolCalls := []
        gotDone := true
        doneReason := finishReasonToDone reason }

/-- The end of the stream: the usage and the finish reason are handed on. -/
def finish (s : Decoder) : Decoder :=
  { s with closed := true, pending := s.pending ++ [.usage s.usage, .done s.doneReason ""] }

end Decoder

/-- What a call of `Next` comes to. -/
inductive Pull
  | chunk (c : Chunk) (rest : List Arrival) (s : Decoder)
  | ended
  | failed (err : StreamError)

/-- The failure of a stream that is cut off. -/
def unexpectedEOF : StreamError := .unexpectedEOF "unexpected EOF"

section

variable (unmarshal : String → Except String ChatStreamChunk) (failure : Option StreamError)

def Decoder.read (s : Decoder) (text : String) : Except StreamError Decoder :=
  match sseData text with
  | none => .ok s
  | some line =>
    if line = "[DONE]" then if s.gotDone then .ok s.finish else .error unexpectedEOF
    else
      match unmarshal line with
      | .error err => .error (.other ("litellm: parse chunk: " ++ err))
      | .ok evt => .ok ((s.readUsage evt).readChoice evt)

/-- `Next`: pending chunks come first, and then lines are read until there is one. `failure` is why
the connection failed after its last line. -/
def next : List Arrival → Decoder → Pull
  | input, s@{ pending := c :: rest, .. } => .chunk c input { s with pending := rest }
  | [], s => if s.closed then .ended else .failed (failure.getD unexpectedEOF)
  | .cancelled err :: _, s => if s.closed then .ended else .failed err
  | .line text :: input, s =>
    if s.closed then .ended
    else
      match s.read unmarshal text with
      | .error err => .failed err
      | .ok s' => next input s'

/-- A caller reads on until the stream ends or fails, with at most `n` calls of `Next`. -/
def pulls : ℕ → List Arrival → Decoder → Option (List Chunk × Option StreamError)
  | 0, _, _ => none
  | n + 1, input, s =>
    match next unmarshal failure input s with
    | .chunk c input' s' => (pulls n input' s').map fun r => (c :: r.1, r.2)
    | .ended => some ([], none)
    | .failed err => some ([], some err)

/-! ### Reading to the end -/

variable {unmarshal failure} {s : Decoder} {input : List Arrival}

lemma next_of_pending {c : Chunk} {rest : List Chunk} (h : s.pending = c :: rest) :
    next unmarshal failure input s = .chunk c input { s with pending := rest } := by
  obtain ⟨toolCalls, usage, usageSeen, gotDone, doneReason, pending, closed⟩ := s
  obtain rfl : pending = c :: rest := h
  rw [next]

lemma next_of_closed (hpending : s.pending = []) (hclosed : s.closed = true) :
    next unmarshal failure input s = .ended := by
  obtain ⟨toolCalls, usage, usageSeen, gotDone, doneReason, pending, closed⟩ := s
  obtain rfl : pending = [] := hpending
  obtain rfl : closed = true := hclosed
  match input with
  | [] => rfl
  | .cancelled err :: input => rfl
  | .line text :: input => simp [next]

variable (unmarshal failure input) in
lemma next_of_open (hpending : s.pending = []) (hopen : s.closed = false) :
    (∃ err, next unmarshal failure input s = .failed err) ∨
      ∃ text input' s', input = .line text :: input' ∧ s.read unmarshal text = .ok s' ∧
        next unmarshal failure input s = next unmarshal failure input' s' := by
  obtain ⟨toolCalls, usage, usageSeen, gotDone, doneReason, pending, closed⟩ := s
  obtain rfl : pending = [] := hpending
  obtain rfl : closed = false := hopen
  match input with
  | [] => exact .inl ⟨failure.getD unexpectedEOF, by simp [next]⟩
  | .cancelled err :: input => exact .inl ⟨err, by simp [next]⟩
  | .line text :: input =>
    rw [next]
    · simp only [Bool.false_eq_true, if_false]
      split
      next err hread => exact .inl ⟨err, rfl⟩
      next s' hread => exact .inr ⟨text, input, s', rfl, hread, rfl⟩
    · simp

/-! ### Streams without usage -/

variable (unmarshal) in
/-- No line of the stream carries a usage object. -/
def Unreported (input : List Arrival) : Prop :=
  ∀ text line evt, .line text ∈ input → sseData text = some line → line ≠ "[DONE]" →
    unmarshal line = .ok evt → evt.usage = none

/-- The usage is still to be handed on. -/
def Decoder.Due (s : Decoder) : Prop := s.closed = false ∨ .usage {} ∈ s.pending

/-- No usage has been seen, and none other than that of no tokens is pending. -/
structure Silent (s : Decoder) : Prop where
  usage : s.usage = {}
  pending : ∀ u, .usage u ∈ s.pending → u = {}

lemma usage_not_mem_readChoice (evt : ChatStreamChunk) (u : Usage) :
    .usage u ∈ (s.readChoice evt).pending ↔ .usage u ∈ s.pending := by
  have hflush (calls : List (ℤ × ToolCallState)) : .usage u ∉ flushToolCalls calls := by
    simp [flushToolCalls]
  unfold Decoder.readChoice
  split
  · rfl
  next choice rest _ =>
    dsimp only
    split
    · simp
    · simp [hflush]

lemma readChoice_usage (evt : ChatStreamChunk) :
    (s.readChoice evt).usage = s.usage ∧ (s.readChoice evt).closed = s.closed := by
  unfold Decoder.readChoice
  split
  · exact ⟨rfl, rfl⟩
  · dsimp only
    split <;> exact ⟨rfl, rfl⟩

/-- A line without a usage object leaves the stream silent; the end of the stream puts a usage of
no tokens before its reason. -/
lemma Silent.read (h : Silent s) {text : String} {s' : Decoder}
    (hline : ∀ line evt, sseData text = some line → line ≠ "[DONE]" →
      unmarshal line = .ok evt → evt.usage = none)
    (hread : s.read unmarshal text = .ok s') :
    Silent s' ∧ (s.closed = false → s'.Due) := by
  unfold Decoder.read at hread
  split at hread
  next =>
    obtain rfl := Except.ok.inj hread
    exact ⟨h, .inl⟩
  next line hdata =>
    by_cases hdone : line = "[DONE]"
    · split_ifs at hread
      obtain rfl := Except.ok.inj hread
      refine ⟨⟨h.usage, fun u hu => ?_⟩, fun _ => .inr ?_⟩
      · simp only [Decoder.finish, List.mem_append, List.mem_cons, Chunk.usage.injEq,
          List.not_mem_nil, reduceCtorEq, or_false] at hu
        rcases hu with hold | rfl
        · exact h.pending u hold
        · exact h.usage
      · simp [Decoder.finish, h.usage]
    · rw [if_neg hdone] at hread
      split at hread
      next => nomatch hread
      next evt hevt =>
        obtain rfl := Except.ok.inj hread
        have hsame : s.readUsage evt = s := by
          simp [Decoder.readUsage, hline line evt hdata hdone hevt]
        rw [hsame]
        obtain ⟨husage, hclosed⟩ := readChoice_usage (s := s) evt
        refine ⟨⟨husage.trans h.usage, fun u hu => ?_⟩, fun hopen => .inl (hclosed.trans hopen)⟩
        exact h.pending u ((usage_not_mem_readChoice evt u).1 hu)

/-- What a call of `Next` comes to on a silent stream. -/
def Outcome (unmarshal : String → Except String ChatStreamChunk) (s : Decoder) : Pull → Prop
  | .chunk c input s' => Unreported unmarshal input ∧ Silent s' ∧ (∀ u, c = .usage u → u = {}) ∧
      (s.Due → c = .usage {} ∨ s'.Due)
  | .ended => ¬ s.Due
  | .failed _ => True

lemma Silent.next_pending (hs : Silent s) (hinput : Unreported unmarshal input) {c : Chunk}
    {rest : List Chunk} (hpending : s.pending = c :: rest) :
    Outcome unmarshal s (.chunk c input { s with pending := rest }) := by
  refine ⟨hinput, ⟨hs.usage, fun u hu => ?_⟩, ?_, ?_⟩
  · exact hs.pending u (hpending ▸ List.mem_cons_of_mem c hu)
  · rintro u rfl
    exact hs.pending u (hpending ▸ List.mem_cons_self)
  · rintro (hopen | hmem)
    · exact .inr (.inl hopen)
    · rcases List.mem_cons.1 (hpending ▸ hmem) with rfl | hrest
      · exact .inl rfl
      · exact .inr (.inr hrest)

/-- By induction on the lines that the call reads. -/
lemma Silent.next (hs : Silent s) (hinput : Unreported unmarshal input) :
    Outcome unmarshal s (next unmarshal failure input s) := by
  induction hlines : input.length using Nat.strong_induction_on generalizing input s with
  | _ lines ih =>
    cases hpending : s.pending with
    | cons c rest =>
      rw [next_of_pending hpending]
      exact hs.next_pending hinput hpending
    | nil =>
      cases hclosed : s.closed with
      | true =>
        rw [next_of_closed hpending hclosed]
        simp [Outcome, Decoder.Due, hpending, hclosed]
      | false =>
        obtain ⟨err, herr⟩ | ⟨text, input', s', rfl, hread, hnext⟩ :=
          next_of_open unmarshal failure input hpending hclosed
        · rw [herr]
          trivial
        · obtain ⟨hs', hdue⟩ := hs.read
            (fun line evt => hinput text line evt List.mem_cons_self) hread
          have houtcome := ih _ (hlines ▸ Nat.lt_succ_self _) hs'
            (fun text line evt hmem => hinput text line evt (List.mem_cons_of_mem _ hmem)) rfl
          -- the usage is due before the line and after it
          rw [hnext]
          match next unmarshal failure input' s', houtcome with
          | .chunk c _ _, ⟨hrest, hsilent, hc, hdue'⟩ =>
            exact ⟨hrest, hsilent, hc, fun _ => hdue' (hdue hclosed)⟩
          | .ended, hended => exact absurd (hdue hclosed) hended
          | .failed _, _ => trivial

/-- A stream without a usage object that ends normally hands on a usage of no tokens, and no
other: by induction on the calls of `Next`. -/
theorem usage_of_unreported {n : ℕ} {chunks : List Chunk} (hinput : Unreported unmarshal input)
    (hs : Silent s) (h : pulls unmarshal failure n input s = some (chunks, none)) :
    (s.Due → .usage {} ∈ chunks) ∧ ∀ u, .usage u ∈ chunks → u = {} := by
  induction n generalizing input s chunks with
  | zero => nomatch h
  | succ n ih =>
    have houtcome : Outcome unmarshal s (Litellm.next unmarshal failure input s) := hs.next hinput
    rw [pulls] at h
    match next unmarshal failure input s, houtcome, h with
    | .chunk c input' s', ⟨hrest, hsilent, hc, hdue⟩, h =>
      obtain ⟨⟨rest, err⟩, hpulls, heq⟩ := Option.map_eq_some_iff.1 h
      cases heq
      obtain ⟨hmem, hall⟩ := ih hrest hsilent hpulls
      refine ⟨fun hs => ?_, fun u hu => ?_⟩
      · rcases hdue hs with rfl | hs'
        · exact List.mem_cons_self
        · exact List.mem_cons_of_mem c (hmem hs')
      · rcases List.mem_cons.1 hu with heq | hu
        · exact hc u heq.symm
        · exact hall u hu
    | .ended, hended, h =>
      cases h
      exact ⟨fun hdue => absurd hdue hended, fun u hu => absurd hu List.not_mem_nil⟩
    | .failed err, _, h => nomatch h

end

end NexusAgent.Provider.Litellm
