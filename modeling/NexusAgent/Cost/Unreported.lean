import NexusAgent.Cost.Reconcile
import NexusAgent.Kernel.Loop
import NexusAgent.Provider.Litellm

/-!
# Settling a call without usage

A call whose usage is not known is charged its full worst case (`Gate.Reconcile` in
`internal/cost/reconcile.go`): an unreliable provider must not look free. The kernel takes a usage
to be known when the stream has handed one on (`kernel/turns.go`), and the OpenAI-compatible
adapter hands one on at the end of every stream, whether or not one has come.
-/

namespace NexusAgent.Cost

open Kernel Provider

/-- The usage of a model call, by class. -/
def usageOf (u : Provider.Usage) : Usage :=
  .tokens u.inputUncached u.inputCacheRead u.inputCacheWrite u.outputTokens

def settlement : Process Op Op.Answer (Option (Output × RunState)) →
    Option (Reservation × Provider.Usage × Bool)
  | .ask (.reconcile res usage reported) _ => some (res, usage, reported)
  | _ => none

/-- The model call of a turn, once its stream has been read. -/
def afterStream (cfg : RunConfig) (res : Reservation) (view : List Message) (st : RunState)
    (chunks : List Chunk) (streamErr : Option StreamError) :
    Option (Process Op Op.Answer (Option (Output × RunState))) :=
  match (streamTurn cfg res view st).run with
  | .ask (.stream _ _) k => some (k (.ok (chunks, streamErr)))
  | _ => none

/-- The reservation is settled as unreported, and the full reserved amount is charged. -/
def SettledInFull (g : Gate) (answer : Except String PriceBook) (now : ℤ) (res : Reservation)
    (settled : Option (Reservation × Provider.Usage × Bool)) : Prop :=
  ∃ usage, settled = some (res, usage, false) ∧
    ∃ records, (g.price answer now res (usageOf usage) false).1 = .ok (records, g.reservedOf res)

lemma output_chunk_usage (o : Output) (c : Chunk) :
    (∃ u, c = .usage u ∧ (o.chunk c).usage = u ∧ (o.chunk c).usageReported = true) ∨
      (∀ u, c ≠ .usage u) ∧ (o.chunk c).usage = o.usage ∧
        (o.chunk c).usageReported = o.usageReported := by
  cases c with
  | usage u => exact .inl ⟨u, rfl, rfl, rfl⟩
  | _ => exact .inr ⟨by simp, rfl, rfl⟩

lemma foldl_chunk_usage {chunks : List Chunk} {o : Output} {u : Provider.Usage}
    (hall : ∀ u', .usage u' ∈ chunks → u' = u) (ho : o.usage = u) :
    (chunks.foldl Output.chunk o).usage = u ∧
      ((∃ u', .usage u' ∈ chunks) ∨ o.usageReported = true →
        (chunks.foldl Output.chunk o).usageReported = true) := by
  induction chunks generalizing o with
  | nil => exact ⟨ho, by simp⟩
  | cons c chunks ih =>
    have hrest : ∀ u', .usage u' ∈ chunks → u' = u := fun u' h => hall u' (List.mem_cons_of_mem c h)
    obtain ⟨u', rfl, husage, hreported⟩ | ⟨hne, husage, hreported⟩ := output_chunk_usage o c
    · obtain ⟨hfinal, hkept⟩ := ih hrest (husage.trans (hall u' List.mem_cons_self))
      exact ⟨hfinal, fun _ => hkept (.inr hreported)⟩
    · obtain ⟨hfinal, hkept⟩ := ih hrest (husage.trans ho)
      refine ⟨hfinal, fun h => hkept ?_⟩
      rcases h with ⟨u', hmem⟩ | ho
      · rcases List.mem_cons.1 hmem with heq | hmem
        · exact absurd heq.symm (hne u')
        · exact .inl ⟨u', hmem⟩
      · exact .inr (hreported.trans ho)

/-- A call that used no tokens is charged nothing, and nothing is recorded. -/
lemma price_of_no_tokens {g : Gate} {answer : Except String PriceBook} {now : ℤ}
    {res : Reservation} {pb : PriceBook} (h : (g.priceBookFor res.tenantID answer).1 = .ok pb) :
    (g.price answer now res (usageOf {}) true).1 = .ok ([], Money.zero g.cfg.currency) := by
  have hcfg := g.cfg_priceBookFor res.tenantID answer
  rcases hbook : g.priceBookFor res.tenantID answer with ⟨found, g'⟩
  rw [hbook] at h hcfg
  obtain rfl : found = .ok pb := h
  replace hcfg : g'.cfg = g.cfg := hcfg
  simp [Gate.price, usageOf, hbook, Gate.tokenClasses, Gate.priceTokens, hcfg]

/-- A call through the OpenAI-compatible adapter whose stream ends normally without a usage object
is never settled as unreported: the kernel settles it as one that used no tokens, and the gate
charges nothing for it. -/
theorem missingUsage_free (unmarshal : String → Except String Litellm.ChatStreamChunk)
    (failure : Option StreamError) (input : List Litellm.Arrival) (n : ℕ) (chunks : List Chunk)
    (hend : Litellm.pulls unmarshal failure n input {} = some (chunks, none))
    (hnone : Litellm.Unreported unmarshal input) (cfg : RunConfig) (res : Reservation)
    (view : List Message) (st : RunState) (g : Gate) (answer : Except String PriceBook) (now : ℤ) :
    ¬ SettledInFull g answer now res ((afterStream cfg res view st chunks none).bind settlement) ∧
      (afterStream cfg res view st chunks none).bind settlement = some (res, {}, true) ∧
      ∀ pb, (g.priceBookFor res.tenantID answer).1 = .ok pb →
        (g.price answer now res (usageOf {}) true).1 = .ok ([], Money.zero g.cfg.currency) := by
  have hsilent : Litellm.Silent {} := ⟨rfl, by simp⟩
  obtain ⟨hmem, hall⟩ := Litellm.usage_of_unreported hnone hsilent hend
  obtain ⟨husage, hreported⟩ := foldl_chunk_usage (o := {}) hall rfl
  have hsettled : (afterStream cfg res view st chunks none).bind settlement =
      some (res, {}, true) := by
    show some (res, (Output.ofChunks chunks).usage,
      (Output.ofChunks chunks).usageReported && true) = _
    rw [Output.ofChunks, husage, hreported (.inl ⟨{}, hmem (.inl rfl)⟩)]
    rfl
  refine ⟨?_, hsettled, fun pb => price_of_no_tokens⟩
  rintro ⟨usage, hsome, -⟩
  rw [hsettled] at hsome
  nomatch hsome

/-- The text of an answer that stops. -/
def shortText : String :=
  "\x7b\"choices\":[\x7b\"delta\":\x7b\"content\":\"hi\"\x7d,\"finish_reason\":\"stop\"\x7d]\x7d"

/-- A stream of one answer and its end. -/
def shortStream : List Litellm.Arrival :=
  [.line ("data: " ++ shortText), .line "", .line "data: [DONE]"]

/-- A decoder that knows this answer. -/
def shortAnswer (text : String) : Except String Litellm.ChatStreamChunk :=
  if text = shortText then .ok { choices := [{ content := "hi", finishReason := some "stop" }] }
  else .error "invalid character"

def heldReservation : Reservation :=
  { id := 9, tenantID := 1, sessionID := 2, modelID := ""
    decision := { kind := .allow, reason := "", budgetID := none
                  reserved := { micros := 36288, currency := "USD" } } }

/-- The stream ends normally, and the turn is settled and charged as one without tokens. -/
theorem shortStream_free :
    Litellm.pulls shortAnswer none 4 shortStream {} =
        some ([.content "hi", .usage {}, .done .stop ""], none) ∧
      ¬ SettledInFull (newGate true defaultMeters {}) (.ok (flatBook 3000000)) 2 heldReservation
        ((afterStream {} heldReservation [] { tenantID := 1, sessionID := 2 }
          [.content "hi", .usage {}, .done .stop ""] none).bind settlement) := by
  have hend : Litellm.pulls shortAnswer none 4 shortStream {} =
      some ([.content "hi", .usage {}, .done .stop ""], none) := by decide +kernel
  refine ⟨hend, ?_⟩
  have hnone : Litellm.Unreported shortAnswer shortStream := by
    intro text line evt _ _ _ hevt
    by_cases htext : line = shortText
    · obtain rfl := Except.ok.inj ((if_pos htext).symm.trans hevt)
      rfl
    · nomatch (if_neg htext).symm.trans hevt
  exact (missingUsage_free shortAnswer none shortStream 4 _ hend hnone {} heldReservation []
    { tenantID := 1, sessionID := 2 } (newGate true defaultMeters {}) (.ok (flatBook 3000000)) 2).1

/-- 36288 micros are reserved for the turn, its stream ends normally without a usage object, and
the reconciliation records and charges nothing. -/
theorem shortStream_unmetered :
    ∃ chunks, Litellm.pulls shortAnswer none 4 shortStream {} = some (chunks, none) ∧
      (afterStream {} heldReservation [] { tenantID := 1, sessionID := 2 } chunks none).bind
        settlement = some (heldReservation, {}, true) ∧
      ((newGate true defaultMeters {}).price (.ok (flatBook 3000000)) 2 heldReservation
        (usageOf {}) true).1 = .ok ([], { micros := 0, currency := "USD" }) :=
  ⟨[.content "hi", .usage {}, .done .stop ""], by decide +kernel, rfl, by decide +kernel⟩

end NexusAgent.Cost
