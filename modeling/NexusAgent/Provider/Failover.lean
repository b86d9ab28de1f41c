import NexusAgent.Provider.Types

/-!
# Failover between providers

`Wrap` (`internal/provider/failover.go`) makes one provider of several. `Stream` calls them in order
and pulls the first chunk of the stream that it is given, so that a failure of this pull has not
reached the caller; the chunk is handed on by the first `Next` of the stream that is returned.

What a provider does is free: whether its `Stream` fails, and what each `Next` of the stream gives.
-/

namespace NexusAgent.Failover

open NexusAgent.Provider

/-- What the calls of `Next` on a stream return, in their order. -/
abbrev Stream := ℕ → Except StreamError (Option Chunk)

/-- A provider, by what its `Stream` returns. -/
abbrev Provider := Except StreamError Stream

/-- `peekedStream`: the chunk that was pulled, while it has not been handed on, and the stream with
the number of its calls so far. -/
structure PeekedStream where
  first : Option (Option Chunk)
  inner : Stream
  calls : ℕ

namespace PeekedStream

def next (s : PeekedStream) : Except StreamError (Option Chunk) × PeekedStream :=
  match s.first with
  | some chunk => (.ok chunk, { s with first := none })
  | none => (s.inner s.calls, { s with calls := s.calls + 1 })

/-- What a call of `Next` returns after `n` others. -/
def nth (s : PeekedStream) : ℕ → Except StreamError (Option Chunk)
  | 0 => s.next.1
  | n + 1 => s.next.2.nth n

end PeekedStream

/-- An attempt at a provider: its `Stream`, and the first `Next`. -/
def attempt : Provider → Except StreamError PeekedStream
  | .error err => .error err
  | .ok stream =>
    match stream 0 with
    | .error err => .error err
    | .ok chunk => .ok { first := some chunk, inner := stream, calls := 1 }

/-- `Stream` of the wrapped provider, and how many providers it calls. -/
def stream : List Provider → Except StreamError PeekedStream × ℕ
  | [] => (.error (.other "failover: no providers configured"), 0)
  | prov :: rest =>
    match attempt prov with
    | .ok peeked => (.ok peeked, 1)
    | .error err =>
      if rest ≠ [] ∧ classifyTrigger err = .retryable then
        let (answer, called) := stream rest
        (answer, called + 1)
      else (.error err, 1)

/-- A provider fails before its first chunk. -/
def Fails (prov : Provider) (err : StreamError) : Prop :=
  prov = .error err ∨ ∃ stream, prov = .ok stream ∧ stream 0 = .error err

/-- What the caller is given is what a provider does: its failure, or its stream. -/
def Shows (prov : Provider) : Except StreamError PeekedStream → Prop
  | .error err => Fails prov err
  | .ok peeked => ∃ stream, prov = .ok stream ∧ ∀ n, peeked.nth n = stream n

lemma nth_of_handedOn (stream : Stream) (calls n : ℕ) :
    PeekedStream.nth { first := none, inner := stream, calls } n = stream (calls + n) := by
  induction n generalizing calls with
  | zero => rfl
  | succ n ih => exact (ih (calls + 1)).trans (congrArg stream (Nat.succ_add_eq_add_succ calls n))

lemma shows_attempt (prov : Provider) : Shows prov (attempt prov) := by
  unfold attempt
  split
  · exact .inl rfl
  next stream =>
    split
    next err hfirst => exact .inr ⟨stream, rfl, hfirst⟩
    next chunk hfirst =>
      refine ⟨stream, rfl, fun n => ?_⟩
      cases n with
      | zero => exact hfirst.symm
      | succ n => exact (nth_of_handedOn stream 1 n).trans (congrArg stream (Nat.add_comm 1 n))

/-- The caller of the wrapped provider is given what one provider does. Each of those before it was
called once and failed with a retryable error before its first chunk, and none after it was
called. -/
theorem stream_commits (prov : Provider) (rest : List Provider) :
    ∃ before chosen after, prov :: rest = before ++ chosen :: after ∧
      (stream (prov :: rest)).2 = before.length + 1 ∧
      (∀ p ∈ before, ∃ err, Fails p err ∧ classifyTrigger err = .retryable) ∧
      Shows chosen (stream (prov :: rest)).1 := by
  have hshows := shows_attempt prov
  induction rest generalizing prov with
  | nil =>
    refine ⟨[], prov, [], rfl, ?_⟩
    unfold stream
    cases hattempt : attempt prov with
    | ok peeked => exact ⟨rfl, by simp, by rwa [hattempt] at hshows⟩
    | error err => simpa [hattempt] using hshows
  | cons next rest ih =>
    unfold stream
    cases hattempt : attempt prov with
    | ok peeked =>
      exact ⟨[], prov, next :: rest, rfl, rfl, by simp, by rwa [hattempt] at hshows⟩
    | error err =>
      rw [hattempt] at hshows
      by_cases hretry : classifyTrigger err = .retryable
      · -- the attempts go on with the next provider
        obtain ⟨before, chosen, after, hsplit, hcalled, hbefore, hchosen⟩ :=
          ih next (shows_attempt next)
        refine ⟨prov :: before, chosen, after, by rw [hsplit]; rfl, ?_,
          List.forall_mem_cons.2 ⟨⟨err, hshows, hretry⟩, hbefore⟩, ?_⟩
        · simp [hretry, hcalled]
        · simpa [hretry] using hchosen
      · exact ⟨[], prov, next :: rest, rfl, by simp [hretry], by simp,
          by simpa [hretry] using hshows⟩

end NexusAgent.Failover
