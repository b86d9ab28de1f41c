import NexusAgent.Go.Strings
import NexusAgent.Permissions.Types

/-!
# The hook dispatcher

One event's chain of hooks (`internal/hooks/dispatcher.go`, `matcher.go`, `types.go`): which
hooks match a call, what their handlers answer, how an answer is normalised, memoised and held
to the paths that a hook may rewrite, and how the answers are combined. A handler is code
outside the dispatcher: what it answers, and how long it takes, comes with each step. The
decoder of JSON objects and the hash over inputs are parameters.

A rewritten input reaches the next hook through the context, and the caller through the combined
outcome. A later hook that raises the decision starts a new outcome, so that the rewrite before
it is lost to the caller, though not to the hooks that follow.
-/

namespace NexusAgent.Hooks

open Permissions

/-! ### Which hooks match -/

/-- A condition on the fields of a call. In the source a node has one field set; a node without
one, an empty conjunction and an empty disjunction all hold. -/
inductive Expr
  | always
  | eq (field value : String)
  | isIn (field : String) (values : List String)
  | and (es : List Expr)
  | or (es : List Expr)
  | not (e : Expr)

mutual

def Expr.eval (fields : String → String) : Expr → Bool
  | .always => true
  | .eq field value => fields field == value
  | .isIn field values => values.any fun value => fields field == value
  | .not e => !e.eval fields
  | .and es => Expr.evalAll fields es
  | .or es => es.isEmpty || Expr.evalAny fields es

def Expr.evalAll (fields : String → String) : List Expr → Bool
  | [] => true
  | e :: es => e.eval fields && Expr.evalAll fields es

def Expr.evalAny (fields : String → String) : List Expr → Bool
  | [] => false
  | e :: es => e.eval fields || Expr.evalAny fields es

end

def matchesTool (pattern toolID ns : String) : Bool :=
  if pattern = "" ∨ pattern = "*" then true
  else if pattern = toolID then true
  else if Go.hasSuffix pattern "/*" then Go.trimSuffix pattern "/*" = ns
  else pattern = ns

/-- Which side of a tool call a chain runs on. -/
inductive Event
  | preToolUse
  | postToolUse
  deriving DecidableEq

/-- Which handler runs a hook. -/
inductive Kind
  | command
  | http
  | prompt
  /-- A kind that is none of the three. -/
  | other (text : String)

def Kind.text : Kind → String
  | .command => "command"
  | .http => "http"
  | .prompt => "prompt"
  | .other t => t

structure Config where
  name : String
  event : Event
  kind : Kind
  matcher : String := "*"
  condition : Option Expr := none
  /-- The top-level fields that a rewrite by this hook may touch. -/
  updatablePaths : List String := []

/-- What a dispatch is evaluated against. -/
structure Context where
  toolID : String
  ns : String
  effectClass : String
  autonomyLevel : String := ""
  dataLabel : String := ""
  input : String

/-- `Context.fields`. A name outside the vocabulary reads as the empty text. -/
def Context.fields (c : Context) (field : String) : String :=
  if field = "tool_id" then c.toolID
  else if field = "namespace" then c.ns
  else if field = "effect_class" then c.effectClass
  else if field = "autonomy_level" then c.autonomyLevel
  else if field = "data_label" then c.dataLabel
  else ""

def Config.fires (cfg : Config) (event : Event) (hctx : Context) : Bool :=
  cfg.event = event && matchesTool cfg.matcher hctx.toolID hctx.ns &&
    (cfg.condition.map fun e => e.eval hctx.fields).getD true

/-! ### Outcomes -/

/-- A hook's result, or that of a chain. -/
structure Outcome where
  decision : Decision
  reason : String := ""
  updatedInput : Option String := none
  hookName : String := ""
  deriving DecidableEq

/-- `blockOutcome`: the answer of a hook that did not run to completion. -/
def blockOutcome (hookName reason : String) : Outcome := { decision := .deny, reason, hookName }

/-- `normalize`: an allow is read as a defer, and what is not a decision as a deny. The text for
the latter is made after the decision has been replaced, so it always names a deny. -/
def normalize (out : Outcome) (hookName : String) : Outcome :=
  let out : Outcome :=
    match out.decision with
    | .deny | .ask | .defer => out
    | .allow =>
      { out with
        decision := .defer
        reason := "hook " ++ hookName ++
          " returned allow; coerced to defer — a hook can never grant permission" }
    | .other _ =>
      { out with
        decision := .deny
        reason := if out.reason = "" then
            "hook " ++ hookName ++ " returned an unrecognized decision " ++ Go.quote "deny" ++
              "; failing closed to deny"
          else out.reason }
  if out.hookName = "" then { out with hookName } else out

def decisionRank : Decision → ℕ
  | .deny => 3
  | .ask => 2
  | _ => 1

/-- `combine`: the higher decision wins. A new winner starts a new outcome, without the rewrite
that the outcome before it carried. -/
def combine (agg out : Outcome) : Outcome :=
  let next : Outcome :=
    if decisionRank agg.decision < decisionRank out.decision then
      { decision := out.decision, reason := out.reason, hookName := out.hookName }
    else agg
  match out.updatedInput with
  | some input => { next with updatedInput := some input }
  | none => next

/-! ### One hook -/

inductive HandlerRun
  | timedOut
  | failed (err : String)
  | answered (out : Outcome)

/-- What comes with one step of a chain: whether the chain's budget is spent by then, and what
the handler comes to if it is run. -/
structure HookStep where
  late : Bool := false
  run : HandlerRun

/-- A dispatcher with its memory. -/
structure Dispatcher where
  handles : Kind → Bool
  /-- Not positive means that a turn may run any number of hooks. -/
  perTurnCap : ℤ := 8
  digestHex : String → String
  /-- The fields of a JSON object with their trimmed values. -/
  decodeObject : String → Except String (List (String × String))
  cache : String → Option Outcome := fun _ => none
  turnCount : ℤ := 0

namespace Dispatcher

def resetTurn (d : Dispatcher) : Dispatcher := { d with turnCount := 0 }

/-- `overPerTurnCap`: one more hook of the turn. -/
def overPerTurnCap (d : Dispatcher) : Bool × Dispatcher :=
  let d := { d with turnCount := d.turnCount + 1 }
  (decide (0 < d.perTurnCap ∧ d.perTurnCap < d.turnCount), d)

/-- `touchedPaths`: the fields that were added, removed or changed, in order. -/
def touchedPaths (d : Dispatcher) (orig updated : String) : Except String (List String) := do
  let o ← (d.decodeObject (if orig = "" then "\x7b\x7d" else orig)).mapError fun e =>
    "original input is not a JSON object: " ++ e
  let u ← (d.decodeObject updated).mapError fun e => "updated input is not a JSON object: " ++ e
  let changed := (u.filter fun kv => o.lookup kv.1 ≠ some kv.2).map Prod.fst
  let removed := (o.filter fun kv => (u.lookup kv.1).isNone).map Prod.fst
  pure ((changed ++ removed).mergeSort fun a b => decide (a ≤ b))

/-- `enforcePathAllowlist`: a rewrite outside the hook's paths is refused as a whole. -/
def enforcePathAllowlist (d : Dispatcher) (out : Outcome) (original : String)
    (allowlist : List String) : Outcome :=
  match out.updatedInput with
  | none => out
  | some updated =>
    if allowlist.isEmpty then
      blockOutcome out.hookName ("hook " ++ out.hookName ++
        " attempted to rewrite tool input with no configured allowlist; refused")
    else
      match d.touchedPaths original updated with
      | .error err => blockOutcome out.hookName ("hook " ++ out.hookName ++ ": " ++ err)
      | .ok touched =>
        match touched.find? fun path => !allowlist.contains path with
        | some path =>
          blockOutcome out.hookName ("hook " ++ out.hookName ++
            " attempted to rewrite input path " ++ Go.quote path ++ ", outside its allowlist " ++
            Go.listed allowlist ++ "; refused")
        | none => out

/-- What a hook's handler comes to, as the chain reads it. -/
def runHandler (d : Dispatcher) (cfg : Config) (run : HandlerRun) : Outcome :=
  if d.handles cfg.kind then
    match run with
    | .timedOut => blockOutcome cfg.name "hook timed out; failing closed to deny"
    | .failed err => blockOutcome cfg.name ("hook error: " ++ err)
    | .answered out => normalize out cfg.name
  else
    blockOutcome cfg.name ("no handler registered for hook kind " ++ Go.quote cfg.kind.text)

/-- The key of a memoised answer: the hook and the input, whatever the tool is. -/
def cacheKey (d : Dispatcher) (cfg : Config) (hctx : Context) : String :=
  cfg.name ++ ":" ++ d.digestHex hctx.input

def runCached (d : Dispatcher) (cfg : Config) (hctx : Context) (run : HandlerRun) :
    Outcome × Dispatcher :=
  match d.cache (d.cacheKey cfg hctx) with
  | some out => (out, d)
  | none =>
    let out := d.runHandler cfg run
    (out, { d with cache := Function.update d.cache (d.cacheKey cfg hctx) (some out) })

/-- What one hook that fires answers, held to its paths. -/
def runHook (d : Dispatcher) (cfg : Config) (hctx : Context) (run : HandlerRun) :
    Outcome × Dispatcher :=
  let (out, d) := d.runCached cfg hctx run
  (d.enforcePathAllowlist out hctx.input cfg.updatablePaths, d)

/-! ### The chain -/

/-- The loop of `Dispatch`, from the outcome of the hooks so far; `i` counts the configured
hooks, and `steps` is what comes with each of them. -/
def dispatchFrom (event : Event) (steps : ℕ → HookStep) :
    Dispatcher → ℕ → Context → Outcome → List Config → Outcome × Dispatcher
  | d, _, _, agg, [] => (agg, d)
  | d, i, hctx, agg, cfg :: rest =>
    if !cfg.fires event hctx then dispatchFrom event steps d (i + 1) hctx agg rest
    else if (steps i).late then
      (combine agg (blockOutcome cfg.name
        "hook chain budget exceeded; remaining hooks skipped, failing closed"), d)
    else
      let (exceeded, d) := d.overPerTurnCap
      if exceeded then
        (combine agg (blockOutcome cfg.name
          "per-turn hook cap exceeded; remaining hooks skipped, failing closed"), d)
      else
        let (out, d) := d.runHook cfg hctx (steps i).run
        let agg := combine agg out
        if agg.decision = .deny then (agg, d)
        else
          dispatchFrom event steps d (i + 1)
            { hctx with input := out.updatedInput.getD hctx.input } agg rest

def dispatch (d : Dispatcher) (event : Event) (steps : ℕ → HookStep) (hctx : Context)
    (configs : List Config) : Outcome × Dispatcher :=
  dispatchFrom event steps d 0 hctx { decision := .defer } configs

end Dispatcher

end NexusAgent.Hooks
