import NexusAgent.Hooks.Dispatcher
import NexusAgent.Tools.Gates

/-!
# Which inputs reach a tool

`Execute` has the tool validate its input and give its own opinion of it (steps 4 and 6), and
only then lets the hooks rewrite it (step 7). A rewritten input has its digest bound anew and is
what the permission chain, the claim and the call itself get, but the tool is not asked again.
-/

namespace NexusAgent.Tools

open Permissions

def Tool.Vetted (tool : Tool) (input : String) : Prop :=
  tool.validateInput input = none ∧ (tool.checkPermissions input).decision ≠ .deny

instance (tool : Tool) (input : String) : Decidable (tool.Vetted input) :=
  inferInstanceAs (Decidable (_ ∧ _))

/-- The hooks of a pipeline; there may be none. -/
structure HookSetup where
  dispatcher : Option Hooks.Dispatcher := none
  configs : List Hooks.Config := []

/-- What the hooks see of a call. -/
def hookContext (d : Dispatch) : Hooks.Context :=
  { toolID := d.ref.string, ns := d.ref.ns, effectClass := d.tool.descriptor.effectClass.text
    input := d.input }

def HookSetup.preToolUse (hooks : HookSetup) (steps : ℕ → Hooks.HookStep) (d : Dispatch) :
    HookOutcome :=
  match hooks.dispatcher with
  | none => {}
  | some dispatcher =>
    let out := (dispatcher.dispatch .preToolUse steps (hookContext d) hooks.configs).1
    { decision := out.decision, reason := out.reason, updatedInput := out.updatedInput }

namespace Pipeline

/-- `Execute` up to the call, with the hooks it runs. -/
def executeHooked (p : Pipeline) (hooks : HookSetup) (steps : ℕ → Hooks.HookStep)
    (safety : SafetyCall) (inv : Invocation) : (ExecuteResult ⊕ Dispatch) × Pipeline :=
  match p.bindCall inv with
  | .error r => (.inl r, p)
  | .ok d => p.execute { preToolUse := hooks.preToolUse steps d, safety } inv

/-- The rewritten input that the hooks hand on, if the call comes to them and they do. -/
def rewrite (p : Pipeline) (hooks : HookSetup) (steps : ℕ → Hooks.HookStep)
    (inv : Invocation) : Option String :=
  match p.bindCall inv with
  | .error _ => none
  | .ok d => (hooks.preToolUse steps d).updatedInput

end Pipeline

/-- The input before the hooks is vetted if the call goes on: its tool has validated it, and the
permission chain stops a call that the tool denies. -/
lemma vetted_of_dispatch {p : Pipeline} {env : ExecuteEnv} {gate2 hook : LayerOutcome}
    {inv : Invocation} {d₀ d₁ d : Dispatch} (hbound : p.Bound inv d₀)
    (hhooked : Pipeline.Hooked env d₀ gate2 d₁)
    (h : (p.decideCall env gate2 hook d₁).1 = .inr d) : d₀.tool.Vetted d₀.input := by
  refine ⟨hbound.valid, fun hdeny => ?_⟩
  obtain ⟨hok, hdecision, -⟩ := Pipeline.decideCall_dispatches h
  -- the tool's answer is that of layer 5
  apply Chain.answer_ne_deny hok hdecision .gate2Capability (by simp [Layer.answering])
  exact hhooked.gate2_eq.trans hdeny

/-- A call that goes on is vetted exactly when the rewrite that its hooks hand on is vetted; one
that is not rewritten always is. -/
theorem execute_vetted_iff (p : Pipeline) (hooks : HookSetup) (steps : ℕ → Hooks.HookStep)
    (safety : SafetyCall) (inv : Invocation) (d : Dispatch)
    (h : (p.executeHooked hooks steps safety inv).1 = .inr d) :
    d.tool.Vetted d.input ↔ ∀ input ∈ p.rewrite hooks steps inv, d.tool.Vetted input := by
  unfold Pipeline.executeHooked at h
  unfold Pipeline.rewrite
  split at h
  · nomatch h
  next d₀ hbind₀ =>
  obtain ⟨d₀', gate2, hook, d₁, hbind, hhooks, hdecide⟩ := Pipeline.execute_dispatches h
  obtain rfl : d₀ = d₀' := Except.ok.inj (hbind₀.symm.trans hbind)
  have hbound := Pipeline.bindCall_ok hbind
  have hhooked := Pipeline.askHooks_ok hhooks
  obtain ⟨-, -, htool, hinput, -⟩ := Pipeline.decideCall_dispatches hdecide
  rw [htool, hhooked.tool_eq, hinput, hhooked.input_eq]
  cases (hooks.preToolUse steps d₀).updatedInput with
  | none =>
    -- the input is the one that the tool was asked about
    exact iff_of_true (vetted_of_dispatch hbound hhooked hdecide) (fun _ h => nomatch h)
  | some input => simp

/-! ### A hook that moves a call -/

def pathInput (path : String) : String := "\x7b\"path\":\"" ++ path ++ "\"\x7d"

/-- A tool that writes files: it refuses and denies the path `/etc`. -/
def fileTool (ref : ToolRef) : Tool where
  descriptor := { id := ref, description := "", inputSchema := "", effectClass := .mutating }
  taint := ⟨false, false, false⟩
  checkPermissions input :=
    if input = pathInput "/etc" then { decision := .deny, reason := "outside the workspace" }
    else { decision := .defer, reason := "" }
  validateInput input := if input = pathInput "/etc" then some "outside the workspace" else none

def filePipeline (canonicalDigest : String → String → Except String Digest) : Pipeline where
  cfg :=
    { manifest := [], registry := fun _ => none
      dynamic := some fun _ _ ref => .ok (some (fileTool ref))
      descriptorDigest := fun _ => [], canonicalDigest }
  chain :=
    { denyRules := [], approval := ⟨fun _ => none⟩, standingScopes := []
      profiles := [{ name := "files", version := 1, tools := ["files/write@1"] }]
      safety := { rules := [] } }
  sessions _ := none

def pathHook : HookSetup where
  dispatcher := some
    { handles := fun _ => true, digestHex := id, decodeObject := fun s => .ok [("path", s)] }
  configs :=
    [{ name := "route", event := .preToolUse, kind := .command, updatablePaths := ["path"] }]

/-- The hook moves the call to a path and has no opinion of it. -/
def redirectTo (path : String) : ℕ → Hooks.HookStep := fun _ =>
  { run := .answered { decision := .defer, updatedInput := some (pathInput path) } }

def writeCall (path : String) : Invocation :=
  { tenantID := 7, sessionID := 1, toolName := "files/write@1", input := pathInput path
    autonomyLevel := "autonomous" }

def noOpinion : SafetyCall := { now := 0, leg := .answered .defer "", after := 0 }

/-- A hook moves a call to a path that the tool accepts. -/
theorem redirectedCall_vetted :
    ∃ d, ((filePipeline fun _ _ => .ok [1]).executeHooked pathHook (redirectTo "b") noOpinion
        (writeCall "a")).1 = .inr d ∧
      d.input = pathInput "b" ∧ d.tool.Vetted d.input := by
  obtain ⟨d, hd, hinput, hvetted⟩ : ∃ d, ((filePipeline fun _ _ => .ok [1]).executeHooked pathHook
        (redirectTo "b") noOpinion (writeCall "a")).1 = .inr d ∧
      d.input = pathInput "b" ∧ d.tool.Vetted (pathInput "b") :=
    exists_dispatch (by decide +kernel)
  have hrewrite : (filePipeline fun _ _ => .ok [1]).rewrite pathHook (redirectTo "b")
      (writeCall "a") = some (pathInput "b") := by decide +kernel
  refine ⟨d, hd, hinput, (execute_vetted_iff _ _ _ _ _ d hd).2 fun input hinput => ?_⟩
  obtain rfl : pathInput "b" = input := Option.mem_unique hrewrite hinput
  exact hvetted

/-- A hook moves a call from a path that the tool accepts to `/etc`, which it refuses and denies,
and the call goes on. -/
theorem redirectedCall_runs :
    ∃ d, ((filePipeline fun _ _ => .ok [1]).executeHooked pathHook (redirectTo "/etc") noOpinion
        (writeCall "a")).1 = .inr d ∧
      d.input = pathInput "/etc" ∧ d.tool.validateInput d.input = some "outside the workspace" ∧
      (d.tool.checkPermissions d.input).decision = .deny :=
  exists_dispatch (by decide +kernel)

end NexusAgent.Tools
