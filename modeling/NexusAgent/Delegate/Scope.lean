import NexusAgent.Lib.Machine
import NexusAgent.Plan.Validate
import NexusAgent.Tools.Gates

/-!
# The scope of a delegation

A delegation names the tools that its child is granted. The delegate tool
(`internal/tools/builtin/delegate.go`) checks that each of them is registered and admitted, the
validation of a plan that those of a fan-out step are among the plan's own, and `Spawn`
(`internal/delegate/spawn.go`) records them with the delegation. Nothing reads them again: the
child's calls pass the same pipeline as all others, with the same manifest, registry and profiles.

- `offers_of_passed`: what the pipeline itself asks of a tool, for a call to go on or to wait for an
  approval.
- `calls_offered`: in every run, every tool that was called is one that the pipeline offers.
-/

namespace NexusAgent.Delegate

open Permissions Tools

/-! ### The delegate tool -/

def delegateRef : ToolRef := { ns := "platform", name := "delegate", version := "v1" }

def maxDelegationDepth : ℕ := 1

def maxConcurrentDelegations : ℕ := 3

def maxDelegationsPerRun : ℕ := 16

structure DelegateInput where
  agentID : String
  task : String
  scopeGrant : List String
  returnSchema : String := ""

/-- What the tool is wired to, and what its lookups return for the calling session: the depth, and
the open delegations and all of them. -/
structure DelegateWiring where
  decode : String → Except String DelegateInput
  hasLedger : Bool := true
  parentContext : Except String ℕ
  countForRoot : Except String (ℕ × ℕ)
  hasRegistry : Bool := true

def denied (reason : String) : PermissionResult := { decision := .deny, reason }

def DelegateWiring.checkBounds (w : DelegateWiring) : Except PermissionResult Unit := do
  let depth ← w.parentContext.mapError fun e =>
    denied ("delegation bounds lookup failed (fail closed): " ++ e)
  if maxDelegationDepth < depth + 1 then
    throw (denied ("delegation depth bound exceeded: a session at depth " ++ toString depth ++
      " may not delegate further"))
  let (opened, total) ← w.countForRoot.mapError fun e =>
    denied ("delegation bounds lookup failed (fail closed): " ++ e)
  if maxConcurrentDelegations ≤ opened then
    throw (denied ("concurrent delegation bound exceeded: " ++ toString opened ++
      " already open (max " ++ toString maxConcurrentDelegations ++ ")"))
  if maxDelegationsPerRun ≤ total then
    throw (denied ("per-run delegation bound exceeded: " ++ toString total ++
      " already created (max " ++ toString maxDelegationsPerRun ++ ")"))

def checkEntry (registry : ToolRef → Option ToolEntry) (s : String) :
    Except PermissionResult Unit := do
  let ref ← (parseToolRef s).mapError fun e =>
    denied ("scope_grant entry " ++ Go.quote s ++ " is not a valid tool ref: " ++ e)
  match registry ref with
  | none =>
    throw (denied ("scope_grant names " ++ Go.quote s ++ ", which is not in the admitted catalog"))
  | some entry =>
    if entry.status ≠ .clean then
      throw (denied ("scope_grant names " ++ Go.quote s ++ ", which is not admitted clean"))

def DelegateWiring.checkPermissions (w : DelegateWiring) (registry : ToolRef → Option ToolEntry)
    (input : String) : PermissionResult :=
  let checks : Except PermissionResult Unit := do
    let req ← (w.decode input).mapError fun e => denied ("invalid input: " ++ e)
    if !w.hasLedger then throw (denied "delegation ledger not wired (fail closed)")
    w.checkBounds
    if !w.hasRegistry then throw (denied "tool registry not wired (fail closed)")
    req.scopeGrant.forM (checkEntry registry)
  match checks with
  | .error r => r
  | .ok () => { decision := .defer, reason := "" }

def DelegateWiring.validateInput (w : DelegateWiring) (input : String) : Option String :=
  match w.decode input with
  | .error e => some ("invalid input: " ++ e)
  | .ok req =>
    if req.agentID = "" ∨ req.task = "" then some "agent_id and task are required"
    else if req.scopeGrant = [] then some "scope_grant must name at least one tool ref"
    else none

def delegateDescriptor : Descriptor where
  id := delegateRef
  description := "Delegates a bounded sub-task to a fresh child agent session, returning its " ++
    "result once it completes."
  inputSchema := "\x7b\"type\":\"object\",\"properties\":\x7b\"agent_id\":\x7b\"type\":" ++
    "\"string\"\x7d,\"task\":\x7b\"type\":\"string\"\x7d,\"scope_grant\":\x7b\"type\":\"array\"," ++
    "\"items\":\x7b\"type\":\"string\"\x7d\x7d,\"return_schema\":\x7b\"type\":\"object\"\x7d\x7d" ++
    ",\"required\":[\"agent_id\",\"task\",\"scope_grant\"]\x7d"
  effectClass := .mutating

def delegateTool (w : DelegateWiring) (registry : ToolRef → Option ToolEntry) : Tool where
  descriptor := delegateDescriptor
  taint := ⟨true, true, true⟩
  checkPermissions := w.checkPermissions registry
  validateInput := w.validateInput

/-! ### Delegations and the calls of all sessions -/

/-- A pipeline whose delegate tool, if it is registered, is wired as given. -/
def wire (p : Pipeline) (w : DelegateWiring) : Pipeline :=
  { p with
    cfg := { p.cfg with
      registry := fun ref =>
        if ref = delegateRef then
          (p.cfg.registry ref).map fun e => { e with tool := delegateTool w p.cfg.registry }
        else p.cfg.registry ref } }

structure Grant where
  child : UUID
  scopeGrant : List String
  deriving DecidableEq

/-- A process with the delegations that it has made, the calls that wait for an approval, by session
and tool name, and the tools that were called, by session. -/
structure Fleet where
  pipeline : Pipeline
  /-- The delegation service folds the parent's legs into its children. -/
  foldsTaint : Bool := true
  grants : List Grant := []
  asked : List (UUID × String) := []
  called : List (UUID × ToolRef) := []

namespace Fleet

/-- An identifier that no session has. -/
def Fresh (s : Fleet) (child : UUID) : Prop :=
  (∀ g ∈ s.grants, g.child ≠ child) ∧ (∀ a ∈ s.asked, a.1 ≠ child) ∧ ∀ c ∈ s.called, c.1 ≠ child

instance (s : Fleet) (child : UUID) : Decidable (s.Fresh child) :=
  inferInstanceAs (Decidable (_ ∧ _ ∧ _))

/-- `Spawn`, as far as tool calls can tell: the grant is recorded, and the child begins with the
legs of its parent. -/
def spawn (s : Fleet) (parent child : UUID) (scopeGrant : List String) : Fleet :=
  let legs := s.pipeline.taintStateFor parent
  { s with
    pipeline := if s.foldsTaint then legs.2.foldTaint child legs.1 else s.pipeline
    grants := s.grants ++ [{ child, scopeGrant }] }

/-- The call of a tool that was dispatched. That of the delegate tool spawns a child, unless the
spawn fails. -/
def call (s : Fleet) (w : DelegateWiring) (d : Dispatch) (child : Option UUID) : Fleet :=
  let s := { s with called := s.called ++ [(d.inv.sessionID, d.ref)] }
  if d.ref = delegateRef then
    match w.decode d.input, child with
    | .ok req, some child => s.spawn d.inv.sessionID child req.scopeGrant
    | _, _ => s
  else s

/-- What comes of an invocation: an answer, which may be that an approval is needed, or a call. -/
def after (s : Fleet) (w : DelegateWiring) (inv : Invocation) (child : Option UUID)
    (out : (ExecuteResult ⊕ Dispatch) × Pipeline) : Fleet :=
  let s := { s with pipeline := { out.2 with cfg := s.pipeline.cfg } }
  match out.1 with
  | .inl r =>
    if r.awaitingApproval then { s with asked := s.asked ++ [(inv.sessionID, inv.toolName)] } else s
  | .inr d => s.call w d child

end Fleet

/-- What can happen. The wiring holds what the delegate tool finds in this call, and `child` is the
identifier that is drawn if a child is spawned, `none` if the spawn fails. -/
inductive FleetAction
  | execute (env : ExecuteEnv) (inv : Invocation) (w : DelegateWiring) (child : Option UUID)
  /-- An approval was granted: the call runs, possibly with another input. -/
  | executeApproved (inv : Invocation) (digest : Tools.Digest) (w : DelegateWiring)
      (child : Option UUID)
  | fanout (plan : Plans.Plan) (stepID : String) (parent child : UUID)
  | seedTaint (sessionID : UUID) (autonomyLevel : String) (engaged : TaintState)

/-- The delegations and the tool calls of one process. -/
def fleet : Machine Fleet FleetAction where
  step s
    | .execute env inv w child =>
      if ∀ c ∈ child, s.Fresh c then
        some (s.after w inv child ((wire s.pipeline w).execute env inv))
      else none
    | .executeApproved inv digest w child =>
      if (inv.sessionID, inv.toolName) ∈ s.asked ∧ ∀ c ∈ child, s.Fresh c then
        some (s.after w inv child ((wire s.pipeline w).executeApproved inv digest))
      else none
    | .fanout plan stepID parent child =>
      if Plans.validateScopeSubset plan = .ok () ∧ s.Fresh child then
        ((plan.stepByID stepID).bind (·.delegateFanout)).map fun c =>
          s.spawn parent child c.scopeGrant
      else none
    | .seedTaint sessionID autonomyLevel engaged =>
      some { s with pipeline := s.pipeline.seedTaint sessionID autonomyLevel engaged }

/-! ### What the pipeline offers -/

def Offers (p : Pipeline) (sessionID : UUID) (ref : ToolRef) : Prop :=
  (∃ w tenantID tool dynamic, (wire p w).resolveTool tenantID sessionID ref = .ok (tool, dynamic) ∧
    (wire p w).admission ref dynamic = .ok ()) ∧
  (resolveProfiles p.chain.profiles ref.string).decision ≠ .deny

variable {w : DelegateWiring} {d : Dispatch} {inv : Invocation} {p q : Pipeline} {ref : ToolRef}
  {sessionID : UUID}

lemma offers_congr (hcfg : q.cfg = p.cfg) (hprofiles : q.chain.profiles = p.chain.profiles)
    (h : Offers q sessionID ref) : Offers p sessionID ref := by
  unfold Offers wire Pipeline.resolveTool Pipeline.admission at h ⊢
  rw [hcfg, hprofiles] at h
  exact h

theorem offers_of_passed {env : ExecuteEnv}
    (h : ∀ r, ((wire p w).execute env inv).1 = .inl r → r.awaitingApproval = true) :
    ∃ ref, parseToolRef inv.toolName = .ok ref ∧ Offers p inv.sessionID ref := by
  unfold Pipeline.execute at h
  cases hbind : (wire p w).bindCall inv with
  | error r =>
    rw [hbind] at h
    obtain ⟨reason, rfl⟩ := Pipeline.isRefusal_of_bindCall hbind
    nomatch h _ rfl
  | ok d =>
    rw [hbind] at h
    dsimp only at h
    cases hhooks : (wire p w).askHooks env d with
    | error r =>
      rw [hhooks] at h
      obtain ⟨reason, rfl⟩ := Pipeline.isRefusal_of_askHooks hhooks
      nomatch h _ rfl
    | ok asked =>
      obtain ⟨gate2, hook, d₁⟩ := asked
      rw [hhooks] at h
      have hbound := Pipeline.bindCall_ok hbind
      have hhooked := Pipeline.askHooks_ok hhooks
      obtain ⟨dynamic, hresolve, hadmission⟩ := hbound.resolved
      refine ⟨d.ref, hbound.ref, ⟨w, inv.tenantID, d.tool, dynamic, hresolve, hadmission⟩, ?_⟩
      -- layer 4 is one of those that did not refuse the call
      have hprofile := (Pipeline.decideCall_passed h .gate1Profile (by decide)).2
      rw [← hhooked.ref_eq]
      exact hprofile

lemma offers_of_execute {env : ExecuteEnv} (h : ((wire p w).execute env inv).1 = .inr d) :
    Offers p d.inv.sessionID d.ref := by
  obtain ⟨ref, href, hoffers⟩ : ∃ ref, parseToolRef inv.toolName = .ok ref ∧
      Offers p inv.sessionID ref := by
    apply offers_of_passed (w := w)
    intro r hr
    nomatch h.symm.trans hr
  obtain ⟨d₀, gate2, hook, d₁, hbind, hhooks, hdecide⟩ := Pipeline.execute_dispatches h
  have hbound := Pipeline.bindCall_ok hbind
  have hhooked := Pipeline.askHooks_ok hhooks
  -- neither the hooks nor the chain change which tool is called, or for whom
  have hinv : d.inv = inv := by
    rw [(Pipeline.decideCall_dispatches hdecide).2.2.2.2, hhooked.inv_eq, hbound.inv_eq]
  have hd : d.ref = ref := by
    rw [(Pipeline.decideCall_allowed hdecide).2.1, hhooked.ref_eq]
    exact Except.ok.inj (hbound.ref.symm.trans href)
  rw [hinv, hd]
  exact hoffers

lemma executeApproved_ref {digest : Tools.Digest} (h : (p.executeApproved inv digest).1 = .inr d)
    (href : parseToolRef inv.toolName = .ok ref) : d.inv = inv ∧ d.ref = ref := by
  unfold Pipeline.executeApproved at h
  split at h
  · nomatch h
  next d₀ hbind =>
  have hbound := Pipeline.bindCall_ok hbind
  split at h
  · nomatch h
  · obtain rfl := Sum.inr.inj h
    exact ⟨hbound.inv_eq, Except.ok.inj (hbound.ref.symm.trans href)⟩

/-! ### What no step changes -/

/-- Two pipelines that agree on all that decides which tools they offer. -/
structure SameTools (p q : Pipeline) : Prop where
  cfg : q.cfg = p.cfg
  profiles : q.chain.profiles = p.chain.profiles

lemma SameTools.trans {r : Pipeline} (h : SameTools p q) (h' : SameTools q r) : SameTools p r :=
  ⟨h'.cfg.trans h.cfg, h'.profiles.trans h.profiles⟩

lemma sameTools_stateFor (p : Pipeline) (sessionID : UUID) (autonomyLevel : String) :
    SameTools p (p.stateFor sessionID autonomyLevel).2 := by
  unfold Pipeline.stateFor
  cases p.sessions sessionID <;> exact ⟨rfl, rfl⟩

lemma sameTools_seedTaint (p : Pipeline) (sessionID : UUID) (autonomyLevel : String)
    (engaged : TaintState) : SameTools p (p.seedTaint sessionID autonomyLevel engaged) :=
  ⟨(sameTools_stateFor p sessionID autonomyLevel).cfg,
    (sameTools_stateFor p sessionID autonomyLevel).profiles⟩

lemma sameTools_spawn (s : Fleet) (parent child : UUID) (scopeGrant : List String) :
    SameTools s.pipeline (s.spawn parent child scopeGrant).pipeline := by
  unfold Fleet.spawn
  split
  · exact (sameTools_stateFor s.pipeline parent "").trans (sameTools_seedTaint _ child "" _)
  · exact ⟨rfl, rfl⟩

lemma execute_profiles (p : Pipeline) (w : DelegateWiring) (env : ExecuteEnv) (inv : Invocation) :
    ((wire p w).execute env inv).2.chain.profiles = p.chain.profiles := by
  obtain ⟨safety, hchain⟩ := (wire p w).execute_chain env inv
  rw [hchain]
  rfl

lemma executeApproved_profiles (p : Pipeline) (w : DelegateWiring) (inv : Invocation)
    (digest : Tools.Digest) :
    ((wire p w).executeApproved inv digest).2.chain.profiles = p.chain.profiles := by
  unfold Pipeline.executeApproved
  split
  · rfl
  · split
    · rfl
    · exact (sameTools_stateFor (wire p w) inv.sessionID inv.autonomyLevel).profiles

/-! ### Every run -/

/-- What holds in every state: the tools on offer are those of the beginning, and all that was asked
or called is among them. -/
structure Kept (p : Pipeline) (s : Fleet) : Prop where
  tools : SameTools p s.pipeline
  asked : ∀ a ∈ s.asked, ∃ ref, parseToolRef a.2 = .ok ref ∧ Offers p a.1 ref
  called : ∀ c ∈ s.called, Offers p c.1 c.2

lemma SameTools.offers (h : SameTools p q) (hoffers : Offers q sessionID ref) :
    Offers p sessionID ref :=
  offers_congr h.cfg h.profiles hoffers

variable {p : Pipeline} {s : Fleet}

lemma Kept.spawn (h : Kept p s) (parent child : UUID) (scopeGrant : List String) :
    Kept p (s.spawn parent child scopeGrant) where
  tools := h.tools.trans (sameTools_spawn s parent child scopeGrant)
  asked := h.asked
  called := h.called

lemma Kept.call (h : Kept p s) {child : Option UUID} (hd : Offers p d.inv.sessionID d.ref) :
    Kept p (s.call w d child) := by
  have hcalled : Kept p { s with called := s.called ++ [(d.inv.sessionID, d.ref)] } :=
    { tools := h.tools, asked := h.asked
      called := List.forall_mem_snoc h.called hd }
  unfold Fleet.call
  split
  · split
    · exact hcalled.spawn _ _ _
    · exact hcalled
  · exact hcalled

/-- What an invocation leads to keeps the invariant, if what it waits for and what it calls are
tools on offer. -/
lemma Kept.after (h : Kept p s) {child : Option UUID} {out : (ExecuteResult ⊕ Dispatch) × Pipeline}
    (hprofiles : out.2.chain.profiles = s.pipeline.chain.profiles)
    (hasked : ∀ r, out.1 = .inl r → r.awaitingApproval = true →
      ∃ ref, parseToolRef inv.toolName = .ok ref ∧ Offers p inv.sessionID ref)
    (hcalled : ∀ d, out.1 = .inr d → Offers p d.inv.sessionID d.ref) :
    Kept p (s.after w inv child out) := by
  have hmoved : Kept p { s with pipeline := { out.2 with cfg := s.pipeline.cfg } } :=
    { tools := ⟨h.tools.cfg, hprofiles.trans h.tools.profiles⟩, asked := h.asked
      called := h.called }
  unfold Fleet.after
  split
  next r hr =>
    split
    next hawaiting =>
      exact { hmoved with
        asked := List.forall_mem_snoc hmoved.asked (hasked r hr hawaiting) }
    next => exact hmoved
  next d hd => exact hmoved.call (hcalled d hd)

lemma Kept.step {s' : Fleet} {a : FleetAction} (h : Kept p s) (hst : fleet.step s a = some s') :
    Kept p s' := by
  cases a with
  | execute env inv w child =>
    obtain ⟨-, hst⟩ := Option.ite_none_right_eq_some.1 hst
    cases hst
    refine h.after (execute_profiles s.pipeline w env inv) (fun r hr hawaiting => ?_)
      fun d hd => h.tools.offers (offers_of_execute hd)
    obtain ⟨ref, href, hoffers⟩ := offers_of_passed (p := s.pipeline) fun r' hr' =>
      Sum.inl.inj (hr.symm.trans hr') ▸ hawaiting
    exact ⟨ref, href, h.tools.offers hoffers⟩
  | executeApproved inv digest w child =>
    obtain ⟨⟨hmem, -⟩, hst⟩ := Option.ite_none_right_eq_some.1 hst
    cases hst
    obtain ⟨ref, href, hoffers⟩ := h.asked _ hmem
    refine h.after (executeApproved_profiles s.pipeline w inv digest) (fun r hr hawaiting => ?_)
      fun d hd => ?_
    · exact ⟨ref, href, hoffers⟩
    · -- the tool on offer when the approval was asked for
      obtain ⟨hinv, hd⟩ := executeApproved_ref hd href
      rw [hinv, hd]
      exact hoffers
  | fanout plan stepID parent child =>
    obtain ⟨-, hst⟩ := Option.ite_none_right_eq_some.1 hst
    obtain ⟨c, -, rfl⟩ := Option.map_eq_some_iff.1 hst
    exact h.spawn parent child c.scopeGrant
  | seedTaint sessionID autonomyLevel engaged =>
    cases hst
    exact { h with tools := h.tools.trans (sameTools_seedTaint _ _ _ _) }

/-- A process that has made no delegation yet, and no call. -/
def Fleet.start (p : Pipeline) (foldsTaint : Bool) : Fleet := { pipeline := p, foldsTaint }

theorem calls_offered {foldsTaint : Bool} (h : fleet.Reaches (Fleet.start p foldsTaint) s) :
    ∀ c ∈ s.called, Offers p c.1 c.2 := by
  have hstart : Kept p (Fleet.start p foldsTaint) :=
    { tools := ⟨rfl, rfl⟩, asked := List.forall_mem_nil _, called := List.forall_mem_nil _ }
  exact (h.invariant (I := Kept p) hstart fun _ _ _ hkept hst => hkept.step hst).called

def Grant.InScope (g : Grant) (ref : ToolRef) : Prop :=
  ∃ text ∈ g.scopeGrant, parseToolRef text = .ok ref

instance (g : Grant) (ref : ToolRef) : Decidable (g.InScope ref) :=
  inferInstanceAs (Decidable (∃ text ∈ g.scopeGrant, parseToolRef text = .ok ref))

/-- In every run, a child calls only tools that it was granted, if the pipeline offers no other
tool to the child. -/
theorem calls_inScope {foldsTaint : Bool} (h : fleet.Reaches (Fleet.start p foldsTaint) s) :
    ∀ g ∈ s.grants, (∀ ref, Offers p g.child ref → g.InScope ref) →
      ∀ c ∈ s.called, c.1 = g.child → g.InScope c.2 := by
  intro g _ hoffers c hc hchild
  apply hoffers
  rw [← hchild]
  exact calls_offered h c hc

/-! ### A child among the tools of its parent -/

def readTool (ref : ToolRef) : Tool where
  descriptor := { id := ref, description := "", inputSchema := "", effectClass := .readOnly }
  taint := ⟨false, false, false⟩
  checkPermissions _ := { decision := .defer, reason := "" }
  validateInput _ := none

def filesRead : ToolRef := { ns := "files", name := "read", version := "v1" }

def filesList : ToolRef := { ns := "files", name := "list", version := "v1" }

/-- The delegate tool as it finds a session that has not delegated yet. -/
def firstDelegation (scopeGrant : List String) : DelegateWiring where
  decode _ := .ok { agentID := "helper", task := "read the notes", scopeGrant }
  parentContext := .ok 0
  countForRoot := .ok (0, 0)

/-- Two tools for files and the delegate tool, all admitted and in the one profile. Files have a
standing scope. -/
def filesPipeline : Pipeline where
  cfg :=
    { manifest := [⟨delegateRef, []⟩, ⟨filesRead, []⟩, ⟨filesList, []⟩]
      registry := fun ref => some { tool := readTool ref, status := .clean }
      dynamic := none, descriptorDigest := fun _ => [], canonicalDigest := fun _ _ => .ok [1] }
  chain :=
    { denyRules := [], approval := ⟨fun _ => none⟩
      standingScopes := [{ name := "files", toolPattern := "files/*" }]
      profiles :=
        [{ name := "main", version := 1
           tools := ["platform/delegate@v1", "files/read@v1", "files/list@v1"] }]
      safety := { rules := [] } }
  sessions _ := none

/-- Session 1 delegates, which is approved, and the child, session 2, lists files. -/
def delegateAndList (scopeGrant : List String) : List FleetAction :=
  let env : ExecuteEnv :=
    { preToolUse := {}, safety := { now := 0, leg := .answered .defer "", after := 0 } }
  let delegate : Invocation :=
    { tenantID := 7, sessionID := 1, toolName := "platform/delegate@v1", input := "scope"
      autonomyLevel := "autonomous" }
  let list : Invocation :=
    { tenantID := 7, sessionID := 2, toolName := "files/list@v1", input := ""
      autonomyLevel := "autonomous" }
  let w := firstDelegation scopeGrant
  [.execute env delegate w none, .executeApproved delegate [1] w (some 2), .execute env list w none]

/-- A child that may only read files lists them. -/
theorem child_leaves_scope :
    ∃ s g ref, fleet.Reaches (Fleet.start filesPipeline true) s ∧ g ∈ s.grants ∧
      (g.child, ref) ∈ s.called ∧ ¬ g.InScope ref := by
  obtain ⟨s, hreach, hgrant, hcalled⟩ :=
    Machine.Reaches.exists_of_run (M := fleet) (s := Fleet.start filesPipeline true)
      (P := fun s => { child := 2, scopeGrant := ["files/read@v1"] } ∈ s.grants ∧
        (2, filesList) ∈ s.called)
      (delegateAndList ["files/read@v1"]) (by decide +kernel)
  exact ⟨s, _, _, hreach, hgrant, hcalled, by decide +kernel⟩

lemma Offers.exists_mem_manifest (h : Offers p sessionID ref) (hdynamic : p.cfg.dynamic = none) :
    ∃ e ∈ p.cfg.manifest, e.id = ref := by
  obtain ⟨⟨w, tenantID, tool, dynamic, hresolve, -⟩, -⟩ := h
  unfold Pipeline.resolveTool at hresolve
  split at hresolve
  next entry hfind =>
    have hid := List.find?_some hfind
    exact ⟨entry, List.mem_of_find?_eq_some hfind, of_decide_eq_true hid⟩
  next =>
    -- nothing but the dynamic resolver is left
    rw [show (wire p w).cfg.dynamic = none from hdynamic] at hresolve
    nomatch hresolve

/-- A child that is granted all tools of the manifest keeps to its scope. -/
theorem child_keeps_scope :
    ∃ s g, fleet.Reaches (Fleet.start filesPipeline true) s ∧ g ∈ s.grants ∧
      (g.child, filesList) ∈ s.called ∧ ∀ c ∈ s.called, c.1 = g.child → g.InScope c.2 := by
  let scope := ["platform/delegate@v1", "files/read@v1", "files/list@v1"]
  obtain ⟨s, hreach, hgrant, hcalled⟩ :=
    Machine.Reaches.exists_of_run (M := fleet) (s := Fleet.start filesPipeline true)
      (P := fun s => { child := 2, scopeGrant := scope } ∈ s.grants ∧ (2, filesList) ∈ s.called)
      (delegateAndList scope) (by decide +kernel)
  refine ⟨s, _, hreach, hgrant, hcalled, calls_inScope hreach _ hgrant fun ref hoffers => ?_⟩
  obtain ⟨e, he, rfl⟩ := hoffers.exists_mem_manifest rfl
  have hmanifest : ∀ e ∈ filesPipeline.cfg.manifest,
      ({ child := 2, scopeGrant := scope } : Grant).InScope e.id := by
    decide +kernel
  exact hmanifest e he

end NexusAgent.Delegate
