import NexusAgent.Runctl.ResumePaths
import NexusAgent.Skills.Bundle

/-!
# Forks of a session

`Fork` (`internal/runctl/fork.go`) makes a new session out of a parent's history up to a sequence
number. Its caller is given the transcript of that history; the child has a row of its own and no
events, and the pipeline of the process stays as it is.

- `fork_detects_iff`: when a fork that reports no divergence is one of the same configuration. The
  digest of a child covers its prompt version and the catalog of the process, but not its model, the
  skills and the MCP catalog of the tenant (`internal/harness/digest.go`).
-/

namespace NexusAgent.Control

open EventLog Kernel Permissions Tools Provider

structure ForkOverrides where
  modelID : String := ""
  systemPromptVersion : String := ""

/-- The fields of `harness.Config` that a fork sets. -/
structure HarnessConfig where
  systemPromptVersion : String
  catalogManifestDigest : Tools.Digest
  promptMode : String

/-- The columns of a session's row that a fork reads or writes. -/
structure SessionRow where
  sessionID : UUID
  sessionKey : String := ""
  tenantID : UUID
  surfaceID : String := ""
  userID : UUID := 0
  agentID : UUID := 0
  agentVersion : ℤ := 0
  harnessDigest : Tools.Digest := []
  dataLabel : String := ""
  routeModelID : String := ""
  autonomyLevel : String := ""
  forkedFromSessionID : Option UUID := none
  forkSeq : Option ℤ := none
  forkOverrides : List (String × String) := []

/-- A forked session is no conversation. -/
def SessionRow.columns (sess : SessionRow) : Columns :=
  { autonomyLevel := sess.autonomyLevel, routeModelID := sess.routeModelID
    conversational := false }

structure ForkResult where
  sessionID : UUID
  parentDigest : Tools.Digest
  childDigest : Tools.Digest
  digestDiverged : Bool
  inheritedTranscript : List Message

/-- What `Fork` is set up with, and what it finds. -/
structure ForkEnv where
  digest : HarnessConfig → Tools.Digest
  catalogManifestDigest : Tools.Digest := []
  load : Except String (SessionRow × List (Event Payload))
  newSessionID : UUID
  /-- Whether the payloads of the events that `Rehydrate` is given can be decrypted. -/
  decrypt : List (Event Payload) → Except String Unit := fun _ => .ok ()
  /-- Whether the unit of work that creates the child goes through. -/
  create : Except String Unit := .ok ()

/-- The events before the first one past a sequence number. -/
def uptoSeq (history : List (Event Payload)) (atSeq : ℤ) : List (Event Payload) :=
  history.takeWhile fun e => e.seq ≤ atSeq

/-- `Fork`: what the caller is given, the row of the child, and the pipeline of the process. -/
def fork (env : ForkEnv) (k : Kernel) (tenantID parentSessionID : UUID) (atSeq : ℤ)
    (overrides : ForkOverrides) (p : Pipeline) :
    Except String (ForkResult × SessionRow) × Pipeline :=
  match env.load with
  | .error err => (.error ("runctl: fork: " ++ err), p)
  | .ok (parentSess, history) =>
    let trimmed := uptoSeq history atSeq
    if trimmed.isEmpty then
      (.error ("runctl: fork: session " ++ parentSessionID.string ++
        " has no events at or before seq " ++ toString atSeq), p)
    else match env.decrypt trimmed with
    | .error err => (.error ("runctl: fork: rehydrate parent transcript: " ++ err), p)
    | .ok () =>
      -- the identifiers of the tool uses are dropped: the child's first turn is no resume
      let transcript := (rehydrate k trimmed).1
      let systemPromptVersion :=
        if overrides.systemPromptVersion = "" then "phase2-v1" else overrides.systemPromptVersion
      let childDigest := env.digest
        { systemPromptVersion, catalogManifestDigest := env.catalogManifestDigest
          promptMode := "phase2-single-shot" }
      let modelID := if overrides.modelID = "" then parentSess.routeModelID else overrides.modelID
      match env.create with
      | .error err => (.error ("runctl: fork: create child session: " ++ err), p)
      | .ok () =>
        (.ok (
          { sessionID := env.newSessionID, parentDigest := parentSess.harnessDigest, childDigest
            digestDiverged := parentSess.harnessDigest ≠ childDigest
            inheritedTranscript := transcript },
          { parentSess with
            sessionID := env.newSessionID, sessionKey := env.newSessionID.string, tenantID
            harnessDigest := childDigest, routeModelID := modelID, autonomyLevel := "read_only"
            forkedFromSessionID := some parentSessionID, forkSeq := some atSeq
            forkOverrides := [("model_id", overrides.modelID),
              ("system_prompt_version", overrides.systemPromptVersion)] }), p)

section Fork

variable {env : ForkEnv} {k : Kernel} {tenantID parentID : UUID} {atSeq : ℤ}
  {overrides : ForkOverrides} {p p' : Pipeline} {result : ForkResult}
  {parentSess child : SessionRow} {history : List (Event Payload)}

def ForkOverrides.promptVersion (overrides : ForkOverrides) : String :=
  if overrides.systemPromptVersion = "" then "phase2-v1" else overrides.systemPromptVersion

lemma fork_eq_ok (hload : env.load = .ok (parentSess, history))
    (h : fork env k tenantID parentID atSeq overrides p = (.ok (result, child), p')) :
    result.sessionID = child.sessionID ∧ p' = p ∧
      (result.digestDiverged = decide (parentSess.harnessDigest ≠ env.digest
        ⟨overrides.promptVersion, env.catalogManifestDigest, "phase2-single-shot"⟩)) ∧
      child.routeModelID =
        if overrides.modelID = "" then parentSess.routeModelID else overrides.modelID := by
  unfold fork at h
  rw [hload] at h
  dsimp only at h
  split at h
  · nomatch (Prod.mk.inj h).1
  split at h
  · nomatch (Prod.mk.inj h).1
  split at h
  · nomatch (Prod.mk.inj h).1
  cases h
  exact ⟨rfl, rfl, rfl, rfl⟩

/-- Whether a fresh run or a driver that restores the legs of the child's own log makes the first
tool call of a child, it finds the legs that the events up to the cut engaged exactly if these
engaged none. -/
theorem fork_inheritsTaint_iff (hload : env.load = .ok (parentSess, history))
    (h : fork env k tenantID parentID atSeq overrides p = (.ok (result, child), p'))
    (hnew : p.sessions result.sessionID = none) {r : Row} (hr : r.log.events = [])
    {q : Pipeline} (hq : q = p' ∨ q = seedFromLog child.sessionID child.columns r p') :
    (∀ e ∈ uptoSeq history atSeq, e.type = .taintTransition →
        e.payload.engaged ≤ (q.stateFor child.sessionID child.autonomyLevel).1.taintState) ↔
      ∀ e ∈ uptoSeq history atSeq, e.type = .taintTransition → e.payload.engaged = {} := by
  obtain ⟨hid, rfl, -⟩ := fork_eq_ok hload h
  rw [hid] at hnew
  have hfresh : (p'.stateFor child.sessionID child.autonomyLevel).1.taintState = ⊥ := by
    unfold Pipeline.stateFor
    rw [hnew]
    rfl
  have hempty : (q.stateFor child.sessionID child.autonomyLevel).1.taintState = ⊥ := by
    rcases hq with rfl | rfl
    · exact hfresh
    · -- the child has no events to restore legs from
      show ((p'.seedTaint child.sessionID child.autonomyLevel (rehydrateTaint
        r.log.events)).stateFor child.sessionID child.autonomyLevel).1.taintState = ⊥
      rw [stateFor_seedTaint, hfresh, hr]
      rfl
  simp only [hempty, le_bot_iff]
  rfl

/-- A parent with these events. -/
def forkOf (events : List (Event Payload)) : ForkEnv :=
  { digest := fun c => c.catalogManifestDigest, newSessionID := 2
    load := .ok ({ sessionID := 1, tenantID := 7, autonomyLevel := "supervised" }, events) }

def oneMessage : List (Event Payload) :=
  [{ eventID := 1, sessionID := 1, seq := 1, type := .userMessage, actor := .user
     payload := .userMessage "hi" }]

/-- A child of a session that only heard its user has nothing to inherit. -/
theorem fork_untainted_inherits :
    ∃ result child, fork (forkOf oneMessage) {} 7 1 1 {} restarted =
        (.ok (result, child), restarted) ∧
      ∀ e ∈ uptoSeq oneMessage 1, e.type = .taintTransition →
        e.payload.engaged ≤
          (restarted.stateFor child.sessionID child.autonomyLevel).1.taintState := by
  obtain ⟨result, child, h⟩ : ∃ result child,
      fork (forkOf oneMessage) {} 7 1 1 {} restarted = (.ok (result, child), restarted) :=
    ⟨_, _, rfl⟩
  exact ⟨result, child, h,
    (fork_inheritsTaint_iff rfl h rfl (r := {}) rfl (.inl rfl)).2 (by decide)⟩

/-- A child of a session that has read untrusted input starts as if it had not. -/
theorem fork_losesTaint :
    ∃ result child, fork (forkOf taintedRow.log.events) {} 7 1 1 {} restarted =
        (.ok (result, child), restarted) ∧
      rehydrateTaint (uptoSeq taintedRow.log.events 1) = { untrustedInput := true } ∧
      (restarted.stateFor child.sessionID child.autonomyLevel).1.taintState = {} :=
  ⟨_, _, rfl, by decide +kernel, by decide +kernel⟩

/-! ### Divergence -/

/-- `harness.Config`: what determines the behaviour of a session, apart from its model. -/
structure Harness extends HarnessConfig where
  skillSetDigest : Tools.Digest := []
  safetyPolicyVersion : String := ""
  approvalPolicyVersion : String := ""
  mcpCatalogDigest : Tools.Digest := []

/-- What `Digest` hashes: one line for each field. -/
def Harness.text (c : Harness) : String :=
  "system_prompt_version=" ++ c.systemPromptVersion ++ "\n" ++
  "catalog_manifest_digest=" ++ Skills.hex c.catalogManifestDigest ++ "\n" ++
  "skill_set_digest=" ++ Skills.hex c.skillSetDigest ++ "\n" ++
  "safety_policy_version=" ++ c.safetyPolicyVersion ++ "\n" ++
  "approval_policy_version=" ++ c.approvalPolicyVersion ++ "\n" ++
  "prompt_mode=" ++ c.promptMode ++ "\n" ++
  "mcp_catalog_digest=" ++ Skills.hex c.mcpCatalogDigest ++ "\n"

/-- What a session is pinned to: `Launch`, the scheduler and `Fork` set no policy versions, and one
prompt mode. -/
def pinned (version : String) (manifest skills mcp : Tools.Digest) : Harness :=
  { systemPromptVersion := version, catalogManifestDigest := manifest
    promptMode := "phase2-single-shot", skillSetDigest := skills, mcpCatalogDigest := mcp }

/-- A line of hexadecimal digits can be read off the end of a text. -/
lemma hexLine_unique {x y key : String} {bs cs : Tools.Digest} (hkey : '\n' ∉ key.toList)
    (h : x ++ "\n" ++ key ++ Skills.hex bs = y ++ "\n" ++ key ++ Skills.hex cs) :
    x = y ∧ bs = cs := by
  have hline (bs : Tools.Digest) : '\n' ∉ key.toList ++ (Skills.hex bs).toList := by
    simp [hkey, Skills.newline_notMem_hex]
  replace h := congrArg String.toList h
  simp only [String.toList_append, List.append_assoc] at h
  obtain ⟨hxy, hhex⟩ := last_unique (hline bs) (hline cs) h
  have hbs := String.toList_inj.1 (List.append_cancel_left hhex)
  exact ⟨String.toList_inj.1 hxy, Skills.hex_inj hbs⟩

/-- What a session is pinned to can be read off the text: only the prompt version, which comes
first, can have a line break. -/
lemma pinned_text_inj {version version' : String}
    {manifest skills mcp manifest' skills' mcp' : Tools.Digest}
    (h : (pinned version manifest skills mcp).text =
      (pinned version' manifest' skills' mcp').text) :
    pinned version manifest skills mcp = pinned version' manifest' skills' mcp' := by
  dsimp only [Harness.text, pinned] at h
  obtain ⟨h, hmcp⟩ := hexLine_unique (by decide) ((String.append_left_inj _).1 h)
  -- the policy versions and the prompt mode are the same
  iterate 9 replace h := (String.append_left_inj _).1 h
  obtain ⟨h, hskills⟩ := hexLine_unique (by decide) h
  obtain ⟨h, hmanifest⟩ := hexLine_unique (by decide) h
  rw [(String.append_right_inj _).1 h, hmanifest, hskills, hmcp]

/-- A fork that reports no divergence is one of the same model, prompt version, catalog, skills and
MCP catalog exactly if, where it is pinned to what its parent was pinned to, it overrides no model
and the tenant has neither skills nor an MCP catalog by now. -/
theorem fork_detects_iff {sum256 : String → Tools.Digest} (hsum : Function.Injective sum256)
    (hdigest : env.digest = fun c => sum256 (Harness.text { toHarnessConfig := c }))
    (hload : env.load = .ok (parentSess, history))
    {version : String} {manifest skills mcp : Tools.Digest}
    (hparent : parentSess.harnessDigest = sum256 (pinned version manifest skills mcp).text)
    (h : fork env k tenantID parentID atSeq overrides p = (.ok (result, child), p'))
    (skills' mcp' : Tools.Digest) :
    (result.digestDiverged = false → child.routeModelID = parentSess.routeModelID ∧
        pinned overrides.promptVersion env.catalogManifestDigest skills' mcp' =
          pinned version manifest skills mcp) ↔
      (pinned version manifest skills mcp =
          pinned overrides.promptVersion env.catalogManifestDigest [] [] →
        (overrides.modelID = "" ∨ overrides.modelID = parentSess.routeModelID) ∧
          skills' = [] ∧ mcp' = []) := by
  obtain ⟨-, -, hdiverged, hmodel⟩ := fork_eq_ok hload h
  have hsame : result.digestDiverged = false ↔ pinned version manifest skills mcp =
      pinned overrides.promptVersion env.catalogManifestDigest [] [] := by
    rw [hdiverged, hparent, hdigest, decide_eq_false_iff_not, not_not]
    constructor
    · exact fun heq => pinned_text_inj (hsum heq)
    · exact fun heq => congrArg (sum256 ∘ Harness.text) heq
  rw [hsame]
  refine imp_congr_right fun heq => and_congr ?_ ?_
  · rw [hmodel]
    split_ifs with hnone <;> simp [hnone]
  · rw [heq]
    simp [pinned]

def pinnedSession : SessionRow :=
  { sessionID := 1, tenantID := 7, routeModelID := "small"
    harnessDigest := textBytes (pinned "phase2-v1" [] [] []).text }

def pinnedParent : ForkEnv :=
  { digest := fun c => textBytes (Harness.text { toHarnessConfig := c }), newSessionID := 2
    load := .ok (pinnedSession, oneMessage) }

/-- A fork without overrides, by a tenant without skills, is one of the same configuration. -/
theorem fork_plain_reproduces :
    ∃ result child, fork pinnedParent {} 7 1 1 {} restarted = (.ok (result, child), restarted) ∧
      (result.digestDiverged = false → child.routeModelID = "small" ∧
        pinned (ForkOverrides.promptVersion {}) [] [] [] = pinned "phase2-v1" [] [] []) := by
  obtain ⟨result, child, h⟩ : ∃ result child,
      fork pinnedParent {} 7 1 1 {} restarted = (.ok (result, child), restarted) := ⟨_, _, rfl⟩
  have hsum : Function.Injective textBytes := fun _ _ => textBytes_inj
  have hdigest : pinnedParent.digest = fun c => textBytes (Harness.text { toHarnessConfig := c }) :=
    rfl
  have hload : pinnedParent.load = .ok (pinnedSession, oneMessage) := rfl
  have hparent : pinnedSession.harnessDigest =
      textBytes (pinned "phase2-v1" [] [] []).text := rfl
  exact ⟨result, child, h, (fork_detects_iff hsum hdigest hload hparent h [] []).2 fun _ =>
    ⟨.inl rfl, rfl, rfl⟩⟩

/-- A fork with another model reports no divergence. -/
theorem fork_model_undetected :
    ∃ result child, fork pinnedParent {} 7 1 1 { modelID := "large" } restarted =
        (.ok (result, child), restarted) ∧
      result.digestDiverged = false ∧ child.routeModelID = "large" := by
  obtain ⟨result, child, h⟩ : ∃ result child, fork pinnedParent {} 7 1 1 { modelID := "large" }
      restarted = (.ok (result, child), restarted) := ⟨_, _, rfl⟩
  obtain ⟨-, -, hdiverged, hmodel⟩ := fork_eq_ok rfl h
  refine ⟨result, child, h, hdiverged.trans ?_, hmodel⟩
  simp [pinnedParent, pinnedSession, pinned, ForkOverrides.promptVersion]

end Fork

end NexusAgent.Control
