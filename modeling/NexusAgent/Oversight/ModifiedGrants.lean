import NexusAgent.Lib.Bytes
import NexusAgent.Lifecycle.Suspended
import NexusAgent.Taint.Writers
import NexusAgent.Tools.Canonical
import NexusAgent.Tools.Vetting

/-!
# What a modified grant executes

`GrantModified` binds a pending approval to the digest of another input. The resumer hands that
input and the new digest to the kernel, and `ExecuteApproved` computes the digest of what it is
about to run once more (`internal/oversight/approval.go`, `internal/oversight/resume.go`,
`kernel/loop.go`, `internal/tools/execute.go`).
-/

namespace NexusAgent.Oversight

open Kernel Lifecycle TaintLog Tools
open UnitOfWork (bind_ok pure_ok throw_ok commit_cases)

def grantModified (c : Codec) (tenantID approvalID : UUID) (now : ℕ) (decidedBy input : String)
    (script : List (Option UUID)) (db : Store) : Except Err Approval × Store :=
  decide tenantID approvalID now (grantModifiedWork
    (fun toolID input => (c.canonicalDigest toolID input).toOption) approvalID decidedBy input)
    script db

/-- A modified grant binds the approval to the modified input. -/
lemma grantModified_bound {c : Codec} {tenantID approvalID : UUID} {now : ℕ}
    {decidedBy input : String} {script : List (Option UUID)} {db db' : Store} {ap : Approval}
    (h : grantModified c tenantID approvalID now decidedBy input script db = (.ok ap, db')) :
    c.canonicalDigest ap.toolID input = .ok ap.canonicalDigest ∧ ap.grantedInput = some input := by
  unfold grantModified decide inTenant at h
  obtain ⟨e, hc⟩ | ⟨⟨r, lapsed⟩, db₁, script', hc, hwork⟩ := commit_cases .store
    (decideWork tenantID approvalID now _) script db
  · rw [hc] at h
    nomatch h
  rw [hc] at h
  obtain ⟨row, mid, mid', -, -, ⟨-, hlapsed, -⟩ | ⟨-, hlapsed, hfn⟩⟩ := decideWork_cases hwork
  · obtain rfl : lapsed = true := hlapsed
    nomatch h
  · obtain rfl : lapsed = false := hlapsed
    cases h
    unfold grantModifiedWork at hfn
    dsimp only at hfn
    cases hdigest : c.canonicalDigest row.toolID input with
    | error e =>
      rw [hdigest] at hfn
      exact (throw_ok hfn).elim
    | ok newDigest =>
      rw [hdigest] at hfn
      obtain ⟨_, _, -, hfn⟩ := bind_ok.1 hfn
      obtain ⟨_, _, -, hfn⟩ := bind_ok.1 hfn
      obtain ⟨rfl, -⟩ := pure_ok.1 hfn
      exact ⟨hdigest, rfl⟩

/-- The call that `Resume` has executed for a resolution that grants. -/
def resumedCall (res : PendingResolution) : ToolUseRequest :=
  { toolName := res.toolID
    input := if res.decision = .grantedModified then res.modifiedInput else res.input }

/-- An approved call goes on to its tool exactly when it passes steps 1 to 5 with the digest. -/
lemma executeApproved_iff {p : Pipeline} {inv : Invocation} {digest : Tools.Digest} {d : Dispatch} :
    (p.executeApproved inv digest).1 = .inr d ↔ p.bindCall inv = .ok d ∧ d.digest = digest := by
  unfold Pipeline.executeApproved
  cases hbind : p.bindCall inv with
  | error r => simp
  | ok d' =>
    dsimp only
    split_ifs with hne
    · refine ⟨nofun, fun ⟨hd, hsame⟩ => absurd hsame ?_⟩
      rwa [← Except.ok.inj hd]
    · simp only [Sum.inr.injEq, Except.ok.injEq]
      exact ⟨fun h => ⟨h, h ▸ not_not.1 hne⟩, And.left⟩

/-- A modified grant that succeeds: what the resumed run executes for it, unless that is refused, is
the approved tool on the modified input, an empty one being read as an empty object; and whatever
call passes with the digest of the grant is of the approved tool and of the JSON value that was
approved. -/
theorem modifiedGrant_runs_approved (c : Codec) (hc : Function.Injective c.sha256)
    (p : Pipeline) (hdigest : p.cfg.canonicalDigest = c.canonicalDigest)
    (tenantID approvalID : UUID) (now : ℕ) (decidedBy input original : String)
    (script : List (Option UUID)) (db db' : Store) (ap : Approval) (rc : ExecContext)
    (res : PendingResolution)
    (hgrant : grantModified c tenantID approvalID now decidedBy input script db = (.ok ap, db'))
    (hres : res = (Decision.grantModified decidedBy input).resolution original ap) :
    (∀ d, (p.executeApproved (invocation (resumedCall res) rc) res.approvedDigest).1 = .inr d →
      parseToolRef ap.toolID = .ok d.ref ∧ d.input = if input = "" then "\x7b\x7d" else input) ∧
    ∀ inv d, (p.executeApproved inv res.approvedDigest).1 = .inr d →
      d.ref.string = ap.toolID ∧ c.SameValue d.input input := by
  subst hres
  obtain ⟨hbound, hgranted⟩ := grantModified_bound hgrant
  constructor
  · intro d h
    have hcall := Pipeline.bindCall_ok (executeApproved_iff.1 h).1
    refine ⟨hcall.ref, ?_⟩
    rw [hcall.input_eq]
    simp [Pipeline.inputOf, invocation, resumedCall, Decision.resolution, hgranted]
  · intro inv d h
    obtain ⟨hbind, hsame⟩ := executeApproved_iff.1 h
    have hcall := (Pipeline.bindCall_ok hbind).digest
    rw [hdigest, hsame] at hcall
    exact Codec.canonicalDigest_binds hc hcall hbound

/-- A JSON library that knows three texts. -/
def pathCodec : Codec where
  decode text :=
    if text = pathInput "a" then .ok (.object [("path", .text "a")])
    else if text = pathInput "b" then .ok (.object [("path", .text "b")])
    else if text = "\x7b\x7d" then .ok (.object [])
    else .error "unexpected end of JSON input"
  sha256 := textBytes

/-- A table with one pending approval. -/
def pendingWrite : Store where
  approvals := AList.singleton 3
    { approvalID := 3, tenantID := 7, sessionID := 1, toolUseEventID := 5, toolID := "files/write@1"
      askKind := "once", canonicalDigest := [], assignee := "ops", status := .pending
      expiresAt := 9 }
  log := EventLog.Log.empty
  sessionOwner _ := none

def supervised : ExecContext := { tenantID := 7, sessionID := 1, autonomyLevel := "supervised" }

theorem modifiedWrite_runs : ∃ ap db' d,
    grantModified pathCodec 7 3 1 "ops" (pathInput "b") [some 0, some 0, some 8, some 0]
      pendingWrite = (.ok ap, db') ∧
    ((filePipeline pathCodec.canonicalDigest).executeApproved (invocation (resumedCall
      ((Decision.grantModified "ops" (pathInput "b")).resolution (pathInput "a") ap)) supervised)
        ap.canonicalDigest).1 = .inr d ∧ d.input = pathInput "b" := by
  refine ⟨_, _, _, rfl, rfl, ?_⟩
  exact ((modifiedGrant_runs_approved pathCodec (fun _ _ h => textBytes_inj h)
    (filePipeline pathCodec.canonicalDigest) rfl 7 3 1 "ops" (pathInput "b") (pathInput "a")
    [some 0, some 0, some 8, some 0] pendingWrite _ _ supervised _ rfl rfl).1 _ rfl).2

end NexusAgent.Oversight
