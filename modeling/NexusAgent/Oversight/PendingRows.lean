import NexusAgent.Oversight.DecidedOnce

/-!
# Which approvals are pending

What the calls on the approval tables do to the pending rows of one session: a row that is created
for it is pending, a decision on the row of another session leaves its rows alone, and a decision
that is refused in time has changed nothing.
-/

namespace NexusAgent.Oversight

variable {db db' : Store} {tenantID sessionID a : UUID} {ap ap' row : Approval}
  {script script' : List (Option UUID)}

lemma mem_pendingOf_insert (hrows : db'.approvals = db.approvals.insert a ap')
    (hother : db.approvals.lookup a ≠ some row) (h : row ∈ db.pendingOf tenantID sessionID) :
    row ∈ db'.pendingOf tenantID sessionID := by
  obtain ⟨⟨b, hb⟩, hrest⟩ := mem_pendingOf.1 h
  have hba : b ≠ a := by
    rintro rfl
    exact hother hb
  refine mem_pendingOf.2 ⟨⟨b, ?_⟩, hrest⟩
  rw [hrows, AList.lookup_insert_ne hba]
  exact hb

lemma Decided.mem_pendingOf (h : Decided db db' a ap ap') (hsession : ap.sessionID ≠ sessionID)
    (hrow : row ∈ db.pendingOf tenantID sessionID) : row ∈ db'.pendingOf tenantID sessionID := by
  apply mem_pendingOf_insert h.rows _ hrow
  intro hsame
  obtain rfl := Option.mem_unique h.row hsame
  exact hsession (Oversight.mem_pendingOf.1 hrow).2.2.1

lemma Created.mem_pendingOf (h : Created db db' ap)
    (hrow : row ∈ db.pendingOf tenantID sessionID) : row ∈ db'.pendingOf tenantID sessionID := by
  apply mem_pendingOf_insert h.rows _ hrow
  rw [h.fresh]
  exact nofun

lemma Decided.keyed (h : Decided db db' a ap ap') (hk : Keyed db) : Keyed db' :=
  hk.insert h.rows (h.key.trans (hk a ap h.row))

lemma Created.keyed (h : Created db db' ap) (hk : Keyed db) : Keyed db' := hk.insert h.rows rfl

lemma Effect.keyed {α : Type} {r : Except Err α × Store} (h : Effect db r) (hk : Keyed db) :
    Keyed r.2 := by
  rcases h with h | ⟨ap, hc, -⟩ | ⟨a, ap, ap', hd, -⟩
  · rw [h]
    exact hk
  · exact hc.keyed hk
  · exact hd.keyed hk

/-! ### Creation -/

lemma createWork_for {req : CreateApprovalRequest}
    (h : createWork req (db, script) = .ok (ap, (db', script'))) :
    ap.tenantID = req.tenantID ∧ ap.sessionID = req.sessionID := by
  obtain ⟨assignee, ⟨db₁, mid⟩, -, hrest⟩ := UnitOfWork.bind_ok.1 h
  obtain ⟨u, ⟨db₂, mid'⟩, -, hret⟩ := UnitOfWork.bind_ok.1 hrest
  obtain ⟨rfl, -⟩ := UnitOfWork.pure_ok.1 hret
  exact ⟨rfl, rfl⟩

/-- `Create` fails and changes nothing, or adds a pending row for the session of its request. -/
lemma create_cases (req : CreateApprovalRequest) (script : List (Option UUID)) (db : Store) :
    (∃ e, inTenant (createWork req) script db = (.error e, db)) ∨
      ∃ ap db', inTenant (createWork req) script db = (.ok ap, db') ∧ Created db db' ap ∧
        ap ∈ db'.pendingOf req.tenantID req.sessionID := by
  rcases UnitOfWork.commit_cases .store (createWork req) script db with
    hfailed | ⟨ap, db', script', hc, hwork⟩
  · exact .inl hfailed
  have hcreated := createWork_created hwork
  obtain ⟨htenant, hsession⟩ := createWork_for hwork
  refine .inr ⟨ap, db', hc, hcreated, mem_pendingOf.2 ⟨⟨ap.approvalID, ?_⟩, ?_⟩⟩
  · rw [hcreated.rows, AList.lookup_insert]
  · exact ⟨htenant, hsession, hcreated.pending⟩

/-! ### Decisions -/

/-- A decision function returns a row of the same session. -/
def KeepsSession (fn : Approval → Work Approval) : Prop :=
  ∀ ap db script r db' script', fn ap (db, script) = .ok (r, (db', script')) →
    r.sessionID = ap.sessionID

/-- What is returned after two statements. -/
lemma eq_of_returns {s t : Work Unit} {ret r : Approval}
    (h : (do s; t; pure ret) (db, script) = .ok (r, (db', script'))) : r = ret := by
  obtain ⟨_, ⟨db₁, mid⟩, -, hrest⟩ := UnitOfWork.bind_ok.1 h
  obtain ⟨_, ⟨db₂, mid'⟩, -, hret⟩ := UnitOfWork.bind_ok.1 hrest
  exact (UnitOfWork.pure_ok.1 hret).1

lemma grantModifiedWork_keepsSession (digest : String → String → Option Digest) (a : UUID)
    (decidedBy modifiedInput : String) :
    KeepsSession (grantModifiedWork digest a decidedBy modifiedInput) := by
  intro ap db script r db' script' h
  unfold grantModifiedWork at h
  cases hdigest : digest ap.toolID modifiedInput with
  | none =>
    simp only [hdigest] at h
    exact absurd h UnitOfWork.throw_ok
  | some newDigest =>
    simp only [hdigest] at h
    rw [eq_of_returns h]

/-- A decision in time is refused and changes nothing, or decides a row and returns it. -/
lemma decide_cases {now : ℕ} {fn : Approval → Work Approval} (hfn : Decides a fn)
    (hsession : KeepsSession fn)
    (htimely : ∀ ap ∈ db.visible tenantID a, ¬ (ap.status = .pending ∧ ap.expiresAt < now)) :
    (∃ e, decide tenantID a now fn script db = (.error e, db)) ∨
      ∃ r ap ap' db', decide tenantID a now fn script db = (.ok r, db') ∧
        Decided db db' a ap ap' ∧ r.sessionID = ap.sessionID := by
  unfold decide inTenant
  rcases UnitOfWork.commit_cases .store (decideWork tenantID a now fn) script db with
    ⟨e, hc⟩ | ⟨⟨r, lapsed⟩, db', script', hc, hwork⟩
  · rw [hc]
    exact .inl ⟨e, rfl⟩
  rw [hc]
  obtain ⟨ap, mid, mid', hvisible, hpending, hcases⟩ := decideWork_cases hwork
  -- the deadline has not passed, so the row is decided
  obtain ⟨hlate, -⟩ | ⟨-, hflag, hfnok⟩ := hcases
  · exact absurd ⟨hpending, hlate⟩ (htimely ap hvisible)
  obtain rfl : lapsed = false := hflag
  obtain ⟨ap', hdecided⟩ := hfn _ _ _ _ _ _ (lookup_of_visible hvisible) hpending hfnok
  exact .inr ⟨r, ap, ap', db', rfl, hdecided, hsession _ _ _ _ _ _ hfnok⟩

end NexusAgent.Oversight
