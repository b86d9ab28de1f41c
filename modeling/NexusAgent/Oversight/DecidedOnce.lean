import NexusAgent.Lib.Machine
import NexusAgent.Oversight.Approvals

/-!
# Approvals are decided once

Calls on the approval tables interleave as units of work, each atomic under the lock it
takes, so that a run is a sequence of calls in any order, with any store failures, and with
events of other components in between. What a unit of work can do to the tables is said once
(`exec_cases`): nothing, create a pending row, or decide a pending row and record the
decision. Everything else follows from it.

- `Inv.step`, `inv_of_reaches`: in every reachable state the log holds exactly the decision
  event that a row's status calls for.
- `settled_of_reaches`: a decided row keeps its status and its digest for ever.
-/

namespace NexusAgent.Oversight

open EventLog
open UnitOfWork (bind_ok pure_ok statement_ok throw_ok commit_cases)

/-- The event that records how a row left `pending`. -/
def ApprovalStatus.event : ApprovalStatus → Option EventType
  | .pending => none
  | .granted => some .approvalGranted
  | .grantedModified => some .approvalGrantedModified
  | .denied => some .approvalDenied
  | .expired => some .approvalExpired
  | .invalidated => some .approvalInvalidated

def isDecisionType : EventType → Bool
  | .approvalGranted | .approvalGrantedModified | .approvalDenied | .approvalExpired
  | .approvalInvalidated => true
  | _ => false

/-- Whether an event records a decision of the approval `a`. -/
def decisionFor (a : UUID) (e : Event Payload) : Bool :=
  isDecisionType e.type &&
    match e.payload with
    | .approvalDecision p => p.approvalID == a
    | _ => false

/-- The decision events of the approval `a`, each by the session whose log it is on and its
type. -/
def Store.decisions (db : Store) (a : UUID) : List (UUID × EventType) :=
  (db.log.events.filter (decisionFor a)).map fun e => (e.sessionID, e.type)

lemma isDecisionType_of_event {st : ApprovalStatus} {t : EventType} (h : st.event = some t) :
    isDecisionType t = true := by
  cases st <;> simp [ApprovalStatus.event] at h <;> subst h <;> rfl

/-! ### What the statements do -/

variable {type : EventType} {toolID : Option String} {pairRef : Option UUID}
  {f : Approval → Approval}

section Statements

variable {db db' : Store} {script script' : List (Option UUID)}

variable {ap : Approval} {a tenantID : UUID}

lemma lookup_of_visible (h : db.visible tenantID a = some ap) : db.approvals.lookup a = some ap :=
  (Option.filter_eq_some_iff.1 h).1

lemma lockApproval_ok (h : lockApproval tenantID a (db, script) = .ok (ap, (db', script'))) :
    db' = db ∧ db.visible tenantID a = some ap := by
  obtain ⟨i, -, hf⟩ := statement_ok.1 h
  cases hvis : db.visible tenantID a with
  | none => simp [hvis] at hf
  | some ap' =>
    obtain ⟨rfl, rfl⟩ : ap' = ap ∧ db = db' := by simpa [hvis] using hf
    exact ⟨rfl, rfl⟩

lemma lockPendingApproval_ok {sessionID : UUID} {r : Option Approval}
    (h : lockPendingApproval tenantID sessionID (db, script) = .ok (r, (db', script'))) :
    db' = db ∧ ∀ ap, r = some ap → ap ∈ db.pendingOf tenantID sessionID := by
  obtain ⟨i, -, hf⟩ := statement_ok.1 h
  simp only [Except.ok.injEq, Prod.mk.injEq] at hf
  obtain ⟨hr, rfl⟩ := hf
  refine ⟨rfl, ?_⟩
  rintro ap rfl
  rcases Option.or_eq_some_iff.1 hr with hfind | ⟨-, hhead⟩
  · exact List.mem_of_find?_eq_some hfind
  · exact List.mem_of_head? hhead

lemma append_ok {sessionID : UUID} {payload : Payload} {u : Unit}
    (h : append sessionID type toolID pairRef payload (db, script) = .ok (u, (db', script'))) :
    db'.approvals = db.approvals ∧ ∃ e : Event Payload, e.sessionID = sessionID ∧
      e.type = type ∧ e.payload = payload ∧ db'.log.events = db.log.events ++ [e] := by
  obtain ⟨log, e, rfl, hlog, hsid, htype, -, -, hpay⟩ := appendSystem_ok h
  exact ⟨rfl, e, hsid, htype, hpay, hlog⟩

lemma update_ok {u : Unit} (hrow : db.approvals.lookup a = some ap)
    (h : UnitOfWork.statement (D := Store) (I := UUID) Err.store
      (fun _ db => .ok ((), db.update a f)) (db, script) = .ok (u, (db', script'))) :
    db' = { db with approvals := db.approvals.insert a (f ap) } := by
  obtain ⟨i, -, hf⟩ := statement_ok.1 h
  obtain rfl : db.update a f = db' := by simpa using hf
  simp [Store.update, hrow]

end Statements

/-! ### What a call does -/

/-- `db'` is `db` with the pending row `a` decided and the decision recorded. -/
structure Decided (db db' : Store) (a : UUID) (ap ap' : Approval) : Prop where
  row : db.approvals.lookup a = some ap
  pending : ap.status = .pending
  key : ap'.approvalID = ap.approvalID
  session : ap'.sessionID = ap.sessionID
  rows : db'.approvals = db.approvals.insert a ap'
  /-- The log gains the event of the new status, and nothing else that decides. -/
  events : ∃ e after, db'.log.events = db.log.events ++ e :: after ∧
    ap'.status.event = some e.type ∧ e.sessionID = ap.sessionID ∧
    (∃ p, e.payload = .approvalDecision p ∧ p.approvalID = a) ∧
    ∀ e' ∈ after, isDecisionType e'.type = false

/-- `db'` is `db` with a new pending row. -/
structure Created (db db' : Store) (ap : Approval) : Prop where
  fresh : db.approvals.lookup ap.approvalID = none
  pending : ap.status = .pending
  rows : db'.approvals = db.approvals.insert ap.approvalID ap
  log : db'.log = db.log

/-- Each row stands under its own identifier. -/
def Keyed (db : Store) : Prop :=
  ∀ a ap, db.approvals.lookup a = some ap → ap.approvalID = a

lemma Keyed.insert {db db' : Store} {a : UUID} {ap : Approval} (hk : Keyed db)
    (hrows : db'.approvals = db.approvals.insert a ap) (hkey : ap.approvalID = a) : Keyed db' := by
  intro b bp hb
  rw [hrows] at hb
  by_cases hba : b = a
  · subst hba
    rw [AList.lookup_insert] at hb
    rw [← hkey, ← Option.some.inj hb]
  · rw [AList.lookup_insert_ne hba] at hb
    exact hk b bp hb

section Calls

variable {db db' : Store} {script script' : List (Option UUID)} {a : UUID} {ap : Approval}

variable {fn : Approval → Work Approval} {sessionID tenantID : UUID} {u : Unit} {now : ℕ}

lemma decided_of_update {p : ApprovalDecisionPayload} (hrow : db.approvals.lookup a = some ap)
    (hpending : ap.status = .pending) (hkey : (f ap).approvalID = ap.approvalID)
    (hsession : (f ap).sessionID = ap.sessionID) (htype : (f ap).status.event = some type)
    (hid : p.approvalID = a) (hsid : sessionID = ap.sessionID) (h : (do
      UnitOfWork.statement (D := Store) (I := UUID) Err.store
        (fun _ db => .ok ((), db.update a f))
      append sessionID type toolID pairRef (.approvalDecision p)) (db, script) =
        .ok (u, (db', script'))) :
    Decided db db' a ap (f ap) := by
  obtain ⟨_, ⟨db₁, mid⟩, hset, happ⟩ := bind_ok.1 h
  obtain rfl := update_ok hrow hset
  obtain ⟨hrows, e, he, het, hep, hlog⟩ := append_ok happ
  refine ⟨hrow, hpending, hkey, hsession, hrows, e, [], hlog, ?_, ?_, ⟨p, hep, hid⟩, by simp⟩
  · rw [het, htype]
  · rw [he, hsid]

lemma expireApproval_decided (hk : Keyed db) (hrow : db.approvals.lookup a = some ap)
    (hpending : ap.status = .pending)
    (h : expireApproval ap (db, script) = .ok (u, (db', script'))) :
    ∃ ap', Decided db db' a ap ap' ∧ ap'.status = .expired := by
  obtain rfl := hk a ap hrow
  exact ⟨_, decided_of_update hrow hpending rfl rfl rfl rfl rfl h, rfl⟩

/-- A decision function decides every pending row it accepts. -/
def Decides (a : UUID) (fn : Approval → Work Approval) : Prop :=
  ∀ db script ap r db' script', db.approvals.lookup a = some ap → ap.status = .pending →
    fn ap (db, script) = .ok (r, (db', script')) → ∃ ap', Decided db db' a ap ap'

/-- A decision that updates the row, appends the event of its new status and returns. -/
lemma decided_of_decision {p : ApprovalDecisionPayload} {ret r : Approval}
    (hrow : db.approvals.lookup a = some ap)
    (hpending : ap.status = .pending) (h : (do
      UnitOfWork.statement (D := Store) (I := UUID) Err.store
        (fun _ db => .ok ((), db.update a f))
      append ap.sessionID type (some ap.toolID) none (.approvalDecision p)
      pure ret) (db, script) = .ok (r, (db', script')))
    (hkey : (f ap).approvalID = ap.approvalID) (hsession : (f ap).sessionID = ap.sessionID)
    (htype : (f ap).status.event = some type) (hid : p.approvalID = a) :
    Decided db db' a ap (f ap) := by
  rw [← bind_assoc] at h
  obtain ⟨u, ⟨db₁, mid⟩, hwork, hret⟩ := bind_ok.1 h
  obtain ⟨-, rfl, rfl⟩ := pure_ok.1 hret
  exact decided_of_update hrow hpending hkey hsession htype hid rfl hwork

lemma grantWork_decides (decidedBy : String) : Decides a (grantWork a decidedBy) := by
  intro db script ap r db' script' hrow hpending h
  exact ⟨_, decided_of_decision hrow hpending h rfl rfl rfl rfl⟩

lemma denyWork_decides (decidedBy reason : String) : Decides a (denyWork a decidedBy reason) := by
  intro db script ap r db' script' hrow hpending h
  exact ⟨_, decided_of_decision hrow hpending h rfl rfl rfl rfl⟩

lemma grantModifiedWork_decides (digest : String → String → Option Digest)
    (decidedBy modifiedInput : String) :
    Decides a (grantModifiedWork digest a decidedBy modifiedInput) := by
  intro db script ap r db' script' hrow hpending h
  unfold grantModifiedWork at h
  cases hd : digest ap.toolID modifiedInput with
  | none =>
    simp only [hd] at h
    exact absurd h throw_ok
  | some newDigest =>
    simp only [hd] at h
    exact ⟨_, decided_of_decision hrow hpending h rfl rfl rfl rfl⟩

/-- What a call can do to the tables, and what an error says about it. -/
def Effect {α : Type} (db : Store) (r : Except Err α × Store) : Prop :=
  r.2 = db ∨ (∃ ap, Created db r.2 ap ∧ ∀ e, r.1 ≠ .error e) ∨
    ∃ a ap ap', Decided db r.2 a ap ap' ∧
      ∀ e, r.1 = .error e → e = .notPending a .expired ∧ ap'.status = .expired

/-- A decision that goes through has found a pending row: past its deadline the row is expired,
and before it the row is decided. -/
lemma decideWork_cases {r : Approval × Bool}
    (h : decideWork tenantID a now fn (db, script) = .ok (r, (db', script'))) :
    ∃ ap mid mid', db.visible tenantID a = some ap ∧ ap.status = .pending ∧
      ((ap.expiresAt < now ∧ r.2 = true ∧
          ∃ u, expireApproval ap (db, mid) = .ok (u, (db', mid'))) ∨
        (¬ ap.expiresAt < now ∧ r.2 = false ∧ fn ap (db, mid) = .ok (r.1, (db', mid')))) := by
  obtain ⟨ap, ⟨db₁, mid⟩, hlock, hrest⟩ := bind_ok.1 h
  obtain ⟨rfl, hvisible⟩ := lockApproval_ok hlock
  refine ⟨ap, mid, script', hvisible, ?_⟩
  by_cases hlapsed : ap.status = .pending ∧ ap.expiresAt < now
  · rw [if_pos hlapsed] at hrest
    obtain ⟨u, ⟨db₂, mid'⟩, hexp, hret⟩ := bind_ok.1 hrest
    obtain ⟨rfl, rfl, rfl⟩ := pure_ok.1 hret
    exact ⟨hlapsed.1, .inl ⟨hlapsed.2, rfl, u, hexp⟩⟩
  rw [if_neg hlapsed] at hrest
  by_cases hpending : ap.status = .pending
  · rw [if_neg (not_not.2 hpending)] at hrest
    obtain ⟨ap₁, ⟨db₂, mid'⟩, hfnok, hret⟩ := bind_ok.1 hrest
    obtain ⟨rfl, rfl, rfl⟩ := pure_ok.1 hret
    exact ⟨hpending, .inr ⟨fun hlate => hlapsed ⟨hpending, hlate⟩, rfl, hfnok⟩⟩
  · rw [if_pos hpending] at hrest
    exact absurd hrest throw_ok

lemma decideWork_decided {r : Approval × Bool} (hk : Keyed db) (hfn : Decides a fn)
    (h : decideWork tenantID a now fn (db, script) = .ok (r, (db', script'))) :
    ∃ ap ap', Decided db db' a ap ap' ∧ (r.2 = true → ap'.status = .expired) := by
  obtain ⟨ap, mid, mid', hvisible, hpending, ⟨-, -, u, hexp⟩ | ⟨-, hflag, hfnok⟩⟩ :=
    decideWork_cases h
  · obtain ⟨ap', hdec, hst⟩ :=
      expireApproval_decided hk (lookup_of_visible hvisible) hpending hexp
    exact ⟨ap, ap', hdec, fun _ => hst⟩
  · obtain ⟨ap', hdec⟩ := hfn _ _ _ _ _ _ (lookup_of_visible hvisible) hpending hfnok
    exact ⟨ap, ap', hdec, fun htrue => nomatch hflag.symm.trans htrue⟩

lemma decide_effect (hk : Keyed db) (hfn : Decides a fn) :
    Effect db (decide tenantID a now fn script db) := by
  unfold decide inTenant
  rcases commit_cases .store (decideWork tenantID a now fn) script db with
    ⟨e, hc⟩ | ⟨⟨apr, lapsed⟩, db₁, script', hc, hwork⟩
  · rw [hc]
    exact .inl rfl
  · rw [hc]
    obtain ⟨ap, ap', hdec, hexp⟩ := decideWork_decided hk hfn hwork
    cases lapsed with
    | true =>
      refine .inr (.inr ⟨a, ap, ap', hdec, ?_⟩)
      rintro e ⟨⟩
      exact ⟨rfl, hexp rfl⟩
    | false =>
      refine .inr (.inr ⟨a, ap, ap', hdec, ?_⟩)
      rintro e ⟨⟩

lemma mem_pendingOf :
    ap ∈ db.pendingOf tenantID sessionID ↔
      (∃ a, db.approvals.lookup a = some ap) ∧ ap.tenantID = tenantID ∧
        ap.sessionID = sessionID ∧ ap.status = .pending := by
  unfold Store.pendingOf
  rw [List.mem_filter, decide_eq_true_iff]
  refine and_congr_left fun _ => ?_
  constructor
  · intro hmem
    obtain ⟨⟨a, ap'⟩, hentry, rfl⟩ := List.mem_map.1 hmem
    exact ⟨a, AList.mem_lookup_iff.2 hentry⟩
  · rintro ⟨a, hrow⟩
    exact List.mem_map.2 ⟨⟨a, ap⟩, AList.mem_lookup_iff.1 hrow, rfl⟩

lemma Decided.append_result {db₁ : Store} {ap' : Approval} {payload : Payload}
    {mid : List (Option UUID)} (hdec : Decided db db₁ a ap ap')
    (h : append sessionID .toolResult toolID pairRef payload (db₁, mid) =
      .ok (u, (db', script'))) : Decided db db' a ap ap' := by
  obtain ⟨hrows, e, -, het, -, hlog⟩ := append_ok h
  obtain ⟨e₁, after, hev, htype, hsid, hpay, hafter⟩ := hdec.events
  refine { hdec with rows := hrows.trans hdec.rows, events := ⟨e₁, after ++ [e], ?_, htype, hsid,
    hpay, ?_⟩ }
  · rw [hlog, hev]
    simp
  · refine List.forall_mem_snoc hafter ?_
    rw [het]
    rfl

lemma invalidate_effect {reason : InvalidationReason} (hk : Keyed db) :
    Effect db (inTenant (invalidateWork tenantID sessionID reason) script db) := by
  unfold inTenant
  rcases commit_cases .store (invalidateWork tenantID sessionID reason) script db with
    ⟨e, hc⟩ | ⟨r, db₁, script', hc, hwork⟩
  · rw [hc]
    exact .inl rfl
  rw [hc]
  obtain ⟨found, ⟨db₂, mid⟩, hlock, hrest⟩ := bind_ok.1 hwork
  obtain ⟨rfl, hmem⟩ := lockPendingApproval_ok hlock
  cases found with
  | none =>
    exact .inl (pure_ok.1 hrest).2.1
  | some ap =>
    obtain ⟨⟨a, hrow⟩, -, hsid, hpending⟩ := mem_pendingOf.1 (hmem ap rfl)
    obtain rfl := hk a ap hrow
    -- the status and its event first, then the synthetic result, which decides nothing
    dsimp only at hrest
    rw [← bind_assoc] at hrest
    obtain ⟨u, ⟨db₃, mid'⟩, hset, hrest⟩ := bind_ok.1 hrest
    obtain ⟨u', ⟨db₄, mid''⟩, happ, hret⟩ := bind_ok.1 hrest
    obtain ⟨-, rfl, -⟩ := pure_ok.1 hret
    have hdec := decided_of_update hrow hpending rfl rfl rfl rfl hsid.symm hset
    refine .inr (.inr ⟨_, ap, _, hdec.append_result happ, ?_⟩)
    rintro e ⟨⟩

lemma createWork_created {req : CreateApprovalRequest}
    (h : createWork req (db, script) = .ok (ap, (db', script'))) : Created db db' ap := by
  obtain ⟨assignee, ⟨db₁, mid⟩, howner, hrest⟩ := bind_ok.1 h
  have hdb : db₁ = db := by
    unfold assigneeOf at howner
    by_cases hempty : req.assignee = ""
    · rw [if_pos hempty] at howner
      obtain ⟨i, -, hf⟩ := statement_ok.1 howner
      cases ho : db.sessionOwner req.sessionID with
      | none => simp [ho] at hf
      | some owner =>
        simp only [ho, Except.ok.injEq, Prod.mk.injEq] at hf
        exact hf.2.symm
    · rw [if_neg hempty] at howner
      exact (pure_ok.1 howner).2.1
  subst hdb
  obtain ⟨u, ⟨db₂, mid'⟩, hins, hret⟩ := bind_ok.1 hrest
  obtain ⟨rfl, rfl, rfl⟩ := pure_ok.1 hret
  obtain ⟨i, -, hf⟩ := statement_ok.1 hins
  by_cases hfresh : db₁.approvals.lookup req.approvalID = none
  · obtain rfl : _ = db' := by simpa [hfresh] using hf
    exact ⟨hfresh, rfl, rfl, rfl⟩
  · simp [hfresh] at hf

lemma create_effect {req : CreateApprovalRequest} :
    Effect db (inTenant (createWork req) script db) := by
  unfold inTenant
  rcases commit_cases .store (createWork req) script db with
    ⟨e, hc⟩ | ⟨ap, db₁, script', hc, hwork⟩
  · rw [hc]
    exact .inl rfl
  · rw [hc]
    refine .inr (.inl ⟨ap, createWork_created hwork, ?_⟩)
    rintro e ⟨⟩

lemma Effect.map {α β : Type} {f : α → β} {r : Except Err α × Store} (h : Effect db r) :
    Effect db (r.map (·.map f) id) := by
  obtain ⟨res, db₁⟩ := r
  have herr (e : Err) (he : (Except.map f res) = .error e) : res = .error e := by
    cases res with
    | ok x => nomatch he
    | error e' => exact congrArg _ (Except.error.inj he)
  rcases h with h | ⟨ap, hc, hok⟩ | ⟨a, ap, ap', hdec, hexp⟩
  · exact .inl h
  · exact .inr (.inl ⟨ap, hc, fun e he => hok e (herr e he)⟩)
  · exact .inr (.inr ⟨a, ap, ap', hdec, fun e he => hexp e (herr e he)⟩)

/-- What a call does to the tables: nothing, a new pending row, or one decision with its
record. Only an expiry is committed by a call that returns an error. -/
theorem exec_cases (digest : String → String → Option Digest) (c : Call) (hk : Keyed db) :
    Effect db (c.exec digest script db) := by
  cases c with
  | create req => exact create_effect.map
  | grant tenantID a now decidedBy =>
    exact (decide_effect hk (grantWork_decides decidedBy)).map
  | grantModified tenantID a now decidedBy modifiedInput =>
    exact (decide_effect hk (grantModifiedWork_decides digest decidedBy modifiedInput)).map
  | deny tenantID a now decidedBy reason =>
    exact (decide_effect hk (denyWork_decides decidedBy reason)).map
  | invalidate tenantID sessionID reason => exact invalidate_effect hk

end Calls

/-! ### Runs -/

/-- A step of a run: a call with the script of its unit of work, or an event of another
component. -/
inductive Action
  | call (c : Call) (script : List (Option UUID))
  | foreign (e : Event Payload)

/-- The approval tables under every interleaving of calls. Only approvals write decision
events. -/
def approvals (digest : String → String → Option Digest) : Machine Store Action where
  step db
    | .call c script => some (c.exec digest script db).2
    | .foreign e =>
      if isDecisionType e.type then none
      else (db.log.append e).map fun log => { db with log }

def initial (owners : UUID → Option String) : Store where
  approvals := ∅
  log := Log.empty
  sessionOwner := owners

section Decisions

variable {db db' : Store} {a b : UUID} {ap ap' : Approval}

lemma decisions_of_events {es : List (Event Payload)} (h : db'.log.events = db.log.events ++ es) :
    db'.decisions a = db.decisions a ++
      (es.filter (decisionFor a)).map fun e => (e.sessionID, e.type) := by
  simp [Store.decisions, h]

lemma decisionFor_eq_false {e : Event Payload} (h : isDecisionType e.type = false) :
    decisionFor a e = false := by
  simp [decisionFor, h]

/-- A decision is recorded once, on the session's log, under the type of the new status. -/
lemma Decided.decisions_self (h : Decided db db' a ap ap') :
    db'.decisions a =
      db.decisions a ++ ap'.status.event.toList.map fun t => (ap'.sessionID, t) := by
  obtain ⟨e, after, hev, htype, hsid, ⟨p, hpay, hid⟩, hafter⟩ := h.events
  have hfor : decisionFor a e = true := by
    simp [decisionFor, isDecisionType_of_event htype, hpay, hid]
  have hnil : after.filter (decisionFor a) = [] :=
    List.filter_eq_nil_iff.2 fun e' he' => by simp [decisionFor_eq_false (hafter e' he')]
  rw [decisions_of_events hev, List.filter_cons_of_pos hfor, hnil, htype, h.session, ← hsid]
  rfl

/-- It is not recorded for any other approval. -/
lemma Decided.decisions_ne (h : Decided db db' a ap ap') (hne : b ≠ a) :
    db'.decisions b = db.decisions b := by
  obtain ⟨e, after, hev, -, -, ⟨p, hpay, hid⟩, hafter⟩ := h.events
  have hfor : decisionFor b e = false := by
    simp [decisionFor, hpay, hid, hne.symm]
  have hnil : after.filter (decisionFor b) = [] :=
    List.filter_eq_nil_iff.2 fun e' he' => by simp [decisionFor_eq_false (hafter e' he')]
  rw [decisions_of_events hev, List.filter_cons_of_neg (by simp [hfor]), hnil]
  simp

end Decisions

/-- What holds of the tables in every reachable state. -/
structure Inv (db : Store) : Prop where
  keyed : Keyed db
  /-- The log holds the decision event a row's status calls for, and no other. -/
  recorded : ∀ a ap, db.approvals.lookup a = some ap →
    db.decisions a = ap.status.event.toList.map fun t => (ap.sessionID, t)
  unborn : ∀ a, db.approvals.lookup a = none → db.decisions a = []

lemma inv_initial (owners : UUID → Option String) : Inv (initial owners) where
  keyed a ap h := by simp [initial] at h
  recorded a ap h := by simp [initial] at h
  unborn a _ := rfl

section Steps

variable {db db' : Store}

variable {ap : Approval} {digest : String → String → Option Digest} {a : UUID}

/-- A row written together with the events it calls for keeps the invariant. -/
lemma Inv.insert (hinv : Inv db) (hrows : db'.approvals = db.approvals.insert a ap)
    (hkey : ap.approvalID = a)
    (hself : db'.decisions a = ap.status.event.toList.map fun t => (ap.sessionID, t))
    (hother : ∀ b, b ≠ a → db'.decisions b = db.decisions b) : Inv db' := by
  have hlookup (b : UUID) (hba : b ≠ a) :
      db'.approvals.lookup b = db.approvals.lookup b := by
    rw [hrows, AList.lookup_insert_ne hba]
  have hrow : db'.approvals.lookup a = some ap := by
    rw [hrows, AList.lookup_insert]
  refine ⟨hinv.keyed.insert hrows hkey, ?_, ?_⟩
  · intro b bp hb
    by_cases hba : b = a
    · subst hba
      rw [Option.mem_unique hb hrow, hself]
    · rw [hlookup b hba] at hb
      rw [hother b hba]
      exact hinv.recorded b bp hb
  · intro b hb
    have hba : b ≠ a := by
      rintro rfl
      nomatch hrow.symm.trans hb
    rw [hlookup b hba] at hb
    rw [hother b hba]
    exact hinv.unborn b hb

lemma Inv.decided {ap' : Approval} (hinv : Inv db) (h : Decided db db' a ap ap') : Inv db' := by
  have hbefore : db.decisions a = [] := by
    rw [hinv.recorded a ap h.row, h.pending]
    rfl
  refine hinv.insert h.rows ?_ ?_ fun b hba => h.decisions_ne hba
  · rw [h.key, hinv.keyed a ap h.row]
  · rw [h.decisions_self, hbefore, List.nil_append]

lemma Inv.created (hinv : Inv db) (h : Created db db' ap) : Inv db' := by
  have hdec (b : UUID) : db'.decisions b = db.decisions b := by
    simp [Store.decisions, h.log]
  refine hinv.insert h.rows rfl ?_ fun b _ => hdec b
  rw [hdec, hinv.unborn _ h.fresh, h.pending]
  rfl

/-- An event of another component decides nothing. -/
lemma foreign_ok {e : Event Payload} (h : (approvals digest).step db (.foreign e) = some db') :
    db'.approvals = db.approvals ∧ ∀ a, db'.decisions a = db.decisions a := by
  simp only [approvals] at h
  split at h
  · nomatch h
  next htype =>
    obtain ⟨log, hlog, rfl⟩ := Option.map_eq_some_iff.1 h
    refine ⟨rfl, fun a => ?_⟩
    have hnot : decisionFor a { e with seq := db.log.nextSeq e.sessionID } = false :=
      decisionFor_eq_false (by simpa using htype)
    have hdec : ({ db with log } : Store).decisions a = db.decisions a ++ _ :=
      decisions_of_events (Log.append_eq_some hlog).2
    rw [hdec]
    simp [hnot]

theorem Inv.step {act : Action} (hinv : Inv db) (h : (approvals digest).step db act = some db') :
    Inv db' := by
  cases act with
  | foreign e =>
    obtain ⟨hrows, hdec⟩ := foreign_ok h
    refine ⟨?_, ?_, ?_⟩
    · intro a ap ha
      exact hinv.keyed a ap (hrows ▸ ha)
    · intro a ap ha
      rw [hdec]
      exact hinv.recorded a ap (hrows ▸ ha)
    · intro a ha
      rw [hdec]
      exact hinv.unborn a (hrows ▸ ha)
  | call c script =>
    obtain rfl : (c.exec digest script db).2 = db' := Option.some.inj h
    rcases exec_cases digest c hinv.keyed with h | ⟨ap, h, -⟩ | ⟨a, ap, ap', h, -⟩
    · rw [h]
      exact hinv
    · exact hinv.created h
    · exact hinv.decided h

theorem inv_of_reaches {owners : UUID → Option String}
    (h : (approvals digest).Reaches (initial owners) db) : Inv db :=
  h.invariant (inv_initial owners) fun _ _ _ hinv hst => hinv.step hst

/-- The row `a` has been decided, with this status and digest. -/
def Settled (a : UUID) (status : ApprovalStatus) (digest : Digest) (db : Store) : Prop :=
  ∃ ap, db.approvals.lookup a = some ap ∧ ap.status = status ∧ ap.canonicalDigest = digest

/-- No step touches a decided row. -/
theorem Settled.step {act : Action} {status : ApprovalStatus} {d : Digest} (hinv : Inv db)
    (hst : status ≠ .pending) (hset : Settled a status d db)
    (h : (approvals digest).step db act = some db') : Settled a status d db' := by
  obtain ⟨ap, hrow, hstatus, hdigest⟩ := hset
  refine ⟨ap, ?_, hstatus, hdigest⟩
  cases act with
  | foreign e => rw [(foreign_ok h).1, hrow]
  | call c script =>
    obtain rfl : (c.exec digest script db).2 = db' := Option.some.inj h
    rcases exec_cases digest c hinv.keyed with h | ⟨bp, h, -⟩ | ⟨b, bp, bp', h, -⟩
    · rw [h, hrow]
    · -- a new row stands under an identifier that had none
      have hne : a ≠ bp.approvalID := by
        rintro rfl
        nomatch h.fresh.symm.trans hrow
      rw [h.rows, AList.lookup_insert_ne hne, hrow]
    · -- a decision needs a pending row
      have hne : a ≠ b := by
        rintro rfl
        have hpending := h.pending
        rw [Option.mem_unique h.row hrow, hstatus] at hpending
        exact hst hpending
      rw [h.rows, AList.lookup_insert_ne hne, hrow]

theorem settled_of_reaches {status : ApprovalStatus} {d : Digest} (hinv : Inv db)
    (hst : status ≠ .pending) (hset : Settled a status d db)
    (h : (approvals digest).Reaches db db') : Settled a status d db' :=
  (h.invariant (I := fun db => Inv db ∧ Settled a status d db) ⟨hinv, hset⟩
    fun _ _ _ ⟨hi, hs⟩ hstep => ⟨hi.step hstep, hs.step hi hst hstep⟩).2

end Steps

/-- Approvals are decided once. In every state `db` reached by any interleaving of calls and
store failures:

- the log holds exactly the decision event each row's status calls for, on the row's session;
- a row that has left `pending` keeps its status and its digest in every later state;
- a call that returns an error leaves the tables as they were, unless it has committed the
  expiry of the row it was to decide. -/
theorem approvals_decided_once (digest : String → String → Option Digest)
    (owners : UUID → Option String) (db : Store)
    (hreach : (approvals digest).Reaches (initial owners) db) :
    (∀ a ap, db.approvals.lookup a = some ap →
      db.decisions a = ap.status.event.toList.map fun t => (ap.sessionID, t)) ∧
    (∀ db', (approvals digest).Reaches db db' → ∀ a ap, db.approvals.lookup a = some ap →
      ap.status ≠ .pending → ∃ ap', db'.approvals.lookup a = some ap' ∧
        ap'.status = ap.status ∧ ap'.canonicalDigest = ap.canonicalDigest) ∧
    (∀ c script e, (Call.exec digest script db c).1 = .error e →
      (Call.exec digest script db c).2 = db ∨
        ∃ a ap ap', Decided db (Call.exec digest script db c).2 a ap ap' ∧
          e = .notPending a .expired ∧ ap'.status = .expired) := by
  have hinv := inv_of_reaches hreach
  refine ⟨hinv.recorded, ?_, ?_⟩
  · intro db' hlater a ap hrow hst
    exact settled_of_reaches hinv hst ⟨ap, hrow, rfl, rfl⟩ hlater
  · intro c script e herr
    rcases exec_cases digest c hinv.keyed with h | ⟨ap, -, hok⟩ | ⟨a, ap, ap', h, hexp⟩
    · exact .inl h
    · exact absurd herr (hok e)
    · exact .inr ⟨a, ap, ap', h, hexp e herr⟩

/-- An approval asked for, denied after its deadline and then granted. -/
def lateDecision : List Action :=
  [.call (.create { approvalID := 1, tenantID := 2, sessionID := 3, toolUseEventID := 4
                    toolID := "platform/shell", askKind := "once", canonicalDigest := []
                    assignee := "owner", expiresAt := 10 }) [some 0, some 0],
    .call (.deny 2 1 11 "owner" "too risky") [some 0, some 0, some 5, some 0],
    .call (.grant 2 1 12 "owner") [some 0, some 0, some 6, some 0]]

/-- The late decision expires the approval, the grant is refused, and the log holds the one
expiry. -/
theorem lateDecision_recorded_once :
    ∃ db, (approvals fun _ _ => none).run (initial fun _ => none) lateDecision = some db ∧
      db.decisions 1 = [(3, .approvalExpired)] := by
  obtain ⟨db, hrun, ap, hlookup, hsession, hstatus⟩ :
      ∃ db, (approvals fun _ _ => none).run (initial fun _ => none) lateDecision = some db ∧
        ∃ ap ∈ db.approvals.lookup 1, ap.sessionID = 3 ∧ ap.status = .expired := by
    apply Machine.exists_run
    decide +kernel
  refine ⟨db, hrun, ?_⟩
  have hreach := Machine.Reaches.of_run lateDecision hrun
  rw [(approvals_decided_once _ _ _ hreach).1 1 ap hlookup, hstatus, hsession]
  rfl

end NexusAgent.Oversight
