import NexusAgent.Delegate.Once

/-!
# A returned child and its parent

Once the outcome of a delegation is written, the delegation is not pending any more, and a later
call of `OnChildTerminal` does not find it. If the call that wrote the outcome fails to resume the
parent, what it failed with is final, whatever its error says about the next terminal check.

- `Passed.step`: a later call is not busy with the delegation, in every run.
-/

namespace NexusAgent.Delegate

open EventLog Kernel World

variable {setup : Setup} {w w' : World} {a : Action} {d : Delegation} {id : UUID} {i n : ℕ}

/-! ### Later calls -/

/-- The call that an action is a step of. -/
def Action.caller : Action → Option ℕ
  | .find i _ | .finalize i _ _ _ | .acquire i _ | .load i _ | .setRunning i _ | .appendResult i _
  | .finish i _ | .crash i => some i
  | .insert _ | .bind _ _ | .write _ _ | .lock _ _ | .call _ => none

/-- A delegation is resolved, and no call from the `n`-th on is busy with it. -/
structure Passed (n : ℕ) (id : UUID) (w : World) : Prop where
  known : id ∈ w.rows.map Delegation.delegationID
  resolved : ∀ d ∈ w.rows, d.delegationID = id → d.status ≠ .pending
  idle : ∀ i s, n ≤ i → w.calls[i]? = some s → ∀ b, s.busy = some b → b.2.delegationID ≠ id

lemma Passed.step (h : Passed n id w) (hdoes : Does w a w') : Passed n id w' := by
  obtain ⟨heffect, htakes⟩ := hdoes
  have hidle (i : ℕ) (s' : Stage) (hlater : n ≤ i) (hs' : w'.calls[i]? = some s')
      (b' : Phase × Delegation) (hb' : s'.busy = some b') : b'.2.delegationID ≠ id := by
    rcases htakes i s' hs' b' hb' with ⟨s, b, hs, hb, heq⟩ | ⟨hrow, hpending⟩
    · exact heq ▸ h.idle i s hlater hs b hb
    · exact fun hid => h.resolved b'.2 hrow hid hpending
  cases heffect with
  | quiet hrows =>
    refine ⟨hrows.ids ▸ h.known, fun d' hd' hid => ?_, hidle⟩
    obtain ⟨d, hd, hsame, hstatus⟩ := hrows.back d' hd'
    rw [hstatus]
    exact h.resolved d hd (hsame ▸ hid)
  | insert d _ hfresh hrows =>
    refine ⟨?_, fun d' hd' hid => ?_, hidle⟩
    · rw [hrows, List.map_append]
      exact List.mem_append_left _ h.known
    · rcases List.mem_append.1 (hrows ▸ hd') with hold | hnew
      · exact h.resolved d' hold hid
      · obtain rfl := List.mem_singleton.1 hnew
        exact absurd (hid ▸ h.known) hfresh
  | find _ _ _ _ _ _ hrows | resume _ _ _ _ _ _ hrows | deliver _ _ _ _ _ _ hrows =>
    exact ⟨hrows ▸ h.known, hrows ▸ h.resolved, hidle⟩
  | finalize e status result reason hstatus hrows =>
    refine ⟨?_, fun d' hd' hid => ?_, hidle⟩
    · rw [hrows, Ledger.map_setDelegationResult]
      exact h.known
    · obtain ⟨d, hd, rfl⟩ := List.mem_map.1 (hrows ▸ hd')
      split
      · exact hstatus
      next hother =>
        rw [if_neg hother] at hid
        exact h.resolved d hd hid

/-- A step of a later call neither resumes the parent with the delegation nor delivers its
result. -/
lemma Passed.unrecorded (h : Passed n id w) (heffect : Effect w a w')
    (hcaller : a.caller = some i) (hlater : n ≤ i) :
    w'.resumed.count id = w.resumed.count id ∧ w'.delivered.count id = w.delivered.count id := by
  cases heffect with
  | quiet _ hrecord | insert _ _ _ _ hrecord | find _ _ _ _ _ _ _ hrecord =>
    rw [hrecord.resumed, hrecord.delivered]
    exact ⟨rfl, rfl⟩
  | finalize _ _ _ _ _ _ _ _ hresumed hdelivered =>
    rw [hresumed, hdelivered]
    exact ⟨rfl, rfl⟩
  | resume j r id' haction hi hid _ _ _ hresumed hdelivered =>
    obtain rfl : j = i := by simpa [haction, Action.caller] using hcaller
    have hne : id' ≠ id := hid ▸ h.idle j _ hlater hi _ rfl
    simp [hresumed, hdelivered, hne]
  | deliver j r id' haction hi hid _ _ _ hresumed hdelivered =>
    obtain rfl : j = i := by simpa [haction, Action.caller] using hcaller
    have hne : id' ≠ id := hid ▸ h.idle j _ hlater hi _ rfl
    simp [hresumed, hdelivered, hne]

lemma passed_of_reaches {sessions : UUID → Session}
    (h : (resolver setup).Reaches (initial sessions) w) (hd : d ∈ w.rows)
    (hresolved : d.status ≠ .pending) : Passed w.calls.length d.delegationID w := by
  have hledger : Ledger w := h.invariant (I := Ledger) (ledger_initial sessions)
    fun _ _ _ h hstep => h.step (does_of_step hstep).effect
  refine ⟨List.mem_map_of_mem hd, fun d' hd' hid => ?_, fun i s hlater hs => ?_⟩
  · rwa [List.inj_on_of_nodup_map hledger.nodup hd' hd hid]
  · exact absurd (List.getElem?_eq_some_iff.1 hs).1 hlater.not_gt

/-- Once the outcome of a delegation is written, no step of a call that is made later resumes the
parent with it or delivers its result, in any run: whichever child the call is for, and whatever
became of the call that wrote the outcome. -/
theorem laterCall_delivers_nothing (setup : Setup) (sessions : UUID → Session) (w w' w'' : World)
    (h : (resolver setup).Reaches (initial sessions) w) (d : Delegation) (hd : d ∈ w.rows)
    (hresolved : d.status ≠ .pending) (hreach : (resolver setup).Reaches w w') (a : Action) (i : ℕ)
    (hcaller : a.caller = some i) (hlater : w.calls.length ≤ i)
    (hstep : (resolver setup).step w' a = some w'') :
    w''.resumed.count d.delegationID = w'.resumed.count d.delegationID ∧
      w''.delivered.count d.delegationID = w'.delivered.count d.delegationID := by
  have hpassed : Passed w.calls.length d.delegationID w' :=
    hreach.invariant (I := Passed w.calls.length d.delegationID) (passed_of_reaches h hd hresolved)
      fun _ _ _ h hstep => h.step (does_of_step hstep)
  exact hpassed.unrecorded (does_of_step hstep).effect hcaller hlater

/-! ### A parent that is locked -/

/-- How a call has returned, if it has. -/
def Stage.succeeded : Stage → Option Bool
  | .returned (.ok _) => some true
  | .returned (.error _) => some false
  | _ => none

/-- The outcome of a delegation, as it is written. -/
def delegationTo2Returned : Delegation :=
  { delegationTo2 with status := .returned, result := "done" }

/-- The outcome is written while another worker holds the parent's lock, and the call that wrote it
fails. -/
def lockHeld : List Action :=
  [.insert delegationTo2, .call 2, .lock 1 (some 7), .find 0 none, .finalize 0 (.ok "done") {} none,
    .acquire 0 (.ok 8)]

/-- After the failure the next terminal check looks for the delegation, and delivers nothing. -/
theorem lockHeld_retry_delivers_nothing :
    ∃ w w' w'', (resolver (plainSetup true)).Reaches (initial childDone) w ∧
      w.calls.map Stage.succeeded = [some false] ∧ (resolver (plainSetup true)).Reaches w w' ∧
      (resolver (plainSetup true)).step w' (.find 1 none) = some w'' ∧
      w''.delivered.count 9 = w'.delivered.count 9 := by
  obtain ⟨w, hreach, hfailed, hrow, w', hrun, w'', hstep, -⟩ : ∃ w,
      (resolver (plainSetup true)).Reaches (initial childDone) w ∧
        w.calls.map Stage.succeeded = [some false] ∧ delegationTo2Returned ∈ w.rows ∧
        ∃ w' ∈ (resolver (plainSetup true)).run w [.lock 1 none, .call 2],
          ∃ w'' ∈ (resolver (plainSetup true)).step w' (.find 1 none), w''.delivered = [] := by
    apply Machine.Reaches.exists_of_run lockHeld
    decide +kernel
  have hreach' := Machine.Reaches.of_run _ hrun
  have hlength : w.calls.length = 1 := by simpa using congrArg List.length hfailed
  exact ⟨w, w', w'', hreach, hfailed, hreach', hstep,
    (laterCall_delivers_nothing _ _ w w' w'' hreach delegationTo2Returned hrow nofun hreach'
      (.find 1 none) 1 rfl hlength.le hstep).2⟩

/-- The call that has written the outcome fails because the parent's lock is held, and says that it
will be retried on the next terminal check. The next check finds nothing and returns without an
error; the parent is not told, and stays suspended. -/
theorem locked_parent_forgotten :
    ∃ w, (resolver (plainSetup true)).Reaches (initial childDone) w ∧
      w.calls.map Stage.succeeded = [some false, some true] ∧
      w.rows = [delegationTo2Returned] ∧ (w.sessions 1).status = .suspended ∧ w.delivered = [] := by
  apply Machine.Reaches.exists_of_run (lockHeld ++ [.lock 1 none, .call 2, .find 1 none])
  decide +kernel

/-! ### A child that failed -/

lemma getElem?_set_of_some {s : Stage} (hi : w.calls[i]? = some s) (s' : Stage) :
    (w.calls.set i s')[i]? = some s' :=
  List.getElem?_set_self (List.getElem?_eq_some_iff.1 hi).1

lemma extractResult_boundExceeded {json : Json} {schema text : String} {x : Extracted}
    (h : extractResult json schema text = .ok x) :
    x.boundExceeded = true ↔ schema ≠ "" ∧ ∀ required fields,
      json.required schema = .ok required → json.fields text = .ok fields →
        ∃ k ∈ required, k ∉ fields := by
  unfold extractResult at h
  split at h
  next hschema =>
    cases h
    simp [hschema]
  next hschema =>
    split at h
    · nomatch h
    next required hrequired =>
      split at h
      next err hfields =>
        cases h
        simp [hschema, hfields]
      next fields hfields =>
        split at h
        next k hk =>
          cases h
          have hmissing : k ∉ fields := by simpa using List.find?_some hk
          simpa [hschema, hrequired, hfields] using ⟨k, List.mem_of_find?_eq_some hk, hmissing⟩
        next hnone =>
          cases h
          simpa [hschema, hrequired, hfields] using hnone

lemma delegationResult_isError (child : Session) (x : Extracted) :
    (delegationResult (resolution d (outcomeOf child x).1 (outcomeOf child x).2.2.1
      (outcomeOf child x).2.2.2)).isError = x.boundExceeded := by
  cases hx : x.boundExceeded <;> simp [outcomeOf, hx, resolution, delegationResult]

/-- A call has found a child, and finalizes its delegation. The result that `ResumeDelegation`
appends for the parent's tool use is an error exactly if a return schema is declared and the child's
last content is not an object with the fields that it requires. Whether the child failed does not
count, and the reason of its failure is not passed on. -/
theorem childResult_isError_iff (setup : Setup) (w w' : World) (i : ℕ) (d : Delegation)
    (child : Session) (text : String) (engaged : Permissions.TaintState)
    (res : DelegationResolution) (hfound : w.calls[i]? = some (.found d child))
    (hstep : (resolver setup).step w (.finalize i (.ok text) engaged none) = some w')
    (hres : w'.calls[i]? = some (.finalized d res)) :
    (delegationResult res).isError = true ↔ d.returnSchema ≠ "" ∧ ∀ required fields,
      setup.json.required d.returnSchema = .ok required →
        setup.json.fields text = .ok fields → ∃ k ∈ required, k ∉ fields := by
  simp only [resolver, hfound, Except.bind] at hstep
  split at hstep
  · cases hstep
    nomatch (getElem?_set_of_some hfound _).symm.trans hres
  · contradiction
  next x hx _ =>
    cases hstep
    rw [← extractResult_boundExceeded hx, ← delegationResult_isError (d := d) child x]
    unfold World.finalize at hres
    dsimp only at hres
    split at hres
    · obtain ⟨⟩ := (getElem?_set_of_some hfound _).symm.trans hres
      rfl
    · split at hres <;> nomatch (getElem?_set_of_some hfound _).symm.trans hres

/-- Session 2 ended failed while session 1 waits for it. -/
def childFailed : UUID → Session
  | 1 => { status := .suspended }
  | 2 => { status := .failed, terminalReason := some "max_turns_exceeded" }
  | _ => {}

def answerSchema : String := "\x7b\"required\":[\"answer\"]\x7d"

/-- What the child said last: a text that is no JSON object. -/
def lastContent : String := "I ran out of turns"

/-- The JSON library at the two texts. -/
def knownJson : Json where
  required schema :=
    if schema = answerSchema then .ok ["answer"] else .error "unexpected end of JSON input"
  fields _ := .error "invalid character 'I' looking for beginning of value"
  output text := "\x7b\"output\":" ++ Go.quote text ++ "\x7d"

def knownSetup : Setup := { json := knownJson, lock := false, fanout := false }

/-- A call finds the delegation to the child that failed. -/
def findFailed (schema : String) : List Action :=
  [.insert { delegationTo2 with returnSchema := schema }, .call 2, .find 0 none]

def foundFailed (schema : String) : World :=
  ((resolver knownSetup).run (initial childFailed) (findFailed schema)).getD {}

theorem failedChild_refusedReturn_isError :
    (resolver knownSetup).Reaches (initial childFailed) (foundFailed answerSchema) ∧
      ∃ w' d res, (resolver knownSetup).step (foundFailed answerSchema)
          (.finalize 0 (.ok lastContent) {} none) = some w' ∧
        w'.calls[0]? = some (.finalized d res) ∧ (delegationResult res).isError = true := by
  refine ⟨.of_run (findFailed answerSchema) rfl, _, _, _, rfl, rfl, ?_⟩
  refine (childResult_isError_iff knownSetup (foundFailed answerSchema) _ 0
    { delegationTo2 with returnSchema := answerSchema } _ lastContent {} _ rfl rfl rfl).2
    ⟨by decide, ?_⟩
  simp [knownSetup, knownJson]

/-- Without a return schema a child that failed is reported as one that returned. -/
theorem failedChild_reported_returned :
    (resolver knownSetup).Reaches (initial childFailed) (foundFailed "") ∧
      ∃ w' d res, (resolver knownSetup).step (foundFailed "")
          (.finalize 0 (.ok lastContent) {} none) = some w' ∧
        w'.calls[0]? = some (.finalized d res) ∧ (delegationResult res).isError = false :=
  ⟨.of_run (findFailed "") rfl, _, _, _, rfl, rfl, rfl⟩

end NexusAgent.Delegate
