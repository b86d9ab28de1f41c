import NexusAgent.Queue.Streams

/-!
# When the queue loses a job

A job that is failed for another attempt is moved: its entry is retired, and then the job is added
to the stream or to the delay buffer. A job whose delay is over is moved as well: it is removed
from the delay buffer and then added to the stream. In both cases these are two commands, and
between them the job is nowhere but in the call that moves it.
-/

namespace NexusAgent.Queue

open Routine

/-! ### What a call has done -/

/-- What a call has been given, and what it has taken away. -/
structure Note where
  /-- The entry that the consumer group handed out. -/
  delivered : Option Entry := none
  /-- The claim record that was read, and for which job. -/
  held : Option (UUID × ℕ × Job) := none
  /-- The job that was removed and not added again yet. -/
  carried : Option UUID := none

def Note.after (q : Note) : (o : Command) → o.Answer → Note
  | .xautoclaim _, entry => { q with delivered := entry }
  | .xreadgroup _, entry => { q with delivered := entry }
  | .hgetall jobID, (found : Option (ℕ × Job)) => { q with held := found.map (jobID, ·) }
  | .retire completes _ _, _ =>
    { q with held := none, carried := if completes then none else q.held.map fun h => h.2.2.jobID }
  | .zrem m, (removed : Bool) => if removed then { q with carried := m.jobID? } else q
  | .xadd _, _ | .zadd _ _, _ | .deadLetter _ _, _ => { q with carried := none }
  | _, _ => q

/-- The calls of the queue, by any number of workers. -/
def queue : Workforce Task Redis Note Command Command.Answer Pick where
  program := Task.program
  handle := Redis.handle
  blank := {}
  note := Note.after

/-- Redis and the calls that are under way. -/
abbrev Workers := Pool Redis Note Command Command.Answer

/-- No call is cut off while it carries a job. -/
def Uninterrupted (p : Workers) : PoolAction Task Pick → Prop
  | .cut i => ∀ r ∈ p.running[i]?, r.note.carried = none
  | _ => True

instance (p : Workers) (a : PoolAction Task Pick) : Decidable (Uninterrupted p a) := by
  cases a <;> unfold Uninterrupted <;> infer_instance

/-! ### What the calls keep to -/

/-- A job is removed only by a call that carries none, by the entry of its claim record, and what
is carried is added before anything else is done. -/
def admits (q : Note) : Command → Prop
  | .now => True
  | .xadd values => q.carried = none ∨ q.carried = values.jobID?
  | .zadd m _ => q.carried = none ∨ q.carried = m.jobID?
  | .deadLetter job _ => q.carried = some job.jobID
  | .retire _ jobID entryID => q.carried = none ∧ ∃ job, q.held = some (jobID, entryID, job)
  | .record entryID job => q.carried = none ∧
      ∃ e, q.delivered = some e ∧ e.id = entryID ∧ e.values.jobID? = some job.jobID
  | .discard entry _ => q.carried = none ∧ q.delivered = some entry ∧ entry.values.jobID? = none
  | _ => q.carried = none

/-- Nothing is carried before and after. -/
abbrev Unladen {α : Type} (c : Call α) : Prop :=
  Keeps (queue.protocol admits) (fun _ q => q.carried = none) c fun q => q.carried = none

lemma unladen_now : Unladen now := by
  refine keeps_request fun _ q hq => ⟨trivial, ?_⟩
  rintro _ _ rfl
  exact hq

lemma unladen_newUUID : Unladen newUUID := by
  refine keeps_request fun _ q hq => ⟨hq, ?_⟩
  rintro _ _ rfl
  exact hq

lemma unladen_xadd (values : Values) : Unladen (xadd values) := by
  refine keeps_request fun _ q hq => ⟨.inl hq, ?_⟩
  rintro _ _ rfl
  rfl

lemma unladen_pushDelayed (job : Job) (t : ℤ) : Unladen (pushDelayed job t) := by
  refine keeps_request fun _ q hq => ⟨.inl hq, ?_⟩
  rintro _ _ rfl
  rfl

lemma unladen_enqueue (job : Job) : Unladen (enqueue job) := by
  refine keeps_bind ?_ fun jobID => keeps_bind unladen_now fun createdAt =>
    keeps_bind unladen_now fun t => ?_
  · unfold identify
    split
    · exact unladen_newUUID
    · exact keeps_pure _
  · split
    · split
      · exact keeps_bind (unladen_pushDelayed _ _) fun _ => keeps_pure _
      · exact keeps_bind (unladen_xadd _) fun _ => keeps_pure _
    · exact keeps_bind (unladen_xadd _) fun _ => keeps_pure _

/-- A job that was removed from the delay buffer is added to the stream. -/
lemma unladen_promote (ms : List Member) : Unladen (promote ms) := by
  induction ms with
  | nil => exact keeps_pure ()
  | cons m rest ih =>
    intro _ q hq
    refine wp_ask hq ?_
    rintro (removed : Bool) _ rfl
    cases removed with
    | false => exact ih () q hq
    | true =>
      cases m with
      | malformed raw => exact ih () _ rfl
      | job job =>
        refine wp_ask (.inr rfl) ?_
        rintro _ _ rfl
        exact ih () _ rfl

lemma wp_claim (owner : String) {entry : Entry} {q : Note} (hq : q.carried = none)
    (hentry : q.delivered = some entry) {R : Job → Unit → Note → Prop}
    (hR : ∀ job q', q'.carried = none → R job () q') :
    wp (queue.protocol admits) (claim owner entry) R (fun q => q.carried = none) () q := by
  unfold claim
  cases hvalues : entry.values with
  | other raw reason =>
    refine wp_ask ⟨hq, hentry, by rw [hvalues]; rfl⟩ ?_
    rintro _ _ rfl
    exact hq
  | job jobID tenantID sessionID sessionKey kind attempts =>
    refine wp_ask hq ?_
    rintro prior _ rfl
    refine wp_ask ⟨hq, entry, hentry, rfl, by rw [hvalues]; rfl⟩ ?_
    rintro _ _ rfl
    exact hR _ _ hq

lemma unladen_lease (owner : String) : Unladen (lease owner) := by
  refine keeps_bind (keeps_bind unladen_now fun t => ?_) fun _ => ?_
  · refine keeps_bind (keeps_request fun _ q hq => ⟨hq, ?_⟩) unladen_promote
    rintro _ _ rfl
    exact hq
  intro _ q hq
  refine wp_ask hq ?_
  rintro (claimed : Option Entry) _ rfl
  match claimed with
  | some entry => exact wp_bind.2 (wp_claim owner (by exact hq) rfl fun _ _ hq' => hq')
  | none =>
    refine wp_ask hq ?_
    rintro (read : Option Entry) _ rfl
    match read with
    | some entry => exact wp_bind.2 (wp_claim owner (by exact hq) rfl fun _ _ hq' => hq')
    | none => exact hq

lemma unladen_complete (jobID : UUID) : Unladen (complete jobID) := by
  intro _ q hq
  refine wp_ask hq ?_
  rintro (found : Option (ℕ × Job)) _ rfl
  match found with
  | none => exact hq
  | some (entryID, job) =>
    refine wp_request.2 ⟨⟨hq, job, rfl⟩, ?_⟩
    rintro _ _ rfl
    rfl

/-- What is retired is carried until it is added again or dead-lettered. -/
lemma unladen_fail (jobID : UUID) (reason : String) (permanent : Bool) (retryAt : ℤ) :
    Unladen (fail jobID reason permanent retryAt) := by
  intro _ q hq
  refine wp_ask hq ?_
  rintro (found : Option (ℕ × Job)) _ rfl
  match found with
  | none => exact hq
  | some (entryID, job) =>
    refine wp_ask ⟨hq, job, rfl⟩ ?_
    rintro _ _ rfl
    cases permanent with
    | true =>
      refine wp_request.2 ⟨rfl, ?_⟩
      rintro _ _ rfl
      rfl
    | false =>
      refine wp_ask trivial ?_
      rintro (t : ℤ) _ rfl
      by_cases hlater : t < retryAt
      · rw [if_pos hlater]
        refine wp_request.2 ⟨.inr rfl, ?_⟩
        rintro _ _ rfl
        rfl
      · rw [if_neg hlater]
        refine wp_request.2 ⟨.inr rfl, ?_⟩
        rintro _ _ rfl
        rfl

lemma unladen_program (task : Task) : Unladen task.program := by
  cases task with
  | enqueue job => exact keeps_bind (unladen_enqueue job) fun _ => keeps_pure ()
  | lease owner => exact keeps_bind (unladen_lease owner) fun _ => keeps_pure ()
  | complete jobID => exact unladen_complete jobID
  | fail jobID reason permanent retryAt => exact unladen_fail jobID reason permanent retryAt
  | expire jobID =>
    refine keeps_request fun _ q hq => ⟨hq, ?_⟩
    rintro _ _ rfl
    exact hq
  | foreign raw reason => exact unladen_xadd _

/-! ### The entries and the claim records -/

/-- If an entry with this identifier is in the stream, it is of this job (of none, if it cannot be
parsed); and no other entry will ever get the identifier. -/
def Belongs (w : Redis) (entryID : ℕ) (jobID : Option UUID) : Prop :=
  entryID ≤ w.lastID ∧ ∀ e ∈ w.stream, e.id = entryID → e.values.jobID? = jobID

structure WellFormed (w : Redis) : Prop where
  ids : ∀ e ∈ w.stream, e.id ≤ w.lastID
  distinct : (w.stream.map Entry.id).Nodup
  claims : ∀ jobID entryID job, w.claims jobID = some (entryID, job) →
    job.jobID = jobID ∧ Belongs w entryID (some jobID)

/-- So do the entry and the claim record that a call has read. -/
structure Note.Valid (w : Redis) (q : Note) : Prop where
  delivered : ∀ e, q.delivered = some e → Belongs w e.id e.values.jobID?
  held : ∀ jobID entryID job, q.held = some (jobID, entryID, job) →
    job.jobID = jobID ∧ Belongs w entryID (some jobID)

section

variable {w : Redis} {o : Command} {q : Note}

/-- Entries are added by `XADD` only, under the next identifier. -/
lemma after_stream (w : Redis) (o : Command) :
    (∃ values, o = .xadd values) ∨
      (w.after o).stream.Sublist w.stream ∧ (w.after o).lastID = w.lastID := by
  cases o with
  | xadd values => exact .inl ⟨values, rfl⟩
  | retire | discard => exact .inr ⟨List.filter_sublist, rfl⟩
  | _ => exact .inr ⟨List.Sublist.refl _, rfl⟩

lemma Belongs.after {entryID : ℕ} {jobID : Option UUID} (h : Belongs w entryID jobID)
    (o : Command) : Belongs (w.after o) entryID jobID := by
  obtain ⟨hle, hof⟩ := h
  rcases after_stream w o with ⟨values, rfl⟩ | ⟨hsub, hlast⟩
  · refine ⟨Nat.le_succ_of_le hle, List.forall_mem_append.2 ⟨hof, ?_⟩⟩
    -- the new entry has an identifier of its own
    exact List.forall_mem_singleton.2 fun hid => absurd (hid ▸ hle) (Nat.not_succ_le_self _)
  · exact ⟨hlast ▸ hle, fun e he hid => hof e (hsub.subset he) hid⟩

lemma WellFormed.belongs (h : WellFormed w) {e : Entry} (he : e ∈ w.stream) :
    Belongs w e.id e.values.jobID? := by
  refine ⟨h.ids e he, fun e' he' hid => ?_⟩
  rw [List.inj_on_of_nodup_map h.distinct he' he hid]

/-- Claim records are written by `Lease` only. -/
lemma after_claims {jobID : UUID} {c : ℕ × Job} (h : (w.after o).claims jobID = some c) :
    w.claims jobID = some c ∨ ∃ entryID job, o = .record entryID job ∧ job.jobID = jobID ∧
      c = (entryID, job) := by
  have hupdate {x : UUID} {y : Option (ℕ × Job)}
      (h : Function.update w.claims x y jobID = some c) :
      w.claims jobID = some c ∨ x = jobID ∧ y = some c := by
    by_cases hx : jobID = x
    · subst hx
      exact .inr ⟨rfl, by simpa using h⟩
    · exact .inl (by simpa [hx] using h)
  cases o with
  | record entryID job =>
    rcases hupdate h with hold | ⟨hid, hc⟩
    · exact .inl hold
    · exact .inr ⟨entryID, job, rfl, hid, (Option.some.inj hc).symm⟩
  | retire | expire =>
    rcases hupdate h with hold | ⟨-, hc⟩
    · exact .inl hold
    · nomatch hc
  | _ => exact .inl h

lemma WellFormed.after (h : WellFormed w) (hq : q.Valid w) (hadmits : admits q o) :
    WellFormed (w.after o) := by
  refine ⟨?_, ?_, fun jobID entryID job hclaim => ?_⟩
  · rcases after_stream w o with ⟨values, rfl⟩ | ⟨hsub, hlast⟩
    · refine List.forall_mem_append.2 ⟨fun e he => Nat.le_succ_of_le (h.ids e he), ?_⟩
      exact List.forall_mem_singleton.2 le_rfl
    · exact fun e he => hlast ▸ h.ids e (hsub.subset he)
  · rcases after_stream w o with ⟨values, rfl⟩ | ⟨hsub, -⟩
    · show ((w.stream ++ [_]).map Entry.id).Nodup
      rw [List.map_append, List.nodup_append']
      refine ⟨h.distinct, List.nodup_singleton _, ?_⟩
      intro i hi hnew
      obtain ⟨e, he, rfl⟩ := List.mem_map.1 hi
      have hle := h.ids e he
      have heq : e.id = w.lastID + 1 := by simpa using hnew
      omega
    · exact h.distinct.sublist (hsub.map _)
  · rcases after_claims hclaim with hold | ⟨entryID', job', rfl, rfl, hc⟩
    · obtain ⟨hjob, hbelongs⟩ := h.claims jobID entryID job hold
      exact ⟨hjob, hbelongs.after o⟩
    · cases hc
      obtain ⟨-, e, he, rfl, hid⟩ := hadmits
      refine ⟨rfl, ?_⟩
      have hbelongs := (hq.delivered e he).after (.record e.id job)
      rwa [hid] at hbelongs

lemma Note.Valid.frame (h : q.Valid w) (o : Command) : q.Valid (w.after o) where
  delivered e he := (h.delivered e he).after o
  held jobID entryID job hheld :=
    have hold := h.held jobID entryID job hheld
    ⟨hold.1, hold.2.after o⟩

lemma Note.Valid.after (h : q.Valid w) (hw : WellFormed w) {t : Pick} {a : o.Answer}
    (ha : w.answer o t = some a) : (q.after o a).Valid (w.after o) := by
  have hframe := h.frame o
  cases o with
  | xautoclaim owner | xreadgroup owner =>
    refine ⟨fun e he => ?_, hframe.held⟩
    cases t with
    | entry read =>
      obtain ⟨hmem, ha⟩ := Option.ite_none_right_eq_some.1 ha
      cases ha
      exact hw.belongs (hmem e he)
    | _ => nomatch ha
  | hgetall jobID =>
    refine ⟨hframe.delivered, fun id entryID job hheld => ?_⟩
    obtain ⟨c, hc, heq⟩ := Option.map_eq_some_iff.1 hheld
    cases heq
    cases t with
    | plain =>
      cases ha
      exact hw.claims _ _ _ hc
    | unread =>
      cases ha
      nomatch hc
    | _ => nomatch ha
  | retire completes jobID entryID => exact ⟨hframe.delivered, fun _ _ _ hheld => nomatch hheld⟩
  | zrem m =>
    match a with
    | true => exact ⟨hframe.delivered, hframe.held⟩
    | false => exact hframe
  | _ => exact ⟨hframe.delivered, hframe.held⟩

end

/-- The claim records lead to the entries of their jobs, and the calls know it. -/
def bookkeeping : Upkeep queue where
  World := WellFormed
  Note w q := q.Valid w
  admits := admits
  Ended q := q.carried = none
  blank w := ⟨(fun _ he => nomatch he), (fun _ _ _ hheld => nomatch hheld)⟩
  follows task := by
    refine Process.Follows.mono (unladen_program task () {} rfl) fun r q' hr => ?_
    cases r with
    | none | some => exact hr
  exec hw hq hadmits hhandle := by
    obtain ⟨ha, rfl⟩ := Redis.handle_eq_some.1 hhandle
    exact ⟨hw.after hq hadmits, hq.after hw ha⟩
  frame _ _ _ hhandle hq' := by
    obtain ⟨-, rfl⟩ := Redis.handle_eq_some.1 hhandle
    exact hq'.frame _

/-! ### Where a job is -/

/-- A job that was added, and neither completed nor dead-lettered. -/
structure Outstanding (w : Redis) (jobID : UUID) : Prop where
  enqueued : jobID ∈ w.enqueued
  not_completed : jobID ∉ w.completed
  not_deadLettered : jobID ∉ w.deadLettered

instance (w : Redis) (jobID : UUID) : Decidable (Outstanding w jobID) :=
  decidable_of_iff (jobID ∈ w.enqueued ∧ jobID ∉ w.completed ∧ jobID ∉ w.deadLettered)
    ⟨fun h => ⟨h.1, h.2.1, h.2.2⟩, fun h => ⟨h.enqueued, h.not_completed, h.not_deadLettered⟩⟩

def Present (w : Redis) (jobID : UUID) : Prop :=
  (∃ e ∈ w.stream, e.values.jobID? = some jobID) ∨ ∃ d ∈ w.delayed, d.1.jobID? = some jobID

instance (w : Redis) (jobID : UUID) : Decidable (Present w jobID) :=
  inferInstanceAs (Decidable ((∃ e ∈ w.stream, _) ∨ ∃ d ∈ w.delayed, _))

/-- The command adds the job to the stream, to the delay buffer or to the dead-letter stream. -/
def Command.Adds (jobID : UUID) : Command → Prop
  | .xadd values => values.jobID? = some jobID
  | .zadd m _ => m.jobID? = some jobID
  | .deadLetter job _ => job.jobID = jobID
  | _ => False

/-- The next command that a call sends to Redis adds the job. -/
def Returns (jobID : UUID) : Process Command Command.Answer (Option (Unit × Unit)) → Prop
  | .done _ => False
  | .ask .now k => ∀ t, Returns jobID (k t)
  | .ask o _ => o.Adds jobID

section

variable {w : Redis} {o : Command} {q : Note} {jobID : UUID}

lemma Command.Adds.present (h : o.Adds jobID) (hout : Outstanding (w.after o) jobID) :
    Present (w.after o) jobID := by
  cases o with
  | xadd values => exact .inl ⟨_, List.mem_append_right _ (List.mem_singleton_self _), h⟩
  | zadd m score => exact .inr ⟨_, List.mem_append_right _ (List.mem_singleton_self _), h⟩
  | deadLetter job reason =>
    obtain rfl : job.jobID = jobID := h
    exact absurd List.mem_cons_self hout.not_deadLettered
  | _ => exact h.elim

lemma Outstanding.of_after (h : Outstanding (w.after o) jobID) :
    Outstanding w jobID ∨ o.Adds jobID := by
  obtain ⟨henqueued, hcompleted, hdead⟩ := h
  cases o with
  | xadd | zadd =>
    rcases List.mem_append.1 henqueued with hnew | hold
    · exact .inr (Option.mem_toList.1 hnew)
    · exact .inl ⟨hold, hcompleted, hdead⟩
  | retire completes id entryID =>
    refine .inl ⟨henqueued, fun hmem => hcompleted ?_, hdead⟩
    cases completes with
    | true => exact List.mem_cons_of_mem _ hmem
    | false => exact hmem
  | deadLetter job reason =>
    exact .inl ⟨henqueued, hcompleted, fun hmem => hdead (List.mem_cons_of_mem _ hmem)⟩
  | _ => exact .inl ⟨henqueued, hcompleted, hdead⟩

lemma stream_after (hq : q.Valid w) (hadmits : admits q o) (a : o.Answer)
    (hout : Outstanding (w.after o) jobID) {e : Entry} (he : e ∈ w.stream)
    (hid : e.values.jobID? = some jobID) :
    e ∈ (w.after o).stream ∨ (q.after o a).carried = some jobID := by
  cases o with
  | xadd values => exact .inl (List.mem_append_left _ he)
  | retire completes id entryID =>
    by_cases hentry : e.id = entryID
    · -- it is the entry of the claim record, so its job is the one that is retired
      obtain ⟨-, job, hheld⟩ := hadmits
      obtain ⟨hjob, -, hof⟩ := hq.held id entryID job hheld
      obtain rfl : jobID = id := Option.some.inj (hid.symm.trans (hof e he hentry))
      cases completes with
      | true => exact absurd List.mem_cons_self hout.not_completed
      | false =>
        right
        show q.held.map (fun h => h.2.2.jobID) = some jobID
        rw [hheld, ← hjob]
        rfl
    · exact .inl (List.mem_filter.2 ⟨he, decide_eq_true hentry⟩)
  | discard entry reason =>
    obtain ⟨-, hdelivered, hnone⟩ := hadmits
    refine .inl (List.mem_filter.2 ⟨he, decide_eq_true fun hentry => ?_⟩)
    have hof := (hq.delivered entry hdelivered).2 e he hentry
    rw [hid, hnone] at hof
    nomatch hof
  | _ => exact .inl he

lemma delayed_after {t : Pick} {a : o.Answer} (ha : w.answer o t = some a)
    {d : Member × ℤ} (hd : d ∈ w.delayed) (hid : d.1.jobID? = some jobID) :
    (∃ d' ∈ (w.after o).delayed, d'.1.jobID? = some jobID) ∨
      (q.after o a).carried = some jobID := by
  cases o with
  | zadd m score =>
    left
    by_cases hm : d.1 = m
    · exact ⟨(m, score), List.mem_append_right _ (List.mem_singleton_self _), hm ▸ hid⟩
    · exact ⟨d, List.mem_append_left _ (List.mem_filter.2 ⟨hd, decide_eq_true hm⟩), hid⟩
  | zrem m =>
    by_cases hm : d.1 = m
    · -- `ZREM` answers that it has removed the member
      right
      cases t with
      | plain =>
        cases ha
        have hremoved : (w.delayed.any fun d => d.1 = m) = true :=
          List.any_eq_true.2 ⟨d, hd, decide_eq_true hm⟩
        show (if (w.delayed.any fun d => d.1 = m) = true then _ else _ : Note).carried = _
        rw [if_pos hremoved, ← hid, hm]
      | _ => nomatch ha
    · exact .inl ⟨d, List.mem_filter.2 ⟨hd, decide_eq_true hm⟩, hid⟩
  | _ => exact .inl ⟨d, hd, hid⟩

lemma adds_of_carried (hadmits : admits q o) (hcarried : q.carried = some jobID) :
    o.Adds jobID ∨ o = .now := by
  have hsome {x : Option UUID} (h : q.carried = none ∨ q.carried = x) : x = some jobID := by
    rcases h with h | h
    · nomatch hcarried.symm.trans h
    · exact h.symm.trans hcarried
  cases o with
  | now => exact .inr rfl
  | xadd | zadd => exact .inl (hsome hadmits)
  | deadLetter job reason => exact .inl (Option.some.inj (hsome (.inr hadmits)))
  | retire _ _ _ | record _ _ | discard _ _ => nomatch hcarried.symm.trans hadmits.1
  | _ => nomatch hcarried.symm.trans hadmits

lemma returns_of_follows {r : Process Command Command.Answer (Option (Unit × Unit))}
    (h : r.Follows (queue.protocol admits) q fun _ q' => q'.carried = none)
    (hcarried : q.carried = some jobID) : Returns jobID r := by
  induction r generalizing q with
  | done result => nomatch hcarried.symm.trans h
  | ask o k ih =>
    have hadmits : admits q o := h.1
    rcases adds_of_carried hadmits hcarried with hadds | rfl
    · cases o with
      | now => exact hadds.elim
      | _ => exact hadds
    · exact fun t => ih t (h.2 t _ rfl) hcarried

end

/-! ### The runs -/

def Accounted (p : Workers) : Prop :=
  ∀ jobID, Outstanding p.world jobID →
    Present p.world jobID ∨ ∃ r ∈ p.running, r.note.carried = some jobID

lemma accounted_step {p p' : Workers} {a : PoolAction Task Pick} (hU : bookkeeping.Holds p)
    (h : Accounted p) (hG : Uninterrupted p a) (hst : queue.Taken p a p') : Accounted p' := by
  intro jobID hout
  cases hst with
  | start task =>
    refine (h jobID hout).imp_right ?_
    rintro ⟨r, hr, hcarried⟩
    exact ⟨r, List.mem_append_left _ hr, hcarried⟩
  | @exec before after r o k t a w hrunning hlive hhandle =>
    obtain ⟨ha, rfl⟩ := Redis.handle_eq_some.1 hhandle
    have hr : r ∈ p.running := hrunning ▸ List.mem_append_right _ List.mem_cons_self
    have hfollows := hU.follows r hr
    rw [hlive] at hfollows
    have hadmits : admits r.note o := hfollows.1
    have hvalid : r.note.Valid p.world := hU.note r hr
    have hthis (hcarried : (r.note.after o a).carried = some jobID) :
        ∃ r' ∈ before ++ { live := k a, note := r.note.after o a } :: after,
          r'.note.carried = some jobID :=
      ⟨_, List.mem_append_right _ List.mem_cons_self, hcarried⟩
    rcases hout.of_after with hold | hadds
    · rcases h jobID hold with (⟨e, he, hid⟩ | ⟨d, hd, hid⟩) | ⟨r', hr', hcarried⟩
      · rcases stream_after hvalid hadmits a hout he hid with hstays | hcarried
        · exact .inl (.inl ⟨e, hstays, hid⟩)
        · exact .inr (hthis hcarried)
      · rcases delayed_after (q := r.note) ha hd hid with hstays | hcarried
        · exact .inl (.inr hstays)
        · exact .inr (hthis hcarried)
      · rw [hrunning, List.mem_append, List.mem_cons] at hr'
        rcases hr' with hbefore | rfl | hafter
        · exact .inr ⟨r', List.mem_append_left _ hbefore, hcarried⟩
        · rcases adds_of_carried hadmits hcarried with hadds | rfl
          · exact .inl (hadds.present hout)
          · exact .inr (hthis hcarried)
        · exact .inr ⟨r', List.mem_append_right _ (List.mem_cons_of_mem _ hafter), hcarried⟩
    · exact .inl (hadds.present hout)
  | @cut before after r hrunning =>
    refine (h jobID hout).imp_right ?_
    rintro ⟨r', hr', hcarried⟩
    rw [hrunning, List.mem_append, List.mem_cons] at hr'
    rcases hr' with hbefore | rfl | hafter
    · exact ⟨r', List.mem_append_left _ hbefore, hcarried⟩
    · -- the call that is cut off carries nothing
      have hnone := hG r' (by rw [hrunning]; simp)
      nomatch hcarried.symm.trans hnone
    · exact ⟨r', List.mem_append_right _ hafter, hcarried⟩

/-- If no call is cut off while it carries a job, then every outstanding job is in the stream or in
the delay buffer, or a call is under way whose next command to Redis adds it. -/
theorem jobs_kept {p : Workers} (h : queue.machine.ReachesBy Uninterrupted { world := {} } p)
    (jobID : UUID) (hout : Outstanding p.world jobID) :
    Present p.world jobID ∨
      ∃ r ∈ p.running, r.note.carried = some jobID ∧ Returns jobID r.live := by
  have hempty : WellFormed {} :=
    ⟨(fun _ he => nomatch he), List.nodup_nil, (fun _ _ _ hclaim => nomatch hclaim)⟩
  obtain ⟨hU, haccounted⟩ : bookkeeping.Holds p ∧ Accounted p := by
    refine h.invariant (I := fun p => bookkeeping.Holds p ∧ Accounted p)
      ⟨⟨hempty, (fun _ hr => nomatch hr), (fun _ hr => nomatch hr)⟩, ?_⟩ ?_
    · exact fun _ hout => nomatch hout.enqueued
    · intro p a p' hp hG hst
      have htaken := Workforce.taken_of_step hst
      exact ⟨bookkeeping.step hp.1 htaken, accounted_step hp.1 hp.2 hG htaken⟩
  refine (haccounted jobID hout).imp_right ?_
  rintro ⟨r, hr, hcarried⟩
  exact ⟨r, hr, hcarried, returns_of_follows (hU.follows r hr) hcarried⟩

def leased : List (PoolAction Task Pick) :=
  [.start (.enqueue { jobID := 1 }), .exec 0 (.time 0), .exec 0 (.time 0), .exec 0 .plain, .cut 0,
    .start (.lease "w"), .exec 0 (.time 0), .exec 0 (.due []), .exec 0 (.entry none),
    .exec 0 (.entry (some { id := 1, values := jobFields { jobID := 1 } })), .exec 0 .plain,
    .exec 0 .plain, .cut 0]

/-- Job 1 is leased, and then failed up to and including the command that retires its entry. -/
def retired : List (PoolAction Task Pick) :=
  leased ++ [.start (.fail 1 "error" false 1000000), .exec 0 .plain, .exec 0 .plain]

/-- Job 1 is retried after a delay, and a call that promotes it has removed it from the delay
buffer. -/
def promoting : List (PoolAction Task Pick) :=
  let job : Job := { jobID := 1, status := .leased, attempts := 1, leaseOwner := "w" }
  retired ++ [.exec 0 (.time 0), .exec 0 .plain, .cut 0, .start (.lease "w"),
    .exec 0 (.time 1000000), .exec 0 (.due [.job job]), .exec 0 .plain]

/-- In the middle of a promotion, the call that promotes the job will add it. -/
theorem promoting_returns :
    ∃ p, queue.machine.ReachesBy Uninterrupted { world := {} } p ∧ Outstanding p.world 1 ∧
      ¬ Present p.world 1 ∧ ∃ r ∈ p.running, Returns 1 r.live := by
  refine Machine.ReachesBy.exists_of_runBy_imp promoting
    (fun p => Outstanding p.world 1 ∧ ¬ Present p.world 1) ?_ fun p hp ⟨hout, habsent⟩ => ?_
  · decide +kernel
  obtain ⟨r, hr, -, hreturns⟩ := (jobs_kept hp 1 hout).resolve_left habsent
  exact ⟨hout, habsent, r, hr, hreturns⟩

/-- A job is lost when the call that fails it, or the one that promotes it, is cut off. -/
theorem cutCall_loses :
    (∃ p, queue.machine.run { world := {} } (retired ++ [.cut 0]) = some p ∧
      Outstanding p.world 1 ∧ ¬ Present p.world 1 ∧ p.running.length = 0) ∧
    ∃ p, queue.machine.run { world := {} } (promoting ++ [.cut 0]) = some p ∧
      Outstanding p.world 1 ∧ ¬ Present p.world 1 ∧ p.running.length = 0 := by
  constructor
  all_goals
    apply Machine.exists_run
    decide +kernel

end NexusAgent.Queue
