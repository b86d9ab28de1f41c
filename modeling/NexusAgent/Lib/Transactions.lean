import Mathlib.Data.List.Lattice
import NexusAgent.Lib.Lists
import NexusAgent.Lib.Machine
import NexusAgent.Lib.Process

/-!
# Transactions

Programs that run as transactions against one store, statement by statement and in any
interleaving. A statement sees what is committed at that moment and what its own transaction has
written (read committed). It may take locks, which are held to the end of the transaction; a
statement that has to wait for one cannot be taken yet. It may also change what is shared by all
transactions and restored by no rollback, such as a sequence. A transaction whose program has
returned can commit, and every transaction can be rolled back at any time.

- `TxStore.Taken`: what a step of the machine can be.
- `Isolation.holds`: an assertion about what is committed, and one about each transaction, hold
  throughout if the statements of a transaction keep its own and the commit of a transaction
  keeps those of all others, of which it may be assumed that they hold other locks.
-/

structure TxEffect (D K N α : Type) where
  answer : α
  /-- What is added to the transaction's own writes. -/
  writes : D
  /-- The locks that are taken, which the transaction may hold already. -/
  locks : List K := []
  shared : N

/-- A store with data `D`, locks `K` and shared state `N`, and the programs of the jobs `J` that
are run against it. What the surroundings decide in a statement is a `T`. -/
structure TxStore (J D K N O : Type) (Ans : O → Type) (T : Type) where
  /-- The program of a job, which commits if it returns. -/
  program : J → Routine Unit O Ans Unit
  /-- A statement of a transaction that sees this data. -/
  exec : D → N → (o : O) → T → Option (TxEffect D K N (Ans o))

/-- A transaction under way. -/
structure Tx (J D K O : Type) (Ans : O → Type) where
  job : J
  live : Process O Ans (Option (Unit × Unit))
  written : D
  locks : List K := []

structure Transactions (J D K N O : Type) (Ans : O → Type) where
  committed : D
  shared : N
  txs : List (Tx J D K O Ans) := []

/-- The actions of the transactions; `i` is the place of the transaction among the open ones. -/
inductive TxAction (J T : Type)
  | start (job : J)
  | exec (i : ℕ) (t : T)
  | commit (i : ℕ)
  | rollback (i : ℕ)

section

variable {J D K N O : Type} {Ans : O → Type} {T : Type}

def Tx.after [Append D] (tx : Tx J D K O Ans) {o : O}
    (k : Ans o → Process O Ans (Option (Unit × Unit))) (eff : TxEffect D K N (Ans o)) :
    Tx J D K O Ans :=
  { tx with
    live := k eff.answer, written := tx.written ++ eff.writes, locks := tx.locks ++ eff.locks }

/-- Two transactions that hold no lock in common. -/
def Tx.Apart (tx tx' : Tx J D K O Ans) : Prop := tx.locks.Disjoint tx'.locks

lemma Tx.Apart.symm {tx tx' : Tx J D K O Ans} (h : tx.Apart tx') : tx'.Apart tx :=
  List.Disjoint.symm h

namespace TxStore

variable (S : TxStore J D K N O Ans T)

/-- A transaction that has just begun. -/
def begun [EmptyCollection D] (job : J) : Tx J D K O Ans :=
  { job, live := (S.program job ()).run, written := ∅ }

def machine [Append D] [EmptyCollection D] [DecidableEq K] :
    Machine (Transactions J D K N O Ans) (TxAction J T) where
  step w
    | .start job => some { w with txs := w.txs ++ [S.begun job] }
    | .exec i t =>
      w.txs[i]?.bind fun tx =>
        match tx.live with
        | .done _ => none
        | .ask o k =>
          (S.exec (w.committed ++ tx.written) w.shared o t).bind fun eff =>
            if ∀ tx' ∈ w.txs.eraseIdx i, ∀ l ∈ eff.locks, l ∉ tx'.locks then
              some { w with shared := eff.shared, txs := w.txs.set i (tx.after k eff) }
            else none
    | .commit i =>
      w.txs[i]?.bind fun tx =>
        match tx.live with
        | .done (some _) =>
          some { w with committed := w.committed ++ tx.written, txs := w.txs.eraseIdx i }
        | _ => none
    | .rollback i => w.txs[i]?.map fun _ => { w with txs := w.txs.eraseIdx i }

inductive Taken [Append D] [EmptyCollection D] (w : Transactions J D K N O Ans) :
    TxAction J T → Transactions J D K N O Ans → Prop
  | start (job : J) : Taken w (.start job) { w with txs := w.txs ++ [S.begun job] }
  | exec {before after : List (Tx J D K O Ans)} {tx : Tx J D K O Ans} {o : O}
      {k : Ans o → Process O Ans (Option (Unit × Unit))} {t : T} {eff : TxEffect D K N (Ans o)} :
      w.txs = before ++ tx :: after → tx.live = .ask o k →
      S.exec (w.committed ++ tx.written) w.shared o t = some eff →
      (∀ tx' ∈ before ++ after, ∀ l ∈ eff.locks, l ∉ tx'.locks) →
      Taken w (.exec before.length t)
        { w with shared := eff.shared, txs := before ++ tx.after k eff :: after }
  | commit {before after : List (Tx J D K O Ans)} {tx : Tx J D K O Ans} {r : Unit × Unit} :
      w.txs = before ++ tx :: after → tx.live = .done (some r) →
      Taken w (.commit before.length)
        { w with committed := w.committed ++ tx.written, txs := before ++ after }
  | rollback {before after : List (Tx J D K O Ans)} {tx : Tx J D K O Ans} :
      w.txs = before ++ tx :: after →
      Taken w (.rollback before.length) { w with txs := before ++ after }

variable {S}

lemma taken_of_step [Append D] [EmptyCollection D] [DecidableEq K]
    {w w' : Transactions J D K N O Ans} {a : TxAction J T} (h : S.machine.step w a = some w') :
    S.Taken w a w' := by
  cases a with
  | start job =>
    cases h
    exact .start job
  | exec i t =>
    obtain ⟨tx, hi, h⟩ := Option.bind_eq_some_iff.1 h
    obtain ⟨before, after, htxs, rfl, herase, hset⟩ := List.exists_split hi
    split at h
    · nomatch h
    next o k hlive =>
    obtain ⟨eff, heff, h⟩ := Option.bind_eq_some_iff.1 h
    rw [herase, hset] at h
    obtain ⟨hfree, h⟩ := Option.ite_none_right_eq_some.1 h
    cases h
    exact .exec htxs hlive heff hfree
  | commit i =>
    obtain ⟨tx, hi, h⟩ := Option.bind_eq_some_iff.1 h
    obtain ⟨before, after, htxs, rfl, herase, -⟩ := List.exists_split hi
    split at h
    · next r hlive =>
      cases h
      rw [herase]
      exact .commit htxs hlive
    · nomatch h
  | rollback i =>
    obtain ⟨tx, hi, rfl⟩ := Option.map_eq_some_iff.1 h
    obtain ⟨before, after, htxs, rfl, herase, -⟩ := List.exists_split hi
    rw [herase]
    exact .rollback htxs

end TxStore

/-- Assertions about what is committed and about each transaction. -/
structure Isolation [Append D] [EmptyCollection D] (S : TxStore J D K N O Ans T) where
  Committed : D → Prop
  /-- About a transaction, given what is committed. -/
  Own : D → Tx J D K O Ans → Prop
  begun : ∀ d job, Own d (S.begun job)
  exec : ∀ {d n tx o k t eff}, Committed d → Own d tx → tx.live = .ask o k →
    S.exec (d ++ tx.written) n o t = some eff → Own d (tx.after k eff)
  commit : ∀ {d tx r}, Committed d → Own d tx → tx.live = .done (some r) →
    Committed (d ++ tx.written)
  frame : ∀ {d tx tx' r}, Committed d → Own d tx → Own d tx' → tx.Apart tx' →
    tx'.live = .done (some r) → Own (d ++ tx'.written) tx

/-- All assertions hold, and no two transactions hold the same lock. -/
structure Isolation.Holds [Append D] [EmptyCollection D] {S : TxStore J D K N O Ans T}
    (I : Isolation S) (w : Transactions J D K N O Ans) : Prop where
  committed : I.Committed w.committed
  own : ∀ tx ∈ w.txs, I.Own w.committed tx
  apart : w.txs.Pairwise Tx.Apart

/-- Of the open transactions, one and the others. -/
lemma apart_split {before after : List (Tx J D K O Ans)} {tx : Tx J D K O Ans} :
    (before ++ tx :: after).Pairwise Tx.Apart ↔
      (∀ tx' ∈ before ++ after, tx.Apart tx') ∧ (before ++ after).Pairwise Tx.Apart := by
  rw [List.pairwise_middle Tx.Apart.symm, List.pairwise_cons]

section

variable [Append D] [EmptyCollection D] {S : TxStore J D K N O Ans T} (I : Isolation S)
  {w w' : Transactions J D K N O Ans}

lemma Isolation.step {a : TxAction J T} (h : I.Holds w) (hst : S.Taken w a w') :
    I.Holds w' := by
  obtain ⟨hcommitted, hown, hapart⟩ := h
  cases hst with
  | start job =>
    refine ⟨hcommitted, ?_, ?_⟩
    · exact List.forall_mem_snoc hown (I.begun _ job)
    · refine List.pairwise_append.2 ⟨hapart, List.pairwise_singleton _ _, ?_⟩
      intro tx _ tx' htx'
      -- a transaction begins without locks
      rw [List.mem_singleton.1 htx']
      exact List.disjoint_nil_right _
  | exec htxs hlive heff hfree =>
    rw [htxs, List.forall_mem_split] at hown
    rw [htxs, apart_split] at hapart
    refine ⟨hcommitted, ?_, apart_split.2 ⟨fun tx' htx' => ?_, hapart.2⟩⟩
    · exact List.forall_mem_split.2 ⟨I.exec hcommitted hown.1 hlive heff, hown.2⟩
    · exact List.disjoint_append_left.2 ⟨hapart.1 tx' htx', hfree tx' htx'⟩
  | commit htxs hlive =>
    rw [htxs, List.forall_mem_split] at hown
    rw [htxs, apart_split] at hapart
    refine ⟨I.commit hcommitted hown.1 hlive, fun tx' htx' => ?_, hapart.2⟩
    exact I.frame hcommitted (hown.2 tx' htx') hown.1 (hapart.1 tx' htx').symm hlive
  | rollback htxs =>
    rw [htxs, List.forall_mem_split] at hown
    rw [htxs, apart_split] at hapart
    exact ⟨hcommitted, hown.2, hapart.2⟩

/-- The assertions hold in every state that is reached. -/
theorem Isolation.holds [DecidableEq K] (h : S.machine.Reaches w w') (hw : I.Holds w) :
    I.Holds w' :=
  h.invariant hw fun _ _ _ hI hst => I.step hI (TxStore.taken_of_step hst)

end

end
