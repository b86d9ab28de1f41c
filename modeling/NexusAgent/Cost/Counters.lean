import NexusAgent.Cost.Money
import NexusAgent.Lib.Binary64

/-!
# The tenant counters

The shared spend counter behind a tenant ceiling: the three Lua scripts of
`internal/cost/redis/counters.go` over the keys of the store, and the adapter that reads
their replies. A script is one atomic step. `INCRBY` and `DECRBY` are exact on 64-bit
integers and refuse to overflow, but a script reads what they answer, and its arguments, as
Lua numbers: the comparison with the ceiling is between doubles.
-/

namespace NexusAgent.Cost

/-- The result of a reservation at the counter. -/
inductive ReserveOutcome
  | unavailable
  | staleEpoch
  | overCeiling
  | ok

/-- The keys of the store: the epoch of each budget and the spend of each budget and
epoch. -/
structure Redis where
  /-- The epoch key of a budget. -/
  epoch : UUID → Option Int64
  /-- The spend key of a budget in an epoch. -/
  spend : UUID → Int64 → Option Int64

namespace Redis

/-- A store without any key. -/
def empty : Redis := { epoch := fun _ => none, spend := fun _ _ => none }

/-- The spend counter of a budget in an epoch; a missing key counts as zero. -/
def counter (r : Redis) (budget : UUID) (e : Int64) : ℤ := ((r.spend budget e).getD 0).toInt

/-- The store with the spend key of a budget set. -/
def setSpend (r : Redis) (budget : UUID) (e n : Int64) : Redis :=
  { r with spend := Function.update r.spend budget (Function.update (r.spend budget) e (some n)) }

/-- The store with the epoch key of a budget set. -/
def setEpoch (r : Redis) (budget : UUID) (e : Int64) : Redis :=
  { r with epoch := Function.update r.epoch budget (some e) }

/-- `INCRBY` on a spend key: the new value, or the refusal of an overflow. -/
def incrBy (r : Redis) (budget : UUID) (e amount : Int64) : Except String (ℤ × Redis) :=
  let total := r.counter budget e + amount.toInt
  if -2 ^ 63 ≤ total ∧ total < 2 ^ 63 then
    .ok (total, r.setSpend budget e (.ofInt total))
  else .error "ERR increment or decrement would overflow"

/-- `DECRBY` on a spend key. -/
def decrBy (r : Redis) (budget : UUID) (e amount : Int64) : Except String (ℤ × Redis) :=
  let total := r.counter budget e - amount.toInt
  if amount = Int64.minValue then .error "ERR decrement would overflow"
  else if -2 ^ 63 ≤ total ∧ total < 2 ^ 63 then
    .ok (total, r.setSpend budget e (.ofInt total))
  else .error "ERR increment or decrement would overflow"

/-- The script of `Reserve`: a code and a total, or the error that ended the script. A
script that ends in an error keeps what it has written. -/
def luaReserve (r : Redis) (budget : UUID) (expected amount ceiling : Int64) :
    Except String (ℤ × ℤ) × Redis :=
  match r.epoch budget with
  | none => (.ok (-1, 0), r)
  | some e =>
    if e ≠ expected then (.ok (-2, Binary64.ofInt e.toInt), r)
    else match r.incrBy budget expected amount with
      | .error err => (.error err, r)
      | .ok (total, r') =>
        let newTotal := Binary64.ofInt total
        if Binary64.ofInt ceiling.toInt < newTotal then
          match r'.decrBy budget expected amount with
          | .error err => (.error err, r')
          | .ok (_, r'') =>
            (.ok (0, Binary64.ofInt (newTotal - Binary64.ofInt amount.toInt)), r'')
        else (.ok (1, newTotal), r')

/-- The script of `Release`. -/
def luaRelease (r : Redis) (budget : UUID) (expected delta : Int64) : Except String ℤ × Redis :=
  if r.epoch budget ≠ some expected then (.ok 0, r)
  else match r.decrBy budget expected delta with
    | .error err => (.error err, r)
    | .ok (_, r') => (.ok 1, r')

/-- The script of `Arm`. -/
def luaArm (r : Redis) (budget : UUID) (e baseline : Int64) : Except String ℤ × Redis :=
  match r.epoch budget with
  | some _ => (.ok 0, r)
  | none => (.ok 1, (r.setEpoch budget e).setSpend budget e baseline)

/-- `Counters.Reserve`: the adapter around the script. -/
def reserve (r : Redis) (budget : UUID) (epoch amount ceiling : Int64) :
    Except String (ReserveOutcome × Int64) × Redis :=
  let (reply, r') := r.luaReserve budget epoch amount ceiling
  let answer : Except String (ReserveOutcome × Int64) :=
    match reply with
    | .error err => .error ("redis reserve: " ++ err)
    | .ok (code, total) =>
      if code = -1 then .ok (.unavailable, 0)
      else if code = -2 then .ok (.staleEpoch, Int64.ofInt total)
      else if code = 0 then .ok (.overCeiling, Int64.ofInt total)
      else if code = 1 then .ok (.ok, Int64.ofInt total)
      else .error ("redis reserve: unexpected status code " ++ toString code)
  (answer, r')

def arm (r : Redis) (budget : UUID) (epoch baseline : Int64) : Except String Unit × Redis :=
  match r.luaArm budget epoch baseline with
  | (.error err, r') => (.error ("redis arm: " ++ err), r')
  | (.ok _, r') => (.ok (), r')

/-! ### What the keys hold -/

@[simp] theorem epoch_setSpend (r : Redis) (b : UUID) (e n : Int64) :
    (r.setSpend b e n).epoch = r.epoch := rfl

@[simp] theorem counter_setSpend (r : Redis) (b : UUID) (e n : Int64) :
    (r.setSpend b e n).counter b e = n.toInt := by
  simp [counter, setSpend]

@[simp] theorem epoch_setEpoch (r : Redis) (b : UUID) (e : Int64) :
    (r.setEpoch b e).epoch b = some e := by
  simp [setEpoch]

/-- A counter is a 64-bit integer. -/
lemma counter_bounds (r : Redis) (b : UUID) (e : Int64) :
    -2 ^ 63 ≤ r.counter b e ∧ r.counter b e < 2 ^ 63 :=
  ⟨Int64.le_toInt _, Int64.toInt_lt _⟩

variable {n : ℤ} {r : Redis} {b : UUID} {amount : Int64}

/-- A 64-bit integer is kept by its conversion. -/
private lemma toInt_ofInt_of_range (hlo : -2 ^ 63 ≤ n) (hhi : n < 2 ^ 63) :
    (Int64.ofInt n).toInt = n := by
  rw [Int64.toInt_ofInt]
  exact Int.bmod_eq_of_le_mul_two (by simp only [Int64.size]; omega)
    (by simp only [Int64.size]; omega)

/-- The counter after a write of an increment or a decrement: nothing else is written. -/
structure Written (r : Redis) (b : UUID) (e : Int64) (n : ℤ) (r' : Redis) : Prop where
  epoch_eq : r'.epoch = r.epoch
  counter_eq : r'.counter b e = n

lemma written_setSpend {e : Int64} (hrange : -2 ^ 63 ≤ n ∧ n < 2 ^ 63) :
    r.Written b e n (r.setSpend b e (.ofInt n)) :=
  ⟨rfl, by rw [counter_setSpend, toInt_ofInt_of_range hrange.1 hrange.2]⟩

lemma incrBy_ok {r' : Redis} {e : Int64} (h : r.incrBy b e amount = .ok (n, r')) :
    n = r.counter b e + amount.toInt ∧ r.Written b e n r' := by
  simp only [incrBy] at h
  split_ifs at h with hrange
  cases h
  exact ⟨rfl, written_setSpend hrange⟩

lemma decrBy_ok {r' : Redis} {e : Int64} (h : r.decrBy b e amount = .ok (n, r')) :
    n = r.counter b e - amount.toInt ∧ r.Written b e n r' := by
  simp only [decrBy] at h
  split_ifs at h with _ hrange
  cases h
  exact ⟨rfl, written_setSpend hrange⟩

/-- A decrement of an amount that is not negative and does not underflow succeeds. -/
lemma decrBy_of_nonneg (r : Redis) (b : UUID) (e : Int64) (hamount : 0 ≤ amount.toInt)
    (hlo : -2 ^ 63 ≤ r.counter b e - amount.toInt) :
    ∃ n r', r.decrBy b e amount = .ok (n, r') := by
  have hne : amount ≠ Int64.minValue := by
    rintro rfl
    simp at hamount
  have hhi := (r.counter_bounds b e).2
  simp only [decrBy, if_neg hne]
  rw [if_pos ⟨hlo, by omega⟩]
  exact ⟨_, _, rfl⟩

/-! ### What the scripts do to one counter -/

lemma Written.refl (r : Redis) (b : UUID) (e : Int64) : r.Written b e (r.counter b e) r :=
  ⟨rfl, rfl⟩

/-- The script of a reservation of an amount that is not negative either leaves the counter
alone and does not answer one, or adds the amount, passes the comparison of the doubles and
answers one. -/
lemma luaReserve_cases (r : Redis) (b : UUID) (e : Int64) (ceiling : Int64)
    (hamount : 0 ≤ amount.toInt) :
    (r.Written b e (r.counter b e) (r.luaReserve b e amount ceiling).2 ∧
      ∀ t, (r.luaReserve b e amount ceiling).1 ≠ .ok (1, t)) ∨
    (r.epoch b = some e ∧
      r.Written b e (r.counter b e + amount.toInt) (r.luaReserve b e amount ceiling).2 ∧
      Binary64.ofInt (r.counter b e + amount.toInt) ≤ Binary64.ofInt ceiling.toInt ∧
      ∃ t, (r.luaReserve b e amount ceiling).1 = .ok (1, t)) := by
  unfold luaReserve
  cases hepoch : r.epoch b with
  | none => exact .inl ⟨Written.refl r b e, by simp⟩
  | some e' =>
    by_cases he : e' = e
    swap
    · simp only [ne_eq, he, not_false_eq_true, if_true]
      exact .inl ⟨Written.refl r b e, by simp⟩
    subst he
    simp only [ne_eq, not_true_eq_false, if_false]
    cases hincr : r.incrBy b e' amount with
    | error err => exact .inl ⟨Written.refl r b e', by simp⟩
    | ok res =>
      obtain ⟨total, r'⟩ := res
      obtain ⟨htotal, hwritten⟩ := incrBy_ok hincr
      by_cases hover : Binary64.ofInt ceiling.toInt < Binary64.ofInt total
      · -- over the ceiling: the decrement takes the amount out again
        have hcounter := hwritten.counter_eq
        have hbounds := r.counter_bounds b e'
        obtain ⟨n, r'', hdecr⟩ := r'.decrBy_of_nonneg b e' hamount (by omega)
        obtain ⟨hn, hback⟩ := decrBy_ok hdecr
        have hsame : n = r.counter b e' := by omega
        simp only [hover, if_true, hdecr]
        refine .inl ⟨⟨hback.epoch_eq.trans hwritten.epoch_eq, ?_⟩, by simp⟩
        rw [hback.counter_eq, hsame]
      · simp only [hover, if_false]
        rw [htotal] at hwritten hover
        exact .inr ⟨trivial, hwritten, not_lt.1 hover, _, rfl⟩

/-- A reservation of an amount that is not negative either leaves the counter alone and is
not granted, or adds the amount to it, passes the comparison of the doubles and is granted. -/
theorem reserve_cases (r : Redis) (b : UUID) (e : Int64) (ceiling : Int64)
    (hamount : 0 ≤ amount.toInt) :
    (r.Written b e (r.counter b e) (r.reserve b e amount ceiling).2 ∧
      ∀ t, (r.reserve b e amount ceiling).1 ≠ .ok (.ok, t)) ∨
    (r.epoch b = some e ∧
      r.Written b e (r.counter b e + amount.toInt) (r.reserve b e amount ceiling).2 ∧
      Binary64.ofInt (r.counter b e + amount.toInt) ≤ Binary64.ofInt ceiling.toInt ∧
      ∃ t, (r.reserve b e amount ceiling).1 = .ok (.ok, t)) := by
  unfold reserve
  rcases r.luaReserve_cases b e ceiling hamount with
    ⟨hwritten, hreply⟩ | ⟨hepoch, hwritten, hle, t, hreply⟩
  · refine .inl ⟨hwritten, fun t ht => ?_⟩
    cases hcode : (r.luaReserve b e amount ceiling).1 with
    | error err => simp [hcode] at ht
    | ok res =>
      have hne : res.1 ≠ 1 := fun h => hreply res.2 (by rw [hcode, ← h])
      simp only [hcode] at ht
      split_ifs at ht <;> simp_all
  · exact .inr ⟨hepoch, hwritten, hle, Int64.ofInt t, by simp [hreply]⟩

/-- A release either subtracts the amount and says so, or leaves the counter alone. -/
lemma luaRelease_cases (r : Redis) (b : UUID) (e delta : Int64) :
    (r.Written b e (r.counter b e) (r.luaRelease b e delta).2 ∧
      (r.luaRelease b e delta).1 ≠ .ok 1) ∨
    (r.Written b e (r.counter b e - delta.toInt) (r.luaRelease b e delta).2 ∧
      (r.luaRelease b e delta).1 = .ok 1) := by
  unfold luaRelease
  split_ifs with hepoch
  · exact .inl ⟨Written.refl r b e, by simp⟩
  · cases hdecr : r.decrBy b e delta with
    | error err => exact .inl ⟨Written.refl r b e, by simp⟩
    | ok res =>
      obtain ⟨n, r'⟩ := res
      obtain ⟨hn, hwritten⟩ := decrBy_ok hdecr
      rw [hn] at hwritten
      exact .inr ⟨hwritten, rfl⟩

lemma luaArm_of_none (h : r.epoch b = none) (e baseline : Int64) :
    (r.luaArm b e baseline).2.epoch b = some e ∧
      (r.luaArm b e baseline).2.counter b e = baseline.toInt := by
  simp [luaArm, h]

end Redis

/-- A ceiling of less than `2 ^ 53` micros, which a double holds exactly. -/
def Exact (ceiling : ℤ) : Prop := 0 ≤ ceiling ∧ ceiling < 2 ^ 53

/-- A total that passes the comparison of the doubles is at most the ceiling. -/
theorem granted_le_ceiling {total ceiling : ℤ} (hexact : Exact ceiling)
    (h : Binary64.ofInt total ≤ Binary64.ofInt ceiling) : total ≤ ceiling := by
  by_contra hgt
  have hlt := Binary64.ofInt_lt_ofInt (hexact.1.trans' (by decide)) hexact.2 (not_le.1 hgt)
  exact absurd h (not_le.2 hlt)

end NexusAgent.Cost
