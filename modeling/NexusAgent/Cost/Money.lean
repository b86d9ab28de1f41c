import Mathlib.Algebra.BigOperators.Group.List.Basic
import Mathlib.Data.List.MinMax
import Mathlib.Data.Prod.Lex
import Mathlib.Tactic.Ring
import NexusAgent.EventLog.Event

/-!
# Money and prices

Amounts in currency micros, the price book and the one rounding that turns a quantity into
an amount (`internal/cost/money.go`, `internal/cost/meter.go`, `internal/cost/pricebook.go`).
Amounts are 64-bit and wrap around, as the source's do.

- `priceQuantity_of_fits`: for a price that is not negative and does not overflow for a
  quantity, the cost is the exact rounded product.
- `PriceBook.cost_bounds`, `PriceBook.cost_currency`: what holds of a cost when the whole
  book has such prices, and prices of one currency.
-/

namespace NexusAgent.Cost

/-- An amount in currency micros with its currency. -/
structure Money where
  /-- The amount, in millionths of the currency unit. -/
  micros : Int64 := 0
  currency : String := ""
  deriving DecidableEq

namespace Money

def zero (currency : String) : Money := { currency := currency }

/-- The refusal of amounts in two currencies. -/
def checkCurrency (m other : Money) : Except String Unit :=
  if m.currency ≠ other.currency then
    .error ("cost: currency mismatch: " ++ m.currency ++ " vs " ++ other.currency)
  else .ok ()

/-- The sum of two amounts of one currency. -/
def add (m other : Money) : Except String Money := do
  m.checkCurrency other
  return { micros := m.micros + other.micros, currency := m.currency }

/-- The difference of two amounts of one currency. -/
def sub (m other : Money) : Except String Money := do
  m.checkCurrency other
  return { micros := m.micros - other.micros, currency := m.currency }

/-- The amount that a caller who drops the error goes on with: nothing, in no currency. -/
def orZero : Except String Money → Money
  | .ok m => m
  | .error _ => {}

/-- The decimal form of an amount, for messages. -/
def string (m : Money) : String :=
  let whole := m.micros / 1000000
  let frac := m.micros % 1000000
  let frac := if frac < 0 then -frac else frac
  let digits := toString frac.toInt
  toString whole.toInt ++ "." ++ String.ofList (List.replicate (6 - digits.length) '0')
    ++ digits ++ " " ++ m.currency

variable {m other : Money}

lemma add_of_eq (h : m.currency = other.currency) :
    m.add other = .ok { micros := m.micros + other.micros, currency := m.currency } := by
  simp [add, checkCurrency, h]

/-- Two amounts of different currencies do not add up. -/
lemma add_of_ne (h : m.currency ≠ other.currency) : ∃ e, m.add other = .error e := by
  simp [add, checkCurrency, h]

/-- A difference is of two amounts of one currency. -/
lemma sub_ok {d : Money} (h : m.sub other = .ok d) :
    m.currency = other.currency ∧
      d = { micros := m.micros - other.micros, currency := m.currency } := by
  by_cases hc : m.currency = other.currency
  · simp only [sub, checkCurrency, hc, ne_eq, not_true_eq_false, if_false] at h
    exact ⟨hc, by rw [hc]; exact (Except.ok.inj h).symm⟩
  · simp [sub, checkCurrency, hc] at h

/-- Two amounts of one currency have a difference. -/
lemma sub_of_eq (h : m.currency = other.currency) :
    m.sub other = .ok { micros := m.micros - other.micros, currency := m.currency } := by
  simp [sub, checkCurrency, h]

end Money

/-! ### 64-bit arithmetic without wrap-around -/

/-- A sum within 64 bits is exact. -/
lemma toInt_add_of_lt {a b : Int64} (hlo : -2 ^ 63 ≤ a.toInt + b.toInt)
    (hhi : a.toInt + b.toInt < 2 ^ 63) : (a + b).toInt = a.toInt + b.toInt := by
  rw [Int64.toInt_add]
  exact Int.bmod_eq_of_le_mul_two (by omega) (by omega)

/-- A difference within 64 bits is exact. -/
lemma toInt_sub_of_lt {a b : Int64} (hlo : -2 ^ 63 ≤ a.toInt - b.toInt)
    (hhi : a.toInt - b.toInt < 2 ^ 63) : (a - b).toInt = a.toInt - b.toInt := by
  rw [Int64.toInt_sub]
  exact Int.bmod_eq_of_le_mul_two (by omega) (by omega)

/-- The cost of `quantity` units at a price per million units, rounded half up once. -/
def priceQuantity (quantity pricePerMillionMicros : Int64) (currency : String) : Money :=
  if quantity = 0 ∨ pricePerMillionMicros = 0 then Money.zero currency
  else
    let product := quantity * pricePerMillionMicros
    let rounded := (product + 500000) / 1000000
    { micros := rounded, currency := currency }

/-- The rounded cost of a quantity, in exact arithmetic. -/
def roundedCost (quantity price : ℤ) : ℤ := (quantity * price + 500000) / 1000000

/-- A price that is not negative and whose product with the quantity `q`, rounded, stays
within 64 bits. -/
def PriceFits (q price : ℤ) : Prop := 0 ≤ price ∧ q * price + 500000 < 2 ^ 63

instance (q price : ℤ) : Decidable (PriceFits q price) :=
  inferInstanceAs (Decidable (_ ∧ _))

theorem priceQuantity_of_fits {q p : Int64} {currency : String} (hq : 0 ≤ q.toInt)
    (hp : PriceFits q.toInt p.toInt) :
    (priceQuantity q p currency).micros.toInt = roundedCost q.toInt p.toInt := by
  obtain ⟨hnonneg, hbound⟩ := hp
  have hprod : 0 ≤ q.toInt * p.toInt := Int.mul_nonneg hq hnonneg
  by_cases hzero : q = 0 ∨ p = 0
  · have hmul : q.toInt * p.toInt = 0 := by
      rcases hzero with rfl | rfl <;> simp
    simp [priceQuantity, hzero, Money.zero, roundedCost, hmul]
  · have hmul : (q * p).toInt = q.toInt * p.toInt := by
      rw [Int64.toInt_mul]
      exact Int.bmod_eq_of_le_mul_two (by omega) (by omega)
    have hhalf : (500000 : Int64).toInt = 500000 := by decide
    have hmillion : (1000000 : Int64).toInt = 1000000 := by decide
    have hadd : (q * p + 500000).toInt = q.toInt * p.toInt + 500000 := by
      rw [toInt_add_of_lt (by omega) (by omega), hmul, hhalf]
    simp only [priceQuantity, if_neg hzero, roundedCost]
    rw [Int64.toInt_div, hadd, hmillion, Int.tdiv_eq_ediv_of_nonneg (by omega)]
    exact Int.bmod_eq_of_le_mul_two (by omega) (by omega)

lemma roundedCost_bounds {q p : ℤ} (hq : 0 ≤ q) (hp : PriceFits q p) :
    0 ≤ roundedCost q p ∧ roundedCost q p < 2 ^ 44 := by
  obtain ⟨hnonneg, hbound⟩ := hp
  have hprod : 0 ≤ q * p := Int.mul_nonneg hq hnonneg
  unfold roundedCost
  omega

/-! ### Meters and the price book -/

/-- The billable dimensions. -/
inductive MeterID
  | inputUncached
  | inputCacheRead
  | inputCacheWrite
  | output
  | sandboxSeconds
  | toolInvocations
  | embeddingTokens
  | unreportedReservation
  deriving DecidableEq

/-- The text of a meter. -/
def MeterID.string : MeterID → String
  | inputUncached => "input_uncached"
  | inputCacheRead => "input_cache_read"
  | inputCacheWrite => "input_cache_write"
  | output => "output"
  | sandboxSeconds => "sandbox_seconds"
  | toolInvocations => "tool_invocations"
  | embeddingTokens => "embedding_tokens"
  | unreportedReservation => "unreported_reservation"

/-- The price book subject that matches any subject without an entry of its own. -/
def wildcardSubject : String := "*"

/-- One versioned price. -/
structure PriceBookEntry where
  meter : MeterID
  /-- A model id or the wildcard. -/
  subject : String
  /-- The version; the highest one in force applies. -/
  version : ℤ
  currency : String
  pricePerMillionMicros : Int64
  /-- When the price comes into force. -/
  effectiveFrom : ℤ
  /-- When it ceases, or `none` while it is in force. -/
  effectiveUntil : Option ℤ
  deriving DecidableEq

namespace PriceBookEntry

def coversSubject (e : PriceBookEntry) (subject : String) : Bool :=
  e.subject == subject || e.subject == wildcardSubject

def coversTime (e : PriceBookEntry) (at_ : ℤ) : Bool :=
  if at_ < e.effectiveFrom then false
  else match e.effectiveUntil with
    | none => true
    | some u => decide (at_ < u)

/-- Whether an entry goes before another one in the order of `Lookup`: an exact subject
first, then the higher version. -/
def before (subject : String) (e f : PriceBookEntry) : Bool :=
  let eExact := e.subject == subject
  let fExact := f.subject == subject
  if eExact != fExact then eExact else decide (f.version < e.version)

end PriceBookEntry

/-- A tenant's price book. -/
structure PriceBook where
  /-- The entries, in the order they were loaded. -/
  entries : List PriceBookEntry

namespace PriceBook

/-- The entry that prices a meter for a subject at a time. The source takes the first entry of a
sort that is not stable; here, of entries that tie the first loaded one is taken. -/
def lookup (pb : PriceBook) (meter : MeterID) (subject : String) (at_ : ℤ) :
    Option PriceBookEntry :=
  match pb.entries.filter fun e =>
      e.meter == meter && e.coversSubject subject && e.coversTime at_ with
  | [] => none
  | e :: rest => some (rest.foldl (fun best f => if f.before subject best then f else best) e)

def cost (pb : PriceBook) (meter : MeterID) (subject : String) (quantity : Int64) (at_ : ℤ) :
    Except String Money :=
  match pb.lookup meter subject at_ with
  | none => .error ("cost: no price book entry for meter " ++ Go.quote meter.string
      ++ " subject " ++ Go.quote subject ++ " at " ++ toString at_)
  | some entry => .ok (priceQuantity quantity entry.pricePerMillionMicros entry.currency)

variable {meter : MeterID} {pb : PriceBook} {subject : String} {at_ : ℤ} {e f : PriceBookEntry}

/-- The entries that price a meter for a subject at a time. -/
def covering (pb : PriceBook) (meter : MeterID) (subject : String) (at_ : ℤ) :
    List PriceBookEntry :=
  pb.entries.filter fun e => e.meter == meter && e.coversSubject subject && e.coversTime at_

/-- What `Lookup` sorts by: whether the subject is the exact one, and the version. -/
def rank (subject : String) (e : PriceBookEntry) : Bool ×ₗ ℤ :=
  toLex (decide (e.subject = subject), e.version)

instance : Preorder (Bool ×ₗ ℤ) := (Prod.Lex.instLinearOrder Bool ℤ).toPreorder

lemma before_iff :
    e.before subject f = true ↔ rank subject f < rank subject e := by
  unfold PriceBookEntry.before rank
  rw [Prod.Lex.toLex_lt_toLex]
  by_cases he : e.subject = subject <;> by_cases hf : f.subject = subject <;> simp [he, hf]

lemma lookup_eq_argmax :
    pb.lookup meter subject at_ = (pb.covering meter subject at_).argmax (rank subject) := by
  have hfold (rest : List PriceBookEntry) (e : PriceBookEntry) :
      some (rest.foldl (fun best f => if f.before subject best then f else best) e) =
        rest.foldl (List.argAux fun b c => rank subject c < rank subject b) (some e) := by
    induction rest generalizing e with
    | nil => rfl
    | cons f rest ih =>
      rw [List.foldl_cons, ih, List.foldl_cons]
      simp only [before_iff, List.argAux, apply_ite some]
  unfold lookup
  split
  · next hnil => rw [covering, hnil, List.argmax_nil]
  · next e rest hcons => rw [covering, hcons]; exact hfold rest e

lemma lookup_mem (h : pb.lookup meter subject at_ = some e) :
    e ∈ pb.entries := by
  rw [lookup_eq_argmax] at h
  exact List.mem_of_mem_filter (List.argmax_mem h)

/-- No two entries share meter, subject and version. -/
def Keyed (pb : PriceBook) : Prop :=
  ∀ e ∈ pb.entries, ∀ f ∈ pb.entries,
    e.meter = f.meter → e.subject = f.subject → e.version = f.version → e = f

/-- The entry with the exact subject and the highest version or, if none that covers has the exact
subject, the wildcard entry with the highest version. -/
def Best (pb : PriceBook) (meter : MeterID) (subject : String) (at_ : ℤ) (e : PriceBookEntry) :
    Prop :=
  e ∈ pb.covering meter subject at_ ∧
    (e.subject = subject ∨
      e.subject = wildcardSubject ∧ ∀ f ∈ pb.covering meter subject at_, f.subject ≠ subject) ∧
    ∀ f ∈ pb.covering meter subject at_, f.subject = e.subject → f.version ≤ e.version

lemma rank_le_iff : rank subject f ≤ rank subject e ↔
    (f.subject = subject → e.subject = subject) ∧
      ((f.subject = subject ↔ e.subject = subject) → f.version ≤ e.version) := by
  unfold rank
  rw [Prod.Lex.toLex_le_toLex]
  by_cases hf : f.subject = subject <;> by_cases he : e.subject = subject <;> simp [hf, he]

lemma subject_of_covering (h : e ∈ pb.covering meter subject at_) :
    e.meter = meter ∧ (e.subject = subject ∨ e.subject = wildcardSubject) := by
  have hcovers := (List.mem_filter.1 h).2
  simp only [PriceBookEntry.coversSubject, Bool.and_eq_true, Bool.or_eq_true, beq_iff_eq] at hcovers
  exact hcovers.1

/-- Entries of one rank have one subject. -/
lemma Keyed.eq_of_rank_eq (h : pb.Keyed)
    (he : e ∈ pb.covering meter subject at_) (hf : f ∈ pb.covering meter subject at_)
    (hrank : rank subject e = rank subject f) : e = f := by
  obtain ⟨hle, hversion⟩ := rank_le_iff.1 hrank.le
  obtain ⟨hge, hversion'⟩ := rank_le_iff.1 hrank.ge
  obtain ⟨hmeter, hsubject⟩ := subject_of_covering he
  obtain ⟨hmeter', hsubject'⟩ := subject_of_covering hf
  refine h e (List.mem_of_mem_filter he) f (List.mem_of_mem_filter hf) (hmeter.trans hmeter'.symm)
    ?_ (le_antisymm (hversion ⟨hle, hge⟩) (hversion' ⟨hge, hle⟩))
  grind

lemma lookup_eq_some (h : pb.Keyed) :
    pb.lookup meter subject at_ = some e ↔ pb.Best meter subject at_ e := by
  rw [lookup_eq_argmax, List.argmax_eq_some_iff]
  constructor
  · rintro ⟨he, hmax, -⟩
    refine ⟨he, ?_, fun f hf heq => (rank_le_iff.1 (hmax f hf)).2 (by rw [heq])⟩
    rcases (subject_of_covering he).2 with hexact | hwild
    · exact .inl hexact
    · by_cases hexact : e.subject = subject
      · exact .inl hexact
      · exact .inr ⟨hwild, fun f hf heq => hexact ((rank_le_iff.1 (hmax f hf)).1 heq)⟩
  · rintro ⟨he, hsubject, hhighest⟩
    have hmax (f) (hf : f ∈ pb.covering meter subject at_) : rank subject f ≤ rank subject e := by
      have hsubject' := (subject_of_covering hf).2
      refine rank_le_iff.2 ⟨fun heq => ?_, fun hiff => hhighest f hf ?_⟩
      · exact hsubject.resolve_right fun hwild => hwild.2 f hf heq
      · grind
    refine ⟨he, hmax, fun f hf hle => ?_⟩
    rw [h.eq_of_rank_eq he hf (le_antisymm hle (hmax f hf))]

/-- Whatever an unstable sort does with entries that tie, in a book with keys none do. -/
lemma lookup_eq_head (h : pb.Keyed) {sorted : List PriceBookEntry}
    (hperm : sorted.Perm (pb.covering meter subject at_))
    (hsorted : sorted.Pairwise fun e f => f.before subject e = false) :
    sorted.head? = pb.lookup meter subject at_ := by
  rw [lookup_eq_argmax]
  cases sorted with
  | nil => rw [← hperm.nil_eq, List.argmax_nil, List.head?_nil]
  | cons e rest =>
    have hmax (f) (hf : f ∈ pb.covering meter subject at_) : rank subject f ≤ rank subject e := by
      rcases List.mem_cons.1 (hperm.mem_iff.2 hf) with rfl | hf
      · exact le_rfl
      · have hlt := (List.pairwise_cons.1 hsorted).1 f hf
        exact not_lt.1 fun h => by simp [before_iff.2 h] at hlt
    have he : e ∈ pb.covering meter subject at_ := hperm.mem_iff.1 List.mem_cons_self
    refine (List.argmax_eq_some_iff.2 ⟨he, hmax, fun f hf hle => ?_⟩).symm
    rw [h.eq_of_rank_eq he hf (le_antisymm hle (hmax f hf))]

/-- In a book with keys, what `Lookup` returns does not depend on the order of the entries, nor on
what its sort does with entries that tie. -/
theorem lookup_perm {pb' : PriceBook} (h : pb.Keyed) (hperm : pb.entries.Perm pb'.entries)
    (meter : MeterID) (subject : String) (at_ : ℤ) :
    pb'.lookup meter subject at_ = pb.lookup meter subject at_ ∧
      (∀ e, pb.lookup meter subject at_ = some e ↔ pb.Best meter subject at_ e) ∧
      (pb.lookup meter subject at_ = none ↔ pb.covering meter subject at_ = []) ∧
      ∀ sorted : List PriceBookEntry, sorted.Perm (pb'.covering meter subject at_) →
        (sorted.Pairwise fun e f => f.before subject e = false) →
          sorted.head? = pb.lookup meter subject at_ := by
  have h' : pb'.Keyed := by
    simpa only [Keyed, hperm.mem_iff] using h
  have hbest (e) : pb'.Best meter subject at_ e ↔ pb.Best meter subject at_ e := by
    simp only [Best, covering, (hperm.filter _).mem_iff]
  have hsame : pb'.lookup meter subject at_ = pb.lookup meter subject at_ := Option.ext fun e =>
    (lookup_eq_some h').trans ((hbest e).trans (lookup_eq_some h).symm)
  refine ⟨hsame, fun e => lookup_eq_some h, ?_, fun sorted hsort hsorted => ?_⟩
  · rw [lookup_eq_argmax, List.argmax_eq_none]
  · rw [← hsame, lookup_eq_head h' hsort hsorted]

/-- The prices of the book fit the quantity `q`. -/
def Fits (pb : PriceBook) (q : ℤ) : Prop :=
  ∀ e ∈ pb.entries, PriceFits q e.pricePerMillionMicros.toInt

instance (pb : PriceBook) (q : ℤ) : Decidable (pb.Fits q) :=
  inferInstanceAs (Decidable (∀ e ∈ pb.entries, _))

lemma Fits.mono {q q' : ℤ} (h : pb.Fits q') (hle : q ≤ q') : pb.Fits q := by
  intro e he
  obtain ⟨hnonneg, hbound⟩ := h e he
  have hmul := Int.mul_le_mul_of_nonneg_right hle hnonneg
  exact ⟨hnonneg, by omega⟩

def InCurrency (pb : PriceBook) (currency : String) : Prop :=
  ∀ e ∈ pb.entries, e.currency = currency

instance (pb : PriceBook) (currency : String) : Decidable (pb.InCurrency currency) :=
  inferInstanceAs (Decidable (∀ e ∈ pb.entries, _))

/-- A cost of prices that fit is not negative and is far from the bounds of 64 bits. -/
theorem cost_bounds {q : Int64} {c : Money} (h : pb.cost meter subject q at_ = .ok c)
    (hq : 0 ≤ q.toInt) (hfits : pb.Fits q.toInt) :
    0 ≤ c.micros.toInt ∧ c.micros.toInt < 2 ^ 44 := by
  unfold cost at h
  split at h
  · simp at h
  · next entry hlookup =>
    have hprice := hfits entry (lookup_mem hlookup)
    rw [← Except.ok.inj h, priceQuantity_of_fits hq hprice]
    exact roundedCost_bounds hq hprice

theorem cost_currency {q : Int64} {c : Money} {currency : String}
    (h : pb.cost meter subject q at_ = .ok c) (hcur : pb.InCurrency currency) :
    c.currency = currency := by
  unfold cost at h
  split at h
  · simp at h
  · next entry hlookup =>
    rw [← Except.ok.inj h, ← hcur entry (lookup_mem hlookup)]
    unfold priceQuantity
    split_ifs <;> rfl

end PriceBook

def flatBook (price : Int64) : PriceBook where
  entries := [.inputUncached, .output].map fun meter =>
    { meter := meter, subject := wildcardSubject, version := 1, currency := "USD"
      pricePerMillionMicros := price, effectiveFrom := 0, effectiveUntil := none }

example : (flatBook 3000000).cost .output "m" 100 0 = .ok { micros := 300, currency := "USD" } := by
  decide

/-- Two prices of a model, and a wildcard price of a higher version. -/
def versionedBook : PriceBook where
  entries := [("m", 1), ("m", 2), (wildcardSubject, 3)].map fun (subject, version) =>
    { meter := .output, subject, version, currency := "USD", pricePerMillionMicros := 3
      effectiveFrom := 0, effectiveUntil := none }

theorem versionedBook_lookup : versionedBook.Keyed ∧
    ((PriceBook.lookup ⟨versionedBook.entries.reverse⟩ .output "m" 0).map fun e =>
      (e.subject, e.version)) = some ("m", 2) := by
  have hkeyed : versionedBook.Keyed := by
    unfold PriceBook.Keyed
    decide
  have hsame : PriceBook.lookup ⟨versionedBook.entries.reverse⟩ .output "m" 0 = _ :=
    (PriceBook.lookup_perm hkeyed (List.reverse_perm _).symm _ _ _).1
  exact ⟨hkeyed, (congrArg _ hsame).trans (by decide)⟩

end NexusAgent.Cost
