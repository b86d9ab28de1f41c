import Mathlib.Tactic.IntervalCases
import NexusAgent.Lib.Fallible
import NexusAgent.Tools.Types

/-!
# The canonical digest

A tool call is bound by the hash of its tool and its input (`internal/tools/digest.go`). The input
is decoded and written again without blanks, with the keys of objects in order and the tokens of
numbers as they were. The decoder and the hash are libraries, and parameters here.

- `Codec.canonicalDigest_binds`: where the hash has no collisions, a digest is that of one tool and
  of one JSON value. A canonical text can be told from what follows it, so that no two values and
  tools give the same text.
-/

namespace NexusAgent.Tools

/-! ### Texts -/

/-- How a character of a JSON text is written: quotes, backslashes and control characters are
escaped, and so is what would not be safe in a page. -/
def escape (c : Char) : List Char :=
  match c.toNat with
  | 0x08 => ['\\', 'b']
  | 0x09 => ['\\', 't']
  | 0x0a => ['\\', 'n']
  | 0x0c => ['\\', 'f']
  | 0x0d => ['\\', 'r']
  | 0x22 => ['\\', '"']
  | 0x5c => ['\\', '\\']
  | n =>
    if n < 0x20 ∨ n ∈ [0x26, 0x3c, 0x3e, 0x2028, 0x2029] then
      ['\\', 'u', Go.hexDigit (n / 4096), Go.hexDigit (n / 256 % 16), Go.hexDigit (n / 16 % 16),
        Go.hexDigit (n % 16)]
    else [c]

/-- `json.Marshal` of a text. -/
def marshal (s : String) : List Char := '"' :: s.toList.flatMap escape ++ ['"']

/-- The number that a hexadecimal digit stands for. -/
def hexValue (c : Char) : ℕ := "0123456789abcdef".toList.idxOf c

/-- The first character of a text that is written in escapes, and what follows it. -/
def unescape : List Char → Option (Char × List Char)
  | '\\' :: 'u' :: a :: b :: c :: d :: rest =>
    some (.ofNat (hexValue a * 4096 + hexValue b * 256 + hexValue c * 16 + hexValue d), rest)
  | '\\' :: c :: rest => some (.ofNat (match c with
      | 'b' => 0x08 | 't' => 0x09 | 'n' => 0x0a | 'f' => 0x0c | 'r' => 0x0d | c => c.toNat), rest)
  | '"' :: _ | [] => none
  | c :: rest => some (c, rest)

lemma hexValue_hexDigit {n : ℕ} (h : n < 16) : hexValue (Go.hexDigit n) = n := by
  interval_cases n <;> decide

lemma unescape_escape (c : Char) (rest : List Char) :
    unescape (escape c ++ rest) = some (c, rest) := by
  have hc : c = .ofNat c.toNat := (Char.ofNat_toNat c).symm
  unfold escape
  split
  case h_8 n _ _ _ _ _ hquote hslash =>
    split_ifs with hn
    · have hlt : c.toNat < 65536 := by
        simp only [List.mem_cons, List.not_mem_nil, or_false] at hn
        omega
      simp only [List.cons_append, List.nil_append, unescape]
      rw [hexValue_hexDigit (by omega), hexValue_hexDigit (by omega), hexValue_hexDigit (by omega),
        hexValue_hexDigit (by omega)]
      congr 2
      conv_rhs => rw [hc]
      congr 1
      omega
    · have hne : c ≠ '\\' ∧ c ≠ '"' := ⟨fun h => hslash (h ▸ rfl), fun h => hquote (h ▸ rfl)⟩
      simp only [List.cons_append, List.nil_append]
      unfold unescape
      split <;> simp_all
  all_goals
    rename_i h
    rw [hc, h]
    rfl

lemma escaped_inj {l l' a b : List Char}
    (h : l.flatMap escape ++ '"' :: a = l'.flatMap escape ++ '"' :: b) : l = l' ∧ a = b := by
  induction l generalizing l' with
  | nil =>
    cases l' with
    | nil => exact ⟨rfl, (List.cons.inj h).2⟩
    | cons d l' =>
      rw [List.flatMap_cons, List.append_assoc] at h
      nomatch (congrArg unescape h).trans (unescape_escape d _)
  | cons c l ih =>
    rw [List.flatMap_cons, List.append_assoc] at h
    have hread := (unescape_escape c _).symm.trans (congrArg unescape h)
    cases l' with
    | nil => nomatch hread
    | cons d l' =>
      rw [List.flatMap_cons, List.append_assoc, unescape_escape] at hread
      obtain ⟨rfl, hrest⟩ := Prod.mk.inj (Option.some.inj hread)
      obtain ⟨rfl, rfl⟩ := ih hrest
      exact ⟨rfl, rfl⟩

/-- A text can be told from what follows it. -/
lemma marshal_inj {s t : String} {a b : List Char} (h : marshal s ++ a = marshal t ++ b) :
    s = t ∧ a = b := by
  simp only [marshal, List.cons_append, List.append_assoc, List.nil_append, List.cons.injEq,
    true_and] at h
  obtain ⟨hs, rfl⟩ := escaped_inj h
  exact ⟨String.toList_inj.1 hs, rfl⟩

/-! ### Values -/

/-- `json.Number`: the token of a number, as it was written. -/
@[ext]
structure Number where
  token : List Char
  nonempty : token ≠ []
  numeral : ∀ c ∈ token, c ∈ "0123456789+-.eE".toList

/-- What a text decodes to. A map is given by its members in the order of their keys. -/
inductive Json
  | null
  | bool (b : Bool)
  | number (n : Number)
  | text (s : String)
  | array (items : List Json)
  | object (members : List (String × Json))

mutual

def writeCanonical : Json → List Char
  | .null => ['n', 'u', 'l', 'l']
  | .bool true => ['t', 'r', 'u', 'e']
  | .bool false => ['f', 'a', 'l', 's', 'e']
  | .number n => n.token
  | .text s => marshal s
  | .array items => '[' :: writeItems true items ++ [']']
  | .object members => '\x7b' :: writeMembers true members ++ ['\x7d']

/-- The loop over the items of an array, with a comma before all but the first. -/
def writeItems (first : Bool) : List Json → List Char
  | [] => []
  | v :: rest => (if first then [] else [',']) ++ writeCanonical v ++ writeItems false rest

def writeMembers (first : Bool) : List (String × Json) → List Char
  | [] => []
  | (k, v) :: rest =>
    (if first then [] else [',']) ++ marshal k ++ ':' :: writeCanonical v ++ writeMembers false rest

end

/-! ### Reading a canonical text -/

/-- What kind of value begins with a character; the last kind is what can stand after a value. -/
def lead : Char → ℕ
  | 'n' => 0
  | 't' | 'f' => 1
  | '"' => 3
  | '[' => 4
  | '\x7b' => 5
  | ',' | ']' | '\x7d' => 6
  | _ => 2

def Json.kind : Json → ℕ
  | .null => 0
  | .bool _ => 1
  | .number _ => 2
  | .text _ => 3
  | .array _ => 4
  | .object _ => 5

/-- What follows a value. -/
def Ends (a : List Char) : Prop := ∀ c ∈ a.head?, lead c = 6

lemma Number.lead_eq (n : Number) {c : Char} (hc : c ∈ n.token) : lead c = 2 := by
  have hall : "0123456789+-.eE".toList.all (lead · = 2) = true := by decide
  exact of_decide_eq_true (List.all_eq_true.1 hall c (n.numeral c hc))

lemma exists_lead (v : Json) : ∃ c rest, writeCanonical v = c :: rest ∧ lead c = v.kind := by
  cases v with
  | bool b => cases b <;> exact ⟨_, _, rfl, rfl⟩
  | number n =>
    obtain ⟨c, rest, htoken⟩ := List.exists_cons_of_ne_nil n.nonempty
    exact ⟨c, rest, htoken, n.lead_eq (htoken ▸ List.mem_cons_self)⟩
  | _ => exact ⟨_, _, rfl, rfl⟩

lemma kind_eq {v v' : Json} {a b : List Char} (h : writeCanonical v ++ a = writeCanonical v' ++ b) :
    v.kind = v'.kind := by
  obtain ⟨c, rest, hv, hc⟩ := exists_lead v
  obtain ⟨c', rest', hv', hc'⟩ := exists_lead v'
  rw [hv, hv'] at h
  rw [← hc, ← hc', (List.cons.inj h).1]

lemma Number.inj {n m : Number} {a b : List Char} (ha : Ends a) (hb : Ends b)
    (h : n.token ++ a = m.token ++ b) : n = m ∧ a = b := by
  have hread (n : Number) {a : List Char} (ha : Ends a) :
      (n.token ++ a).takeWhile (lead · = 2) = n.token := by
    rw [List.takeWhile_append_of_pos fun c hc => decide_eq_true (n.lead_eq hc)]
    cases a with
    | nil => simp
    | cons c a => simp [ha c rfl]
  have htoken : n.token = m.token := by rw [← hread n ha, h, hread m hb]
  exact ⟨Number.ext htoken, List.append_cancel_left (htoken ▸ h)⟩

lemma ends_items (vs : List Json) (a : List Char) : Ends (writeItems false vs ++ ']' :: a) := by
  cases vs <;> rintro c ⟨⟩ <;> rfl

lemma ends_members (ms : List (String × Json)) (a : List Char) :
    Ends (writeMembers false ms ++ '\x7d' :: a) := by
  cases ms <;> rintro c ⟨⟩ <;> rfl

lemma bracket_ne_items (first : Bool) (v : Json) (vs : List Json) {a b : List Char} :
    ']' :: a ≠ writeItems first (v :: vs) ++ b := by
  intro h
  cases first with
  | false => simp [writeItems] at h
  | true =>
    obtain ⟨c, rest, hv, hc⟩ := exists_lead v
    simp only [writeItems, hv, if_true, List.nil_append, List.cons_append, List.cons.injEq] at h
    rw [← h.1] at hc
    cases v <;> nomatch hc

mutual

/-- A value can be told from what follows it. -/
theorem writeCanonical_inj (v v' : Json) {a b : List Char} (ha : Ends a) (hb : Ends b)
    (h : writeCanonical v ++ a = writeCanonical v' ++ b) : v = v' ∧ a = b := by
  have hkind := kind_eq h
  match v, v' with
  | .null, .null => exact ⟨rfl, List.append_cancel_left h⟩
  | .bool c, .bool d =>
    cases c <;> cases d <;> simp_all [writeCanonical]
  | .number n, .number m =>
    obtain ⟨rfl, rfl⟩ := Number.inj ha hb h
    exact ⟨rfl, rfl⟩
  | .text s, .text t =>
    obtain ⟨rfl, rfl⟩ := marshal_inj h
    exact ⟨rfl, rfl⟩
  | .array vs, .array vs' =>
    obtain ⟨rfl, rfl⟩ := writeItems_inj true vs vs' (by simpa [writeCanonical] using h)
    exact ⟨rfl, rfl⟩
  | .object ms, .object ms' =>
    obtain ⟨rfl, rfl⟩ := writeMembers_inj true ms ms' (by simpa [writeCanonical] using h)
    exact ⟨rfl, rfl⟩

theorem writeItems_inj (first : Bool) (vs vs' : List Json) {a b : List Char}
    (h : writeItems first vs ++ ']' :: a = writeItems first vs' ++ ']' :: b) :
    vs = vs' ∧ a = b := by
  match vs, vs' with
  | [], [] => exact ⟨rfl, (List.cons.inj h).2⟩
  | v :: vs, v' :: vs' =>
    have hitem : writeCanonical v ++ (writeItems false vs ++ ']' :: a) =
        writeCanonical v' ++ (writeItems false vs' ++ ']' :: b) := by
      cases first <;> simpa [writeItems] using h
    obtain ⟨rfl, hrest⟩ := writeCanonical_inj v v' (ends_items vs a) (ends_items vs' b) hitem
    obtain ⟨rfl, rfl⟩ := writeItems_inj false vs vs' hrest
    exact ⟨rfl, rfl⟩
  | [], v :: vs => exact absurd h (bracket_ne_items first v vs)
  | v :: vs, [] => exact absurd h.symm (bracket_ne_items first v vs)

theorem writeMembers_inj (first : Bool) (ms ms' : List (String × Json)) {a b : List Char}
    (h : writeMembers first ms ++ '\x7d' :: a = writeMembers first ms' ++ '\x7d' :: b) :
    ms = ms' ∧ a = b := by
  match ms, ms' with
  | [], [] => exact ⟨rfl, (List.cons.inj h).2⟩
  | (k, v) :: ms, (k', v') :: ms' =>
    have hkey : marshal k ++ ':' :: (writeCanonical v ++ (writeMembers false ms ++ '\x7d' :: a)) =
        marshal k' ++ ':' :: (writeCanonical v' ++ (writeMembers false ms' ++ '\x7d' :: b)) := by
      cases first <;> simpa [writeMembers] using h
    obtain ⟨rfl, hvalue⟩ := marshal_inj hkey
    obtain ⟨rfl, hrest⟩ := writeCanonical_inj v v' (ends_members ms a) (ends_members ms' b)
      (List.cons.inj hvalue).2
    obtain ⟨rfl, rfl⟩ := writeMembers_inj false ms ms' hrest
    exact ⟨rfl, rfl⟩
  | [], (k, v) :: ms => cases first <;> simp [writeMembers, marshal] at h
  | (k, v) :: ms, [] => cases first <;> simp [writeMembers, marshal] at h

end

/-! ### The digest -/

/-- What the code uses to read an input and to bind it. -/
structure Codec where
  /-- `Decode` of the JSON library, which reads one value and not what follows it. -/
  decode : String → Except String Json
  sha256 : String → Digest

namespace Codec

def canonicalizeJSON (c : Codec) (raw : String) : Except String (List Char) := do
  let v ← c.decode raw
  pure (writeCanonical v)

/-- The text that is hashed. -/
def payload (canonInput : List Char) (toolID : String) : String :=
  .ofList ("\x7b\"input\":".toList ++ canonInput ++ ",\"tool_id\":".toList ++ marshal toolID ++
    ['\x7d'])

def canonicalDigest (c : Codec) (toolID input : String) : Except String Digest := do
  let canonInput ← (c.canonicalizeJSON (if input = "" then "\x7b\x7d" else input)).mapError
    fun e => "tools: canonicalize input: " ++ e
  pure (c.sha256 (payload canonInput toolID))

/-- The JSON value of an input, the empty one being read as an empty object. -/
def value (c : Codec) (input : String) : Except String Json :=
  c.decode (if input = "" then "\x7b\x7d" else input)

/-- Two inputs are the same JSON value, numbers being compared as they are written. -/
def SameValue (c : Codec) (input input' : String) : Prop :=
  ∃ v, c.value input = .ok v ∧ c.value input' = .ok v

variable {c : Codec} {toolID toolID' input input' : String} {digest : Digest}

lemma canonicalDigest_ok : c.canonicalDigest toolID input = .ok digest ↔
    ∃ v, c.value input = .ok v ∧ c.sha256 (payload (writeCanonical v) toolID) = digest := by
  unfold canonicalDigest canonicalizeJSON value
  cases c.decode (if input = "" then "\x7b\x7d" else input) <;>
    simp [Except.mapError, bind, Except.bind, pure, Except.pure]

lemma payload_inj {v v' : Json} (h : payload (writeCanonical v) toolID =
    payload (writeCanonical v') toolID') : v = v' ∧ toolID = toolID' := by
  have hends (l : List Char) : Ends (",\"tool_id\":".toList ++ l) := by
    intro c hc
    simp only [String.reduceToList, List.cons_append, List.head?_cons, Option.mem_def,
      Option.some.injEq] at hc
    exact hc ▸ rfl
  have htext := String.ofList_injective h
  simp only [List.append_assoc, List.append_cancel_left_eq] at htext
  obtain ⟨rfl, hrest⟩ := writeCanonical_inj v v' (hends _) (hends _) htext
  exact ⟨rfl, (marshal_inj (List.append_cancel_left hrest)).1⟩

/-- A digest is that of one tool and of one JSON value. -/
lemma canonicalDigest_binds (hc : Function.Injective c.sha256)
    (h : c.canonicalDigest toolID input = .ok digest)
    (h' : c.canonicalDigest toolID' input' = .ok digest) :
    toolID = toolID' ∧ c.SameValue input input' := by
  obtain ⟨v, hv, rfl⟩ := canonicalDigest_ok.1 h
  obtain ⟨v', hv', hsame⟩ := canonicalDigest_ok.1 h'
  obtain ⟨rfl, rfl⟩ := payload_inj (hc hsame)
  exact ⟨rfl, v', hv, hv'⟩

end Codec

end NexusAgent.Tools
