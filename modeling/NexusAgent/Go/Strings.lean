import Mathlib.Algebra.Ring.Int.Defs
import Mathlib.Algebra.Ring.Nat
import Mathlib.Data.List.Basic

/-!
# Text operations of the source language

The library calls on strings that the modelled code makes: suffix tests and trims, cuts,
numbers, and the forms that the `%q` and `%v` verbs print.
-/

namespace Go

def hasSuffix (s suffix : String) : Bool := suffix.toList.isSuffixOf s.toList

/-- `strings.TrimSuffix`: `s` without the suffix, or `s` itself when it does not end in it. -/
def trimSuffix (s suffix : String) : String :=
  if hasSuffix s suffix then
    String.ofList (s.toList.take (s.toList.length - suffix.toList.length))
  else s

def hexDigit (n : ℕ) : Char := "0123456789abcdef".toList.getD n '0'

/-- One character inside a quoted string: control characters, the quote and the backslash
are escaped, every other character stands for itself. -/
def quoteChar (c : Char) : List Char :=
  match c.toNat with
  | 0x07 => ['\\', 'a']
  | 0x08 => ['\\', 'b']
  | 0x09 => ['\\', 't']
  | 0x0a => ['\\', 'n']
  | 0x0b => ['\\', 'v']
  | 0x0c => ['\\', 'f']
  | 0x0d => ['\\', 'r']
  | 0x22 => ['\\', '"']
  | 0x5c => ['\\', '\\']
  | n => if n < 0x20 ∨ n = 0x7f then ['\\', 'x', hexDigit (n / 16), hexDigit (n % 16)] else [c]

/-- The `%q` form of a string whose characters beyond the control range are printable. -/
def quote (s : String) : String :=
  "\"" ++ String.ofList (s.toList.flatMap quoteChar) ++ "\""

/-- The `%v` form of a list of strings. -/
def listed (ss : List String) : String := "[" ++ " ".intercalate ss ++ "]"

def isSpace (c : Char) : Bool :=
  let n := c.toNat
  (0x09 ≤ n && n ≤ 0x0d) || n == 0x20 || n == 0x85 || n == 0xa0 || n == 0x1680 ||
    (0x2000 ≤ n && n ≤ 0x200a) || n == 0x2028 || n == 0x2029 || n == 0x202f || n == 0x205f ||
    n == 0x3000

def trimSpace (s : String) : String :=
  String.ofList (((s.toList.dropWhile isSpace).reverse.dropWhile isSpace).reverse)

/-- `strings.CutPrefix` with a prefix of one character: the rest, if the string begins with
it. -/
def cutChar (s : String) (c : Char) : Option String :=
  match s.toList with
  | [] => none
  | d :: ds => if d = c then some (String.ofList ds) else none

/-- `strings.Cut` at the first occurrence of a character, or the whole string and nothing. -/
def cut (s : String) (c : Char) : String × String :=
  (String.ofList (s.toList.takeWhile (· ≠ c)),
    String.ofList ((s.toList.dropWhile (· ≠ c)).drop 1))

/-- The characters of the first `n` bytes; a character that is cut in the middle is read as
replacement characters, one for each byte that is left of it. -/
def takeBytes : ℕ → List Char → List Char
  | _, [] => []
  | n, c :: cs =>
    if c.utf8Size ≤ n then c :: takeBytes (n - c.utf8Size) cs
    else List.replicate n (Char.ofNat 0xfffd)

/-- `s[:n]` for a text of at least `n` bytes. -/
def bytePrefix (s : String) (n : ℕ) : String := String.ofList (takeBytes n s.toList)

/-! ### Numbers -/

/-- Why a text is not a number. -/
inductive NumError
  /-- It is not made of digits. -/
  | syntactic
  /-- The number does not fit the width. -/
  | range

def NumError.text : NumError → String
  | .syntactic => "invalid syntax"
  | .range => "value out of range"

/-- The value of a run of decimal digits that must not exceed `bound`, on top of the digits
read so far. -/
def digits (bound : ℕ) : ℕ → List Char → Except NumError ℕ
  | n, [] => .ok n
  | n, c :: cs =>
    if c.isDigit then
      let n' := n * 10 + (c.toNat - '0'.toNat)
      if bound < n' then .error .range else digits bound n' cs
    else .error .syntactic

/-- The value of a text that is not empty, as an unsigned number of `width` bits. -/
def parseUint (cs : List Char) (width : ℕ) : Except NumError ℕ :=
  if cs.isEmpty then .error .syntactic else digits (2 ^ width - 1) 0 cs

/-- The sign and the digits of a text. -/
def parseSigned (s : String) (width : ℕ) : Except NumError ℤ :=
  let (neg, cs) := match s.toList with
    | '+' :: cs => (false, cs)
    | '-' :: cs => (true, cs)
    | cs => (false, cs)
  match parseUint cs width with
  | .error e => .error e
  | .ok n =>
    if neg then if 2 ^ (width - 1) < n then .error .range else .ok (-Int.ofNat n)
    else if 2 ^ (width - 1) ≤ n then .error .range
    else .ok (Int.ofNat n)

/-- `strconv.ParseInt` in base ten. -/
def parseInt (s : String) (width : ℕ) : Except String ℤ :=
  (parseSigned s width).mapError fun e =>
    "strconv.ParseInt: parsing " ++ quote s ++ ": " ++ e.text

end Go
