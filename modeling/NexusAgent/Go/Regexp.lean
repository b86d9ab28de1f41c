import Mathlib.Data.List.Basic

/-!
# Regular expressions of the source language

The part of `regexp` that the patterns of the modelled code are written in: literals, with or
without regard to case, classes of characters, alternatives, repetitions and the boundary of a
word. `MatchString` asks only whether some part of a text matches, so that an expression is read as
the places where a match that begins at a given place can end.
-/

namespace Go

inductive Regexp
  | empty
  /-- One character whose number lies in one of the ranges. -/
  | ranges (rs : List (ℕ × ℕ))
  /-- `\b`: a place with a word character on exactly one side. -/
  | wordBoundary
  | cat (r s : Regexp)
  | alt (r s : Regexp)
  | star (r : Regexp)

namespace Regexp

/-! ### Expressions -/

/-- `r?`. -/
def opt (r : Regexp) : Regexp := alt r empty

/-- `r{n}`. -/
def times (r : Regexp) : ℕ → Regexp
  | 0 => empty
  | n + 1 => cat r (times r n)

/-- `r{n,}`. -/
def atLeast (r : Regexp) (n : ℕ) : Regexp := cat (times r n) (star r)

/-- Some expressions in a row. -/
def all (rs : List Regexp) : Regexp := rs.foldr cat empty

/-- One of two literal characters or more. -/
def oneOf (cs : List Char) : Regexp := ranges (cs.map fun c => (c.toNat, c.toNat))

def lit (s : String) : Regexp := all (s.toList.map fun c => oneOf [c])

/-- The characters that are the same as `c` without regard to case. The Kelvin sign folds to the
letter k, and the long s to the letter s. -/
def variants (c : Char) : List Char :=
  [c.toLower, c.toUpper] ++
    (if c.toLower = 'k' then [Char.ofNat 0x212a] else []) ++
    (if c.toLower = 's' then [Char.ofNat 0x17f] else [])

/-- A literal text without regard to case. -/
def fold (s : String) : Regexp := all (s.toList.map fun c => oneOf (variants c))

/-- `.`: any character but a newline. -/
def any : Regexp := ranges [(0, 9), (11, 0x10ffff)]

/-! ### Matching -/

/-- A place in a text: the character before it, if any, and what follows. -/
structure Place where
  before : Option Char
  rest : List Char

def isWord (c : Char) : Bool := c.isAlphanum || c == '_'

/-- Whether a place has a word character on exactly one side. -/
def Place.atBoundary (p : Place) : Bool := p.before.any isWord != p.rest.head?.any isWord

/-- The places that `f` reaches in at most `n` steps. -/
def iterate (f : Place → List Place) : ℕ → Place → List Place
  | 0, p => [p]
  | n + 1, p => p :: (f p).flatMap (iterate f n)

/-- Where a match that begins at a place can end. A repetition need not be tried more often than
there are characters left. -/
def ends : Regexp → Place → List Place
  | .empty, p => [p]
  | .ranges rs, p =>
    match p.rest with
    | [] => []
    | c :: cs => if rs.any fun r => r.1 ≤ c.toNat && c.toNat ≤ r.2 then [⟨some c, cs⟩] else []
  | .wordBoundary, p => if p.atBoundary then [p] else []
  | .cat r s, p => (ends r p).flatMap (ends s)
  | .alt r s, p => ends r p ++ ends s p
  | .star r, p => iterate (ends r) p.rest.length p

/-- The places of a text. -/
def places : Option Char → List Char → List Place
  | before, [] => [⟨before, []⟩]
  | before, c :: cs => ⟨before, c :: cs⟩ :: places (some c) cs

/-- `MatchString`: whether some part of the text matches. -/
def matchString (r : Regexp) (s : String) : Bool :=
  (places none s.toList).any fun p => !(ends r p).isEmpty

end Regexp

end Go
