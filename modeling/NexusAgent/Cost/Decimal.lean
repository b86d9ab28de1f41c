import NexusAgent.Cost.Money

/-!
# Decimal amounts

The decimal texts in which budgets and plans state their amounts (`ParseDecimal` in
`internal/cost/money.go`).
-/

namespace NexusAgent.Cost

/-- The currency of the amounts in plans and budgets. -/
def defaultCurrency : String := "USD"

/-- The fraction digits of a decimal amount, filled up to the scale of a micro. -/
def padFraction (frac : String) : String :=
  frac ++ String.ofList (List.replicate (6 - frac.utf8ByteSize) '0')

/-- The refusal of a decimal amount whose digits are no number. -/
def invalidDecimal (s e : String) : String :=
  "cost: invalid decimal amount " ++ Go.quote s ++ ": " ++ e

/-- The amount that a text without a sign stands for, in micros. -/
def parseMicros (s : String) : Except String Int64 := do
  let (whole, frac) := Go.cut s '.'
  let whole := if whole = "" then "0" else whole
  if 6 < frac.utf8ByteSize then
    throw ("cost: " ++ Go.quote s ++
      " has more than 6 fractional digits (finer than the Micros scale)")
  let wholePart ← (Go.parseInt whole 63).mapError (invalidDecimal s)
  let fracPart ← (Go.parseInt (padFraction frac) 63).mapError (invalidDecimal s)
  return Int64.ofInt wholePart * 1000000 + Int64.ofInt fracPart

def parseDecimal (s currency : String) : Except String Money :=
  let s := Go.trimSpace s
  if s = "" then .error "cost: empty decimal amount"
  else match Go.cutChar s '-' with
    | some after => (parseMicros after).map fun micros => { micros := -micros, currency }
    | none => (parseMicros s).map fun micros => { micros, currency }

example : parseDecimal " -1.5 " "USD" = .ok { micros := -1500000, currency := "USD" } := by
  decide +kernel

end NexusAgent.Cost
