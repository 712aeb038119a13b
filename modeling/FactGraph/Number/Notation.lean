import FactGraph.Number.Shortest

namespace FactGraph

def exponentText (e : Int) : String :=
  let digits := toString e.natAbs
  (if e < 0 then "e-" else "e+") ++ (if digits.length < 2 then "0" ++ digits else digits)

/-- A positive decimal as text: with a point among its digits if the exponent of the leading digit
    is at least -4 and below 16, and with an explicit exponent otherwise. -/
def Decimal.text (d : Decimal) : String :=
  let digits := (toString d.digits).toList
  let significant := (digits.reverse.dropWhile (· = '0')).reverse
  let leading : Int := d.exponent + digits.length - 1
  if -4 ≤ leading ∧ leading < 0 then
    "0." ++ String.ofList (List.replicate (-leading - 1).toNat '0' ++ significant)
  else if 0 ≤ leading ∧ leading < 16 then
    let whole := leading.toNat + 1
    let padded := significant ++ List.replicate (whole + 1 - significant.length) '0'
    String.ofList (padded.take whole) ++ "." ++ String.ofList (padded.drop whole)
  else
    match significant with
    | first :: second :: rest =>
      String.ofList (first :: '.' :: second :: rest) ++ exponentText leading
    | single => String.ofList single ++ exponentText leading

def Binary64.text : Binary64 → String
  | .nan => "nan"
  | .infinite negative => if negative then "-inf" else "inf"
  | .finite negative magnitude =>
    (if negative then "-" else "") ++
      if magnitude.significand = 0 then "0.0" else magnitude.shortest.text

end FactGraph
