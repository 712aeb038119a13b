import FactGraph.Number.Binary64
import FactGraph.Text.Blank
import FactGraph.Text.Digit

namespace FactGraph.Numeral

open FactGraph.Text

/-- The ASCII form of a character. Beyond ASCII only blanks, which become spaces, and decimal digits
    of any script have one. -/
def plainChar? (c : Char) : Option Char :=
  if c.toNat < 0x80 then some c
  else if isWideBlank c then some ' '
  else (scriptDigit? c).map digitChar

def plain? (s : List Char) : Option (List Char) :=
  (s.mapM plainChar?).map trim

def digits? (base : Nat) : List Char → Option (List Nat)
  | [] => none
  | [c] => (digitIn? base c).map ([·])
  | c :: '_' :: rest => do
    let digit ← digitIn? base c
    let digits ← digits? base rest
    pure (digit :: digits)
  | c :: rest => do
    let digit ← digitIn? base c
    let digits ← digits? base rest
    pure (digit :: digits)

def signed : List Char → Bool × List Char
  | '+' :: rest => (false, rest)
  | '-' :: rest => (true, rest)
  | rest => (false, rest)

def dropHexMarker : List Char → List Char
  | '0' :: marker :: rest =>
    if marker = 'x' ∨ marker = 'X' then
      match rest with
      | '_' :: rest => rest
      | rest => rest
    else '0' :: marker :: rest
  | rest => rest

def hexadecimal? (s : List Char) : Option Nat := do
  let plain ← plain? s
  let (negative, body) := signed plain
  if negative then none
  else (digits? 16 (dropHexMarker body)).map (numberOf 16)

def digitLimit : Nat := 4300

def integer? (s : List Char) : Option Int := do
  let plain ← plain? s
  let (negative, body) := signed plain
  let digits ← digits? 10 body
  if digitLimit < digits.length then none
  else
    let value : Int := numberOf 10 digits
    pure (if negative then -value else value)

def cutAtPoint (s : List Char) : List Char × List Char :=
  (s.takeWhile (· ≠ '.'), (s.dropWhile (· ≠ '.')).drop 1)

def part? (s : List Char) : Option (List Nat) :=
  if s.isEmpty then some [] else digits? 10 s

def significand? (s : List Char) : Option (List Nat × Nat) := do
  let (whole, fraction) := cutAtPoint s
  let wholeDigits ← part? whole
  let fractionDigits ← part? fraction
  let digits := wholeDigits ++ fractionDigits
  if digits.isEmpty then none else pure (digits, fractionDigits.length)

def exponent? : List Char → Option Int
  | [] => some 0
  | _ :: s => do
    let (negative, body) := signed s
    let digits ← digits? 10 body
    let value : Int := numberOf 10 digits
    pure (if negative then -value else value)

def isExponentMark (c : Char) : Bool := c = 'e' || c = 'E'

def decimal? (negative : Bool) (s : List Char) : Option Binary64 := do
  let (digits, places) ← significand? (s.takeWhile (!isExponentMark ·))
  let exponent ← exponent? (s.dropWhile (!isExponentMark ·))
  pure (.ofDecimal negative (numberOf 10 digits) digits.length (exponent - places))

def float? (s : List Char) : Option Binary64 := do
  let plain ← plain? s
  let (negative, body) := signed plain
  let name := String.ofList (body.map Char.toLower)
  if name = "inf" ∨ name = "infinity" then pure (.infinite negative)
  else if name = "nan" then pure .nan
  else decimal? negative body

end FactGraph.Numeral
