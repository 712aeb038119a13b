import FactGraph.Number.Numeral
import FactGraph.Text.Basic
import FactGraph.Uuid.Basic

namespace FactGraph.Uuid

def dropUrn : List Char → List Char
  | [] => []
  | 'u' :: 'r' :: 'n' :: ':' :: rest => dropUrn rest
  | c :: rest => c :: dropUrn rest

def dropScheme : List Char → List Char
  | [] => []
  | 'u' :: 'u' :: 'i' :: 'd' :: ':' :: rest => dropScheme rest
  | c :: rest => c :: dropScheme rest

def isBrace (c : Char) : Bool := c = '\x7b' || c = '\x7d'

def dropBraces (s : List Char) : List Char :=
  ((s.dropWhile isBrace).reverse.dropWhile isBrace).reverse

def core (s : List Char) : List Char :=
  (dropBraces (dropScheme (dropUrn s))).filter (· ≠ '-')

/-- Reads an id in any accepted spelling: thirty-two characters that are a numeral in base sixteen,
    with dashes anywhere, braces around it and the marks of a resource name before it. -/
def ofString? (s : String) : Option Uuid :=
  let numeral := core s.toList
  if numeral.length = 32 then (Numeral.hexadecimal? numeral).bind ofNat? else none

def ofText? (text : Text) : Option Uuid := text.string?.bind ofString?

end FactGraph.Uuid
