import FactGraph.Text.Basic
import FactGraph.Text.Digit
import FactGraph.Text.Printable

namespace FactGraph.Text

/-- The quote around a text: a single one, unless the text holds single quotes and no double one. -/
def quoteOf (points : List CodePoint) : Char :=
  if points.contains (.char '\'') && !points.contains (.char '"') then '"' else '\''

/-- A character as it stands between quotes. What cannot be shown is given by its code point in two,
    four or eight hexadecimal digits. -/
def quotedChar (quote c : Char) : List Char :=
  if c = quote ∨ c = '\\' then ['\\', c]
  else if c = '\n' then ['\\', 'n']
  else if c = '\r' then ['\\', 'r']
  else if c = '\t' then ['\\', 't']
  else if isPrintable c then [c]
  else if c.toNat < 0x100 then '\\' :: 'x' :: hexadecimal 2 c.toNat
  else if c.toNat < 0x10000 then '\\' :: 'u' :: hexadecimal 4 c.toNat
  else '\\' :: 'U' :: hexadecimal 8 c.toNat

def surrogateEscape (offset : Fin 0x800) : List Char :=
  '\\' :: 'u' :: hexadecimal 4 (0xD800 + offset)

def quotedPoint (quote : Char) : CodePoint → List Char
  | .char c => quotedChar quote c
  | .surrogate offset => surrogateEscape offset

def quoted (text : Text) : String :=
  let quote := quoteOf text.points
  String.ofList (quote :: (text.points.flatMap (quotedPoint quote) ++ [quote]))

end FactGraph.Text
