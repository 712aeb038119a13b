import FactGraph.Json.Basic
import FactGraph.Number.Numeral

namespace FactGraph.Json

open FactGraph.Text

inductive SyntaxProblem where
  | byteOrderMark
  | expectingValue
  | expectingName
  | expectingColon
  | expectingComma
  | extraData
  | controlCharacter
  | unterminatedText
  | invalidEscape
  | invalidUnicodeEscape
  deriving Repr, DecidableEq

/-- Why and where a text is not a JSON document. Lines and columns count from one, offsets from
    zero. -/
structure SyntaxFault where
  problem : SyntaxProblem
  line : Nat
  column : Nat
  offset : Nat
  deriving Repr, DecidableEq

def SyntaxProblem.message : SyntaxProblem → String
  | .byteOrderMark => "Unexpected UTF-8 BOM (decode using utf-8-sig)"
  | .expectingValue => "Expecting value"
  | .expectingName => "Expecting property name enclosed in double quotes"
  | .expectingColon => "Expecting ':' delimiter"
  | .expectingComma => "Expecting ',' delimiter"
  | .extraData => "Extra data"
  | .controlCharacter => "Invalid control character at"
  | .unterminatedText => "Unterminated string starting at"
  | .invalidEscape => "Invalid \\escape"
  | .invalidUnicodeEscape => "Invalid \\uXXXX escape"

def SyntaxFault.message (fault : SyntaxFault) : String :=
  fault.problem.message ++ ": line " ++ toString fault.line ++ " column " ++
    toString fault.column ++ " (char " ++ toString fault.offset ++ ")"

structure Stop where
  problem : SyntaxProblem
  rest : List Char

def Stop.locate (stop : Stop) (input : List Char) : SyntaxFault :=
  let before := input.take (input.length - stop.rest.length)
  { problem := stop.problem
    line := before.count '\n' + 1
    column := (before.reverse.takeWhile (· ≠ '\n')).length + 1
    offset := before.length }

def isSpace (c : Char) : Bool := c = ' ' || c = '\t' || c = '\n' || c = '\r'

def skipSpace (s : List Char) : List Char := s.dropWhile isSpace

def unit? (digits : List Char) : Option Nat :=
  (digits.mapM (digitIn? 16)).map (numberOf 16)

def isHighSurrogate (unit : Nat) : Bool := 0xD800 ≤ unit && unit < 0xDC00

def isLowSurrogate (unit : Nat) : Bool := 0xDC00 ≤ unit && unit < 0xE000

def pointOfUnit (unit : Nat) : CodePoint :=
  if surrogate : 0xD800 ≤ unit ∧ unit < 0xE000 then .surrogate ⟨unit - 0xD800, by omega⟩
  else .char (Char.ofNat unit)

def pointOfPair (high low : Nat) : CodePoint :=
  .char (Char.ofNat (0x10000 + (high - 0xD800) * 0x400 + (low - 0xDC00)))

def escape? : Char → Option Char
  | '"' => some '"'
  | '\\' => some '\\'
  | '/' => some '/'
  | 'b' => some '\x08'
  | 'f' => some '\x0c'
  | 'n' => some '\n'
  | 'r' => some '\r'
  | 't' => some '\t'
  | _ => none

/-- Reads the escape of a low surrogate after a high one, and joins the two. Where no such escape
    follows, or the input ends with its digits, the high one stands alone. -/
def readPair (high : Nat) (s : List Char) : Except Stop (CodePoint × List Char) :=
  match s with
  | '\\' :: 'u' :: digits =>
    if (digits.drop 4).isEmpty then .ok (pointOfUnit high, s)
    else
      match unit? (digits.take 4) with
      | none => .error ⟨.invalidUnicodeEscape, 'u' :: digits⟩
      | some low =>
        if isLowSurrogate low then .ok (pointOfPair high low, digits.drop 4)
        else .ok (pointOfUnit high, s)
  | _ => .ok (pointOfUnit high, s)

def readUnit (s : List Char) : Except Stop (CodePoint × List Char) :=
  if (s.drop 4).isEmpty then .error ⟨.invalidUnicodeEscape, 'u' :: s⟩
  else
    match unit? (s.take 4) with
    | none => .error ⟨.invalidUnicodeEscape, 'u' :: s⟩
    | some unit =>
      if isHighSurrogate unit then readPair unit (s.drop 4)
      else .ok (pointOfUnit unit, s.drop 4)

theorem readPair_rest_length {high : Nat} {s rest : List Char} {point : CodePoint}
    (done : readPair high s = .ok (point, rest)) : rest.length ≤ s.length := by
  unfold readPair at done
  split at done
  · rename_i digits
    split at done
    · simp only [Except.ok.injEq, Prod.mk.injEq] at done
      simp only [← done.2, Nat.le_refl]
    · split at done
      · cases done
      · split at done <;> simp only [Except.ok.injEq, Prod.mk.injEq] at done
        · simp only [← done.2, List.length_drop, List.length_cons]
          omega
        · simp only [← done.2, Nat.le_refl]
  · simp only [Except.ok.injEq, Prod.mk.injEq] at done
    simp only [← done.2, Nat.le_refl]

theorem readUnit_rest_length {s rest : List Char} {point : CodePoint}
    (done : readUnit s = .ok (point, rest)) : rest.length ≤ s.length := by
  unfold readUnit at done
  split at done
  · cases done
  · split at done
    · cases done
    · split at done
      · have := readPair_rest_length done
        simp only [List.length_drop] at this
        omega
      · cases done
        simp

/-- Reads the code points of a text up to its closing quote, after those of `done`, the last of them
    first. `opening` is the input from the opening quote on. -/
def readText (opening : List Char) (done : List CodePoint) (s : List Char) :
    Except Stop (Text × List Char) :=
  match s with
  | [] => .error ⟨.unterminatedText, opening⟩
  | '"' :: rest => .ok (.ofPoints done.reverse, rest)
  | ['\\'] => .error ⟨.unterminatedText, opening⟩
  | '\\' :: 'u' :: digits =>
    match _unit : readUnit digits with
    | .error stop => .error stop
    | .ok (point, rest) => readText opening (point :: done) rest
  | '\\' :: letter :: rest =>
    match escape? letter with
    | none => .error ⟨.invalidEscape, s⟩
    | some c => readText opening (.char c :: done) rest
  | c :: rest =>
    if c.toNat ≤ 0x1F then .error ⟨.controlCharacter, s⟩
    else readText opening (.char c :: done) rest
  termination_by s.length
  decreasing_by
    · have := readUnit_rest_length _unit
      simp only [List.length_cons]
      omega
    · simp only [List.length_cons]
      omega
    · simp only [List.length_cons]
      omega

def isDigit (c : Char) : Bool := '0' ≤ c && c ≤ '9'

def wholePart? : List Char → Option (List Char × List Char)
  | [] => none
  | '0' :: rest => some (['0'], rest)
  | c :: rest =>
    if isDigit c then some (c :: rest.takeWhile isDigit, rest.dropWhile isDigit) else none

def fractionPart : List Char → List Char × List Char
  | '.' :: c :: rest =>
    if isDigit c then ('.' :: c :: rest.takeWhile isDigit, rest.dropWhile isDigit)
    else ([], '.' :: c :: rest)
  | rest => ([], rest)

def exponentPart (s : List Char) : List Char × List Char :=
  match s with
  | [] => ([], s)
  | mark :: rest =>
    if Numeral.isExponentMark mark then
      let sign := rest.takeWhile (fun c => c = '+' || c = '-') |>.take 1
      let body := rest.drop sign.length
      let digits := body.takeWhile isDigit
      if digits.isEmpty then ([], s) else (mark :: sign ++ digits, body.dropWhile isDigit)
    else ([], s)

def readNumber (s : List Char) : Except Stop (Json × List Char) :=
  let (sign, unsigned) := match s with
    | '-' :: rest => (['-'], rest)
    | rest => ([], rest)
  match wholePart? unsigned with
  | none => .error ⟨.expectingValue, s⟩
  | some (whole, rest) =>
    let (fraction, rest) := fractionPart rest
    let (exponent, rest) := exponentPart rest
    if fraction.isEmpty && exponent.isEmpty then
      let value : Int := numberOf 10 (whole.filterMap (digitIn? 10))
      .ok (.int (if sign.isEmpty then value else -value), rest)
    else
      let value := Numeral.decimal? (!sign.isEmpty) (whole ++ fraction ++ exponent)
      .ok (.float (value.getD .nan), rest)

def constants : List (List Char × Json) :=
  [("null".toList, .null), ("true".toList, .bool true), ("false".toList, .bool false),
   ("NaN".toList, .float .nan), ("Infinity".toList, .float (.infinite false)),
   ("-Infinity".toList, .float (.infinite true))]

def readScalar (s : List Char) : Except Stop (Json × List Char) :=
  match constants.find? (·.1.isPrefixOf s) with
  | some (name, value) => .ok (value, s.drop name.length)
  | none => readNumber s

mutual

/-- Reads one value. Every character lets the readers nest once more, so `fuel` of twice the length
    of the input never runs out. -/
def readValue (fuel : Nat) (s : List Char) : Except Stop (Json × List Char) :=
  match fuel, s with
  | fuel + 1, '[' :: rest =>
    match skipSpace rest with
    | ']' :: rest => .ok (.list [], rest)
    | rest => readItems fuel [] rest
  | fuel + 1, '\x7b' :: rest =>
    match skipSpace rest with
    | '\x7d' :: rest => .ok (.object [], rest)
    | rest => readMembers fuel [] rest
  | _, '"' :: rest => do
    let (value, rest) ← readText s [] rest
    pure (.text value, rest)
  | _, s => readScalar s

def readItems (fuel : Nat) (done : List Json) (s : List Char) : Except Stop (Json × List Char) :=
  match fuel with
  | 0 => .error ⟨.expectingValue, s⟩
  | fuel + 1 => do
    let (item, rest) ← readValue fuel s
    match skipSpace rest with
    | ']' :: rest => pure (.list (item :: done).reverse, rest)
    | ',' :: rest => readItems fuel (item :: done) (skipSpace rest)
    | rest => .error ⟨.expectingComma, rest⟩

/-- Reads the members of an object up to its brace, after those of `done`. A name that comes again
    keeps its place and takes the later value. -/
def readMembers (fuel : Nat) (done : List (Text × Json)) (s : List Char) :
    Except Stop (Json × List Char) :=
  match fuel, s with
  | fuel + 1, '"' :: rest => do
    let (name, rest) ← readText s [] rest
    match skipSpace rest with
    | ':' :: rest =>
      let (value, rest) ← readValue fuel (skipSpace rest)
      let done := put done name value
      match skipSpace rest with
      | '\x7d' :: rest => pure (.object done, rest)
      | ',' :: rest => readMembers fuel done (skipSpace rest)
      | rest => .error ⟨.expectingComma, rest⟩
    | rest => .error ⟨.expectingColon, rest⟩
  | _, s => .error ⟨.expectingName, s⟩

end

def readDocument (s : List Char) : Except Stop Json := do
  if s.head? = some '\ufeff' then .error ⟨.byteOrderMark, s⟩
  let (value, rest) ← readValue (2 * s.length) (skipSpace s)
  match skipSpace rest with
  | [] => pure value
  | rest => .error ⟨.extraData, rest⟩

def read (s : List Char) : Except SyntaxFault Json :=
  (readDocument s).mapError (·.locate s)

end FactGraph.Json
