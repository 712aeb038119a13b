import FactGraph.Text.Digit

namespace FactGraph.Command

inductive Switch where
  | help
  | verbose
  deriving Repr, DecidableEq

def Switch.names : Switch → List String
  | .help => ["-h", "--help"]
  | .verbose => ["-v", "--verbose"]

/-- How one argument of a command line is understood. A switch can have a text attached to it, after
    an equals sign or after a short name. -/
inductive Word where
  | plain (text : String)
  | separator
  | switch (switch : Switch) (isLong : Bool) (attached : Option (List Char))
  | unknown (text : String)
  | ambiguous (text : String) (names : List String)
  deriving DecidableEq

namespace Word

def named (known : List Switch) : List (String × Switch) :=
  known.flatMap fun option => option.names.map fun name => (name, option)

def cutAtEquals (word : List Char) : List Char × Option (List Char) :=
  match word.dropWhile (· ≠ '=') with
  | [] => (word, none)
  | _ :: rest => (word.takeWhile (· ≠ '='), some rest)

def isLongName (word : List Char) : Bool := "--".toList.isPrefixOf word

/-- The switches that a word can mean when it is no name as it stands: those with a long name that
    starts with it, or the one with the short name it starts with. -/
def candidates (known : List Switch) (word : List Char) :
    List (String × Switch × Option (List Char)) :=
  if isLongName word then
    let (start, attached) := cutAtEquals word
    ((named known).filter (start.isPrefixOf ·.1.toList)).map
      fun entry => (entry.1, entry.2, attached)
  else
    ((named known).filter (·.1.toList = word.take 2)).map
      fun entry => (entry.1, entry.2, some (word.drop 2))

def isAnyDigit (c : Char) : Bool := (Text.digitIn? 10 c).isSome || (Text.scriptDigit? c).isSome

/-- Whether a word is a minus and a decimal, which one line feed may follow. -/
def isNegativeNumber : List Char → Bool
  | '-' :: rest =>
    let body := if rest.getLast? = some '\n' then rest.dropLast else rest
    match body.dropWhile isAnyDigit with
    | [] => !body.isEmpty
    | '.' :: places => !places.isEmpty && places.all isAnyDigit
    | _ => false
  | _ => false

/-- Understands a word that is not the separator. What starts with a dash is a switch, or an unknown
    one unless it is a negative number or holds a space. -/
def classify (known : List Switch) (text : String) : Word :=
  let word := text.toList
  if word.head? ≠ some '-' ∨ word.length = 1 then plain text
  else
    let (start, attached) := cutAtEquals word
    match (named known).lookup text, (named known).lookup (String.ofList start) with
    | some exact, _ => switch exact (isLongName word) none
    | none, some exact => switch exact (isLongName word) attached
    | none, none =>
      match candidates known word with
      | [(_, only, attached)] => switch only (isLongName word) attached
      | [] => if isNegativeNumber word || word.contains ' ' then plain text else unknown text
      | several => ambiguous text (several.map (·.1))

def classifyAll (known : List Switch) : List String → List Word
  | [] => []
  | text :: rest =>
    if text = "--" then separator :: rest.map plain
    else classify known text :: classifyAll known rest

end Word

end FactGraph.Command
