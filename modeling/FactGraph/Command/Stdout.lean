import FactGraph.Text.Quoted

namespace FactGraph.Text

def leadingSurrogates : Text → Nat
  | plain _ => 0
  | broken before _ after => if before.isEmpty then leadingSurrogates after + 1 else 0

def utf8Refusal? : Text → Option String
  | plain _ => none
  | broken before surrogate after =>
    let start := before.length
    let place :=
      match leadingSurrogates after with
      | 0 => "character '" ++ String.ofList (surrogateEscape surrogate) ++ "' in position " ++
          toString start
      | more + 1 => "characters in position " ++ toString start ++ "-" ++
          toString (start + more + 1)
    some ("'utf-8' codec can't encode " ++ place ++ ": surrogates not allowed")

end FactGraph.Text

namespace FactGraph.Command

/-- A stream that texts are printed to, with the reason for which it refuses one. -/
structure Stdout where
  refusal? : Text → Option String

namespace Stdout

def takes (stdout : Stdout) (text : Text) : Bool := (stdout.refusal? text).isNone

def utf8 : Stdout := ⟨Text.utf8Refusal?⟩

end Stdout

end FactGraph.Command
