namespace FactGraph

/-- A character, or one half of a surrogate pair without the other. -/
inductive CodePoint where
  | char (c : Char)
  | surrogate (offset : Fin 0x800)
  deriving Repr, DecidableEq

/-- A text, which is `plain` if it is made of characters only. Otherwise it goes on after the first
    surrogate. -/
inductive Text where
  | plain (characters : String)
  | broken (before : String) (surrogate : Fin 0x800) (after : Text)
  deriving Repr, DecidableEq

namespace Text

instance : Coe String Text := ⟨plain⟩

def append : Text → Text → Text
  | plain s, plain t => plain (s ++ t)
  | plain s, broken before surrogate after => broken (s ++ before) surrogate after
  | broken before surrogate after, t => broken before surrogate (append after t)

instance : Append Text := ⟨append⟩

def intercalate (separator : Text) : List Text → Text
  | [] => ""
  | [text] => text
  | text :: texts => text ++ separator ++ intercalate separator texts

def isEmpty : Text → Bool
  | plain s => s.isEmpty
  | broken _ _ _ => false

def string? : Text → Option String
  | plain s => some s
  | broken _ _ _ => none

@[simp] theorem string?_plain (s : String) : (plain s).string? = some s := rfl

def points : Text → List CodePoint
  | plain s => s.toList.map .char
  | broken before surrogate after =>
    before.toList.map .char ++ .surrogate surrogate :: points after

def ofPointsAfter (done : List Char) : List CodePoint → Text
  | [] => plain (String.ofList done.reverse)
  | .char c :: points => ofPointsAfter (c :: done) points
  | .surrogate offset :: points =>
    broken (String.ofList done.reverse) offset (ofPointsAfter [] points)

def ofPoints (points : List CodePoint) : Text := ofPointsAfter [] points

def replaced : Text → String
  | plain s => s
  | broken before _ after => before ++ "\ufffd" ++ replaced after

instance : ToString Text := ⟨replaced⟩

end Text

end FactGraph
