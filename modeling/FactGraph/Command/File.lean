import FactGraph.Text.Quoted

namespace FactGraph.Command

inductive FileProblem where
  | notFound
  | accessDenied
  | notADirectory
  | isADirectory
  | nameTooLong
  | other (code : Nat) (text : String)
  deriving Repr, DecidableEq

def FileProblem.code : FileProblem → Nat
  | .notFound => 2
  | .accessDenied => 13
  | .notADirectory => 20
  | .isADirectory => 21
  | .nameTooLong => 36
  | .other code _ => code

def FileProblem.text : FileProblem → String
  | .notFound => "No such file or directory"
  | .accessDenied => "Permission denied"
  | .notADirectory => "Not a directory"
  | .isADirectory => "Is a directory"
  | .nameTooLong => "File name too long"
  | .other _ text => text

def FileProblem.message (problem : FileProblem) (path : String) : String :=
  "[Errno " ++ toString problem.code ++ "] " ++ problem.text ++ ": " ++ Text.quoted path

end FactGraph.Command
