import FactGraph.Command.File
import FactGraph.Command.Invocation
import FactGraph.Command.Stdout
import FactGraph.Dump.Reader
import FactGraph.Report

namespace FactGraph.Command

inductive Breakdown where
  | overflow (cause : Overflow)
  | nullInPath
  | blankFactId
  | unencodable (reason : String)
  deriving Repr, DecidableEq

def Breakdown.message : Breakdown → String
  | .overflow cause => cause.message
  | .nullInPath => "embedded null byte"
  | .blankFactId => "'list' object has no attribute 'replace'"
  | .unencodable reason => reason

inductive Ending where
  | exit (code : Nat)
  | broken (cause : Breakdown)
  deriving Repr, DecidableEq

/-- What a run has to print and to log, text by text, and how it ends if all can be printed. -/
structure Run where
  printed : List Text
  logged : List String
  ending : Ending
  deriving DecidableEq

/-- A run that prints to a stream. It breaks off at the first text that the stream refuses, after
    all that is logged. -/
def Run.on (stdout : Stdout) (run : Run) : Run :=
  match run.printed.findSome? stdout.refusal? with
  | none => run
  | some reason =>
    { run with
      printed := run.printed.takeWhile stdout.takes
      ending := .broken (.unencodable reason) }

def audit (stores : Stores) : Run :=
  let batch := stores.readAll (stores.listFacts.map some)
  { printed := Report.auditLines batch
    logged := batch.notices.map Report.warning
    ending := .exit (if batch.isClean then 0 else 1) }

def showFact (stores : Stores) (factId : Text) : Run :=
  match Uuid.ofText? factId with
  | none => ⟨["Invalid Fact id: " ++ factId], [], .exit 1⟩
  | some id =>
    match stores.getFact id with
    | none => ⟨["Fact not found: " ++ id.text], [], .exit 1⟩
    | some fact =>
      let reading := stores.read fact
      let logged := reading.diagnostics.map Report.diagnosticWarning
      match reading.outcome with
      | .error missing => ⟨["ERROR: " ++ missing.message], logged, .exit 1⟩
      | .ok record => ⟨[Report.record record], logged, .exit 0⟩

def Task.perform (task : Task) (stores : Stores) : Run :=
  match task with
  | audit _ => Command.audit stores
  | showFact _ (some factId) => Command.showFact stores factId
  | showFact _ none => ⟨[], [], .broken .blankFactId⟩

def notLoaded (reason : String) : Run :=
  ⟨["ERROR: Could not load dump", "Reason: " ++ reason], [], .exit 1⟩

def Task.run (task : Task) (file : Except FileProblem (List UInt8)) : Run :=
  if task.dump.toList.contains '\x00' then ⟨[], [], .broken .nullInPath⟩
  else
    match file with
    | .error problem => notLoaded (problem.message task.dump)
    | .ok bytes =>
      match Dump.ofBytes bytes with
      | .error (.format fault) => notLoaded fault.message
      | .error (.overflow cause) => ⟨[], [], .broken (.overflow cause)⟩
      | .ok dump => task.perform dump.toStores

def Invocation.run (invocation : Invocation) (file : Except FileProblem (List UInt8)) : Run :=
  let run := invocation.task.run file
  if invocation.verbose then
    { run with logged :=
        ("DEBUG factrecord.cli.main: Running command " ++ invocation.task.verb.name) ::
          run.logged }
  else run

def Halt.run : Halt → Run
  | .help level => ⟨["\n".intercalate level.help], [], .exit 0⟩
  | .wrong level fault => ⟨[], [level.usage, level.name ++ ": error: " ++ fault.message], .exit 2⟩

def run {m : Type → Type} [Monad m] (stdout : Stdout) (words : List String)
    (read : String → m (Except FileProblem (List UInt8))) : m Run := do
  match readCommandLine words with
  | .error halt => return halt.run.on stdout
  | .ok invocation => return (invocation.run (← read invocation.task.dump)).on stdout

end FactGraph.Command
