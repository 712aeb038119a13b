import FactGraph.Command.Word
import FactGraph.Text.Quoted

namespace FactGraph.Command

inductive Verb where
  | audit
  | showFact
  deriving Repr, DecidableEq

def Verb.name : Verb → String
  | .audit => "audit"
  | .showFact => "show"

def Verb.all : List Verb := [.audit, .showFact]

def Verb.arguments : Verb → List String
  | .audit => ["dump"]
  | .showFact => ["dump", "fact_id"]

inductive Level where
  | program
  | verb (verb : Verb)
  deriving Repr, DecidableEq

def Level.name : Level → String
  | .program => "factrecord"
  | .verb task => "factrecord " ++ task.name

def Level.switches : Level → List Switch
  | .program => [.help, .verbose]
  | .verb _ => [.help]

def Level.usage : Level → String
  | .program => "usage: factrecord [-h] [-v] \x7baudit,show\x7d ..."
  | .verb .audit => "usage: factrecord audit [-h] dump"
  | .verb .showFact => "usage: factrecord show [-h] dump fact_id"

def Level.help (level : Level) : List String :=
  level.usage :: "" ::
  match level with
  | .program =>
    [ "factrecord — Fact binding reconciliation",
      "",
      "options:",
      "  -h, --help     show this help message and exit",
      "  -v, --verbose  Log debug output",
      "",
      "commands:",
      "  Available commands",
      "",
      "  \x7baudit,show\x7d",
      "    audit        Resolve every Fact in a dump and report corrupt bindings",
      "    show         Show one reconciled Fact" ]
  | .verb .audit =>
    [ "positional arguments:",
      "  dump        Path to a JSON dump",
      "",
      "options:",
      "  -h, --help  show this help message and exit" ]
  | .verb .showFact =>
    [ "positional arguments:",
      "  dump        Path to a JSON dump",
      "  fact_id     Fact ID to show",
      "",
      "options:",
      "  -h, --help  show this help message and exit" ]

inductive UsageFault where
  | ambiguousSwitch (text : String) (names : List String)
  | ignoredText (switch : Switch) (text : String)
  | unknownVerb (text : String)
  | missingArguments (names : List String)
  | unrecognized (texts : List String)
  deriving DecidableEq

def UsageFault.message : UsageFault → String
  | .ambiguousSwitch text names =>
    "ambiguous option: " ++ text ++ " could match " ++ ", ".intercalate names
  | .ignoredText switch text =>
    "argument " ++ "/".intercalate switch.names ++ ": ignored explicit argument " ++
      Text.quoted text
  | .unknownVerb text =>
    "argument command: invalid choice: " ++ Text.quoted text ++ " (choose from " ++
      ", ".intercalate (Verb.all.map fun verb => Text.quoted verb.name) ++ ")"
  | .missingArguments names =>
    "the following arguments are required: " ++ ", ".intercalate names
  | .unrecognized texts => "unrecognized arguments: " ++ " ".intercalate texts

end FactGraph.Command
