import FactGraph.Command.Usage

namespace FactGraph.Command

/-- What is asked for, with the path of a dump. The id of a Fact can be left blank by a second
    separator. -/
inductive Task where
  | audit (dump : String)
  | showFact (dump : String) (factId : Option Text)
  deriving Repr, DecidableEq

def Task.verb : Task → Verb
  | audit _ => .audit
  | showFact _ _ => .showFact

def Task.dump : Task → String
  | audit dump | showFact dump _ => dump

structure Invocation where
  verbose : Bool
  task : Task
  deriving Repr, DecidableEq

inductive Halt where
  | help (level : Level)
  | wrong (level : Level) (fault : UsageFault)
  deriving DecidableEq

def bundled (level : Level) (switch : Switch) (names : List Char) : Except Halt (List Switch) :=
  match names with
  | [] => .ok [switch]
  | name :: rest =>
    match (Word.named level.switches).lookup (String.ofList ['-', name]) with
    | none => .error (.wrong level (.ignoredText switch (String.ofList names)))
    | some next => do
      let switches ← bundled level next rest
      pure (switch :: switches)

/-- The switches of one word. Only a short name can have a text attached to it, of further short
    names. -/
def expand (level : Level) (switch : Switch) (isLong : Bool) (attached : Option (List Char)) :
    Except Halt (List Switch) :=
  match attached with
  | none => .ok [switch]
  | some names =>
    if isLong || names.isEmpty then
      .error (.wrong level (.ignoredText switch (String.ofList names)))
    else bundled level switch names

/-- What stands directly before a word: an argument, the separator that goes with the word, or
    anything else. -/
inductive Before where
  | argument
  | separator
  | other
  deriving Repr, DecidableEq

def argumentOf (before : Before) (text : String) : Option String :=
  if text = "--" ∧ before ≠ .separator then none else some text

/-- The arguments of a verb and the words that are left over. `missing` arguments are still to come.
    The separator goes with the argument before it, or else with the one after it. -/
def readArguments (level : Level) (missing : Nat) (before : Before) :
    List Word → Except Halt (List (Option String) × List String)
  | [] => .ok ([], [])
  | .switch switch isLong attached :: rest => do
    let switches ← expand level switch isLong attached
    if switches.contains .help then .error (.help level)
    else readArguments level missing .other rest
  | .ambiguous text names :: _ => .error (.wrong level (.ambiguousSwitch text names))
  | .unknown text :: rest => do
    let (arguments, left) ← readArguments level missing .other rest
    pure (arguments, text :: left)
  | .separator :: rest =>
    match before, missing, rest with
    | .argument, _, _ => readArguments level missing .other rest
    | _, _ + 1, .plain _ :: _ => readArguments level missing .separator rest
    | _, _, _ => do
      let (arguments, left) ← readArguments level missing .other rest
      pure (arguments, "--" :: left)
  | .plain text :: rest =>
    match missing with
    | missing + 1 => do
      let (arguments, left) ← readArguments level missing .argument rest
      pure (argumentOf before text :: arguments, left)
    | 0 => do
      let (arguments, left) ← readArguments level 0 .other rest
      pure (arguments, text :: left)

def taskOf (verb : Verb) (arguments : List (Option String)) : Except Halt Task :=
  match verb, arguments with
  | .audit, some dump :: _ => .ok (.audit dump)
  | .showFact, some dump :: factId :: _ => .ok (.showFact dump (factId.map .plain))
  | verb, arguments =>
    .error (.wrong (.verb verb) (.missingArguments (verb.arguments.drop arguments.length)))

def readVerb (verbose : Bool) (left : List String) (verb : Verb) (rest : List String) :
    Except Halt Invocation := do
  let level := Level.verb verb
  let (arguments, more) ←
    readArguments level verb.arguments.length .other (Word.classifyAll level.switches rest)
  let task ← taskOf verb arguments
  match left ++ more with
  | [] => pure { verbose, task }
  | left => .error (.wrong .program (.unrecognized left))

/-- Reads the words up to the verb. Without any word left over, no verb means help. -/
def readProgram (verbose : Bool) (left : List String) : List String → Except Halt Invocation
  | [] =>
    if left.isEmpty then .error (.help .program)
    else .error (.wrong .program (.unrecognized left))
  | text :: rest =>
    let choose (name : String) :=
      match Verb.all.find? (·.name = name) with
      | none => .error (.wrong .program (.unknownVerb name))
      | some verb => readVerb verbose left verb rest
    if text = "--" then
      if rest.isEmpty then .error (.wrong .program (.unrecognized (left ++ [text])))
      else choose text
    else
      match Word.classify Level.program.switches text with
      | .switch switch isLong attached => do
        let switches ← expand .program switch isLong attached
        if switches.contains .help then .error (.help .program) else readProgram true left rest
      | .unknown text => readProgram verbose (left ++ [text]) rest
      | .ambiguous text names => .error (.wrong .program (.ambiguousSwitch text names))
      | .plain text => choose text
      | .separator => choose text

/-- Reads a command line. A word that could mean several switches is refused wherever it stands
    before the separator. -/
def readCommandLine (words : List String) : Except Halt Invocation :=
  let fault := (Word.classifyAll Level.program.switches words).findSome? fun
    | .ambiguous text names => some (UsageFault.ambiguousSwitch text names)
    | _ => none
  match fault with
  | some fault => .error (.wrong .program fault)
  | none => readProgram false [] words

end FactGraph.Command
