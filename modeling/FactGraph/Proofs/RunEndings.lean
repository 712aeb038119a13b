import FactGraph.Proofs.LoadFaults
import FactGraph.Proofs.Printing

namespace FactGraph

namespace Command

def Run.Completes (run : Run) : Prop :=
  run.printed ≠ [] ∧ (run.ending = .exit 0 ∨ run.ending = .exit 1)

theorem Run.Completes.ending_ne_broken {run : Run} (done : run.Completes) {cause : Breakdown} :
    run.ending ≠ .broken cause := by
  obtain ⟨-, success | failure⟩ := done
  · simp [success]
  · simp [failure]

theorem Run.completes_on_iff {stdout : Stdout} {run : Run} :
    (run.on stdout).Completes ↔ run.Completes ∧ run.PrintableOn stdout := by
  by_cases printable : run.PrintableOn stdout
  · rw [on_eq_self printable, and_iff_left printable]
  · obtain ⟨before, text, after, reason, -, -, broken⟩ := on_of_not_printable printable
    rw [broken]
    simp [Completes, printable]

theorem Run.ending_on_overflow_iff {stdout : Stdout} {run : Run} {cause : Overflow}
    (silent : run.ending = .broken (.overflow cause) → run.printed = []) :
    (run.on stdout).ending = .broken (.overflow cause) ↔
      run.ending = .broken (.overflow cause) := by
  by_cases printable : run.PrintableOn stdout
  · rw [on_eq_self printable]
  · obtain ⟨before, text, after, reason, split, -, broken⟩ := on_of_not_printable printable
    rw [broken]
    constructor
    · intro overflow
      cases overflow
    · -- Where nothing is printed, nothing is refused.
      intro overflow
      rw [silent overflow] at split
      simp at split

theorem notLoaded_completes (reason : String) : (notLoaded reason).Completes := by
  simp [notLoaded, Run.Completes]

theorem audit_completes (stores : Stores) : (audit stores).Completes := by
  refine ⟨by simp [audit, Report.auditLines, Report.auditHeading], ?_⟩
  unfold audit
  by_cases clean : (stores.readAll (stores.listFacts.map some)).isClean
  · exact .inl (by simp [clean])
  · exact .inr (by simp [clean])

theorem showFact_completes (stores : Stores) (factId : Text) :
    (showFact stores factId).Completes := by
  unfold showFact
  cases Uuid.ofText? factId with
  | none => simp [Run.Completes]
  | some id =>
    simp only
    cases stores.getFact id with
    | none => simp [Run.Completes]
    | some fact =>
      simp only
      cases (stores.read fact).outcome <;> simp [Run.Completes]

def Task.LacksId : Task → Prop
  | audit _ => False
  | showFact _ factId => factId = none

theorem perform_completes_iff {task : Task} {stores : Stores} :
    (task.perform stores).Completes ↔ ¬ task.LacksId := by
  cases task with
  | audit path => simp [Task.perform, Task.LacksId, audit_completes]
  | showFact path factId =>
    cases factId with
    | none => simp [Task.perform, Task.LacksId, Run.Completes]
    | some factId => simp [Task.perform, Task.LacksId, showFact_completes]

theorem perform_ending_ne_overflow {task : Task} {stores : Stores} {cause : Overflow} :
    (task.perform stores).ending ≠ .broken (.overflow cause) := by
  by_cases lacking : task.LacksId
  · cases task with
    | audit path => exact lacking.elim
    | showFact path factId =>
      cases lacking
      simp [Task.perform]
  · have done : (task.perform stores).Completes := perform_completes_iff.mpr lacking
    exact done.ending_ne_broken

/-- Whether the values that a task shows are plain, and the id of a Fact as it is given. -/
def Task.ShowsPlain (task : Task) (stores : Stores) : Prop :=
  match task with
  | audit _ =>
    ∀ record ∈ stores.readStored.records, ∀ value ∈ record.rowValues, value.display.IsPlain
  | showFact _ (some factId) =>
    factId.IsPlain ∧ ∀ record ∈ stores.readStored.records, Uuid.ofText? factId = some record.id →
      ∀ value ∈ record.shownValues, value.display.IsPlain
  | showFact _ none => True

theorem perform_printableOn_utf8 {task : Task} {stores : Stores} :
    (task.perform stores).PrintableOn .utf8 ↔ task.ShowsPlain stores := by
  cases task with
  | audit path => exact audit_printableOn_utf8
  | showFact path factId =>
    cases factId with
    | none => simp [Task.perform, Task.ShowsPlain, Run.PrintableOn]
    | some factId => exact showFact_printableOn_utf8

section File

variable {task : Task} {bytes : List UInt8} (opened : '\x00' ∉ task.dump.toList)

include opened

theorem run_of_dump {dump : Dump} (loaded : Dump.ofBytes bytes = .ok dump) :
    task.run (.ok bytes) = task.perform dump.toStores := by
  simp [Task.run, opened, loaded]

theorem run_of_format {fault : Dump.FormatFault}
    (refused : Dump.ofBytes bytes = .error (.format fault)) :
    task.run (.ok bytes) = notLoaded fault.message := by
  simp [Task.run, opened, refused]

theorem run_of_overflow {cause : Overflow}
    (overflows : Dump.ofBytes bytes = .error (.overflow cause)) :
    task.run (.ok bytes) = ⟨[], [], .broken (.overflow cause)⟩ := by
  simp [Task.run, opened, overflows]

theorem ending_run_overflow_iff {cause : Overflow} :
    (task.run (.ok bytes)).ending = .broken (.overflow cause) ↔
      Dump.ofBytes bytes = .error (.overflow cause) := by
  cases outcome : Dump.ofBytes bytes with
  | ok dump =>
    rw [run_of_dump opened outcome]
    simp [perform_ending_ne_overflow]
  | error fault =>
    cases fault with
    | format fault =>
      rw [run_of_format opened outcome]
      simp [(notLoaded_completes fault.message).ending_ne_broken]
    | overflow cause =>
      rw [run_of_overflow opened outcome]
      simp

theorem completes_run_iff_of_opened :
    (task.run (.ok bytes)).Completes ↔
      (∀ cause, Dump.ofBytes bytes ≠ .error (.overflow cause)) ∧
        ¬ (task.LacksId ∧ ∃ dump, Dump.ofBytes bytes = .ok dump) := by
  cases outcome : Dump.ofBytes bytes with
  | ok dump =>
    rw [run_of_dump opened outcome, perform_completes_iff]
    simp
  | error fault =>
    cases fault with
    | format fault =>
      rw [run_of_format opened outcome]
      simp [notLoaded_completes]
    | overflow cause =>
      rw [run_of_overflow opened outcome]
      simp [Run.Completes]

theorem printableOn_utf8_run_iff :
    (task.run (.ok bytes)).PrintableOn .utf8 ↔
      ∀ dump, Dump.ofBytes bytes = .ok dump → task.ShowsPlain dump.toStores := by
  cases outcome : Dump.ofBytes bytes with
  | ok dump =>
    rw [run_of_dump opened outcome, perform_printableOn_utf8]
    simp
  | error fault =>
    cases fault with
    | format fault =>
      rw [run_of_format opened outcome]
      simp [notLoaded, Run.PrintableOn]
    | overflow cause =>
      rw [run_of_overflow opened outcome]
      simp [Run.PrintableOn]

theorem printed_run_of_overflow {cause : Overflow}
    (broken : (task.run (.ok bytes)).ending = .broken (.overflow cause)) :
    (task.run (.ok bytes)).printed = [] := by
  rw [run_of_overflow opened ((ending_run_overflow_iff opened).mp broken)]

end File

theorem printed_run_eq (invocation : Invocation) (file : Except FileProblem (List UInt8)) :
    (invocation.run file).printed = (invocation.task.run file).printed := by
  unfold Invocation.run
  split <;> rfl

theorem ending_run_eq (invocation : Invocation) (file : Except FileProblem (List UInt8)) :
    (invocation.run file).ending = (invocation.task.run file).ending := by
  unfold Invocation.run
  split <;> rfl

theorem completes_run_iff {invocation : Invocation} {file : Except FileProblem (List UInt8)} :
    (invocation.run file).Completes ↔ (invocation.task.run file).Completes := by
  unfold Run.Completes
  rw [printed_run_eq, ending_run_eq]

theorem printableOn_run_iff {stdout : Stdout} {invocation : Invocation}
    {file : Except FileProblem (List UInt8)} :
    (invocation.run file).PrintableOn stdout ↔ (invocation.task.run file).PrintableOn stdout := by
  unfold Run.PrintableOn
  rw [printed_run_eq]

/-- The bytes of a dump are loaded or refused with a reason, and the run that reads them ends with
    an exit code, unless their first fault is a number that overflows or what the run has to print
    is refused. In UTF-8 surrogates are refused, and nothing else is. -/
theorem completes_unless_overruns {stdout : Stdout} {invocation : Invocation} {bytes : List UInt8}
    (opened : '\x00' ∉ invocation.task.dump.toList) :
    let run := invocation.run (.ok bytes)
    ((∃ dump, Dump.ofBytes bytes = .ok dump) ∨
          (∃ fault, Dump.ofBytes bytes = .error (.format fault)) ↔
        ∀ cause, ¬ Dump.Overruns bytes cause) ∧
      ((run.on stdout).Completes ↔
        (∀ cause, ¬ Dump.Overruns bytes cause) ∧
          ¬ (invocation.task.LacksId ∧ ∃ dump, Dump.ofBytes bytes = .ok dump) ∧
          run.PrintableOn stdout) ∧
      (∀ cause, (run.on stdout).ending = .broken (.overflow cause) ↔
        Dump.Overruns bytes cause) ∧
      (run.PrintableOn .utf8 ↔ ∀ dump, Dump.ofBytes bytes = .ok dump →
        invocation.task.ShowsPlain dump.toStores) := by
  intro run
  have loads : (∃ dump, Dump.ofBytes bytes = .ok dump) ∨
      (∃ fault, Dump.ofBytes bytes = .error (.format fault)) ↔
        ∀ cause, Dump.ofBytes bytes ≠ .error (.overflow cause) := by
    cases Dump.ofBytes bytes with
    | ok dump => simp
    | error fault => cases fault <;> simp
  have breaks (cause : Overflow) : (run.on stdout).ending = .broken (.overflow cause) ↔
      Dump.ofBytes bytes = .error (.overflow cause) := by
    rw [Run.ending_on_overflow_iff, ending_run_eq, ending_run_overflow_iff opened]
    rw [ending_run_eq, printed_run_eq]
    exact printed_run_of_overflow opened
  simp only [← Dump.ofBytes_overflow_iff]
  refine ⟨loads, ?_, breaks, ?_⟩
  · rw [Run.completes_on_iff, completes_run_iff, completes_run_iff_of_opened opened, and_assoc]
  · rw [printableOn_run_iff, printableOn_utf8_run_iff opened]

def asciiBytes (text : String) : List UInt8 := text.toList.map fun c => UInt8.ofNat c.toNat

def dumpWith (key : String) (value : List UInt8) : List UInt8 :=
  asciiBytes "\x7b\"facts\":[\x7b\"id\":\"00000000-0000-0000-0000-000000000001\",\"" ++
    asciiBytes key ++ asciiBytes "\":" ++ value ++ asciiBytes "\x7d]\x7d"

def auditing : Invocation := ⟨false, .audit "dump.json"⟩

theorem completes_unless_overruns_timestamps :
    '\x00' ∉ auditing.task.dump.toList ∧
      Dump.Overruns (dumpWith "timestamp" (asciiBytes "Infinity")) .infiniteToInteger ∧
      ∀ cause, ¬ Dump.Overruns (dumpWith "timestamp" (asciiBytes "NaN")) cause := by
  have opened : '\x00' ∉ auditing.task.dump.toList := by decide
  have broken : ((auditing.run (.ok (dumpWith "timestamp" (asciiBytes "Infinity")))).on
      .utf8).ending = .broken (.overflow .infiniteToInteger) := by
    decide +kernel
  have refused : ((auditing.run (.ok (dumpWith "timestamp" (asciiBytes "NaN")))).on
      .utf8).Completes := by
    unfold Run.Completes
    decide +kernel
  obtain ⟨-, -, breaks, -⟩ :=
    @completes_unless_overruns .utf8 auditing (dumpWith "timestamp" (asciiBytes "Infinity")) opened
  obtain ⟨-, completes, -, -⟩ :=
    @completes_unless_overruns .utf8 auditing (dumpWith "timestamp" (asciiBytes "NaN")) opened
  exact ⟨opened, (breaks _).mp broken, (completes.mp refused).1⟩

theorem huge_numbers_not_refused :
    (auditing.run (.ok (dumpWith "timestamp" (asciiBytes "Infinity")))).on .utf8 =
        ⟨[], [], .broken (.overflow .infiniteToInteger)⟩ ∧
      (auditing.run (.ok (dumpWith "trust" (asciiBytes "1" ++ List.replicate 309 48)))).on .utf8 =
        ⟨[], [], .broken (.overflow .integerToFloat)⟩ ∧
      ¬ ∀ bytes, (∃ dump, Dump.ofBytes bytes = .ok dump) ∨
        ∃ fault, Dump.ofBytes bytes = .error (.format fault) := by
  have opened : '\x00' ∉ auditing.task.dump.toList := by decide
  have infinite : (auditing.run (.ok (dumpWith "timestamp" (asciiBytes "Infinity")))).on .utf8 =
      ⟨[], [], .broken (.overflow .infiniteToInteger)⟩ := by
    decide +kernel
  have huge : (auditing.run
        (.ok (dumpWith "trust" (asciiBytes "1" ++ List.replicate 309 48)))).on .utf8 =
      ⟨[], [], .broken (.overflow .integerToFloat)⟩ := by
    decide +kernel
  have ended : (auditing.task.run (.ok (dumpWith "timestamp" (asciiBytes "Infinity")))).ending =
      .broken (.overflow .infiniteToInteger) := by
    decide +kernel
  have escaped := (ending_run_overflow_iff opened).mp ended
  refine ⟨infinite, huge, fun claimed => ?_⟩
  obtain ⟨dump, loaded⟩ | ⟨fault, refused⟩ := claimed (dumpWith "timestamp" (asciiBytes "Infinity"))
  · rw [loaded] at escaped
    cases escaped
  · rw [refused] at escaped
    cases escaped

end Command

end FactGraph
