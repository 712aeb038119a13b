import FactGraph.Command.Run
import FactGraph.Proofs.BatchContents
import FactGraph.Proofs.CodePoints
import FactGraph.Proofs.DumpContents
import FactGraph.Proofs.FirstFault

namespace FactGraph

namespace Text

def IsPlain : Text → Prop
  | plain _ => True
  | broken _ _ _ => False

instance : DecidablePred IsPlain
  | plain _ => isTrue trivial
  | broken _ _ _ => isFalse id

@[simp] theorem isPlain_plain (s : String) : (plain s).IsPlain := trivial

@[simp] theorem isPlain_append {s t : Text} : (s ++ t).IsPlain ↔ s.IsPlain ∧ t.IsPlain := by
  cases s with
  | plain s =>
    cases t with
    | plain t => simp
    | broken before surrogate after => exact (and_iff_right trivial).symm
  | broken before surrogate after => exact (false_and t.IsPlain).symm.to_iff

theorem isPlain_intercalate {separator : Text} (between : separator.IsPlain) {texts : List Text} :
    (intercalate separator texts).IsPlain ↔ ∀ text ∈ texts, text.IsPlain := by
  induction texts with
  | nil => simp [intercalate]
  | cons first rest ih =>
    cases rest with
    | nil => simp [intercalate]
    | cons next rest =>
      rw [intercalate, isPlain_append, isPlain_append, ih]
      · simp only [List.forall_mem_cons, and_iff_left between]
      · simp

theorem isPlain_of_string? {text : Text} {s : String} (characters : text.string? = some s) :
    text.IsPlain := by
  cases text with
  | plain => trivial
  | broken => cases characters

end Text

namespace Command

variable {stdout : Stdout} {run : Run}

@[simp] theorem Stdout.takes_utf8 {text : Text} : Stdout.utf8.takes text = true ↔ text.IsPlain := by
  cases text with
  | plain => exact ⟨fun _ => trivial, fun _ => rfl⟩
  | broken => exact ⟨nofun, False.elim⟩

theorem Stdout.unrefused_iff {texts : List Text} :
    texts.findSome? stdout.refusal? = none ↔ ∀ text ∈ texts, stdout.takes text = true := by
  simp only [List.findSome?_eq_none_iff, takes, Option.isNone_iff_eq_none]

namespace Run

def PrintableOn (run : Run) (stdout : Stdout) : Prop :=
  ∀ text ∈ run.printed, stdout.takes text = true

theorem on_eq_self (printable : run.PrintableOn stdout) : run.on stdout = run := by
  unfold on
  rw [Stdout.unrefused_iff.mpr printable]

theorem on_of_refused {before after : List Text} {text : Text} {reason : String}
    (split : run.printed = before ++ text :: after)
    (taken : ∀ earlier ∈ before, stdout.takes earlier = true)
    (refused : stdout.refusal? text = some reason) :
    run.on stdout = ⟨before, run.logged, .broken (.unencodable reason)⟩ := by
  have first : run.printed.findSome? stdout.refusal? = some reason := by
    rw [split, List.findSome?_append, Stdout.unrefused_iff.mpr taken, List.findSome?_cons, refused]
    rfl
  have front : run.printed.takeWhile stdout.takes = before := by
    have here : ¬ stdout.takes text = true := by simp [Stdout.takes, refused]
    rw [split, List.takeWhile_append_of_pos taken, List.takeWhile_cons_of_neg here,
      List.append_nil]
  unfold on
  rw [first, front]

theorem on_of_not_printable (unprintable : ¬ run.PrintableOn stdout) :
    ∃ before text after reason, run.printed = before ++ text :: after ∧
      stdout.refusal? text = some reason ∧
      run.on stdout = ⟨before, run.logged, .broken (.unencodable reason)⟩ := by
  have either (text : Text) :
      stdout.takes text = true ∨ ∃ reason, stdout.refusal? text = some reason := by
    unfold Stdout.takes
    cases stdout.refusal? text with
    | none => exact .inl rfl
    | some reason => exact .inr ⟨reason, rfl⟩
  obtain ⟨before, text, after, split, taken, reason, refused⟩ :=
    (forall_or_metFirst either run.printed).resolve_left unprintable
  exact ⟨before, text, after, reason, split, refused, on_of_refused split taken refused⟩

end Run

end Command

/-! What is printed of a Fact is plain if the values in it are shown so. -/

def FactRecord.rowValues (record : FactRecord) : List Json :=
  record.value :: (record.source.toList ++ record.destination.toList).map (·.value)

def FactRecord.shownValues (record : FactRecord) : List Json :=
  record.rowValues ++ record.comments.map (·.text)

theorem Json.isPlain_display_of_isBlank {value : Json} (blank : value.isBlank = true) :
    value.display.IsPlain := by
  cases value with
  | text value =>
    cases value with
    | plain => trivial
    | broken => cases blank
  | _ => trivial

namespace Report

theorem isPlain_object {side : Option Object} :
    (object side).IsPlain ↔ ∀ shown ∈ side, shown.value.display.IsPlain := by
  cases side with
  | none => simp [object]
  | some shown =>
    by_cases blank : shown.value.isBlank = true
    · simp [object, blank, Json.isPlain_display_of_isBlank blank]
    · simp [object, blank]

theorem isPlain_row {record : FactRecord} :
    (row record).IsPlain ↔ ∀ value ∈ record.rowValues, value.display.IsPlain := by
  have value : Text.IsPlain (if record.value.isBlank then "" else record.value.display) ↔
      record.value.display.IsPlain := by
    split
    · rename_i blank
      simp [Json.isPlain_display_of_isBlank blank]
    · rfl
  simp only [row, endpoints, Text.isPlain_append, value, isPlain_object, FactRecord.rowValues]
  simp [or_imp, forall_and]

@[simp] theorem isPlain_listed {heading : String} {items : List Text} :
    (∀ text ∈ listed heading items, text.IsPlain) ↔ ∀ item ∈ items, item.IsPlain := by
  cases items with
  | nil => simp [listed]
  | cons first rest => simp [listed]

theorem isPlain_record {shown : FactRecord} :
    (record shown).IsPlain ↔ ∀ value ∈ shown.shownValues, value.display.IsPlain := by
  have fields : (∀ text ∈ fieldLines shown, text.IsPlain) ↔
      ∀ value ∈ shown.rowValues, value.display.IsPlain := by
    simp [fieldLines, isPlain_object, FactRecord.rowValues, or_imp, forall_and]
  unfold record recordLines FactRecord.shownValues
  rw [Text.isPlain_intercalate (Text.isPlain_plain _)]
  simp only [List.forall_mem_append, fields, isPlain_listed]
  simp

theorem isPlain_auditLines {batch : Batch} :
    (∀ text ∈ auditLines batch, text.IsPlain) ↔
      ∀ record ∈ batch.records, ∀ value ∈ record.rowValues, value.display.IsPlain := by
  have heading : ∀ text ∈ auditHeading, text.IsPlain := by simp [auditHeading]
  have counts (processed converted corrupt failed : Nat) :
      ∀ text ∈ statistics processed converted corrupt failed, text.IsPlain := by
    simp [statistics]
  unfold auditLines
  simp only [List.forall_mem_append, List.forall_mem_map, isPlain_row, isPlain_listed,
    Text.isPlain_append, Text.isPlain_plain, implies_true, and_true]
  exact ⟨fun plain => plain.1.2, fun plain => ⟨⟨heading, plain⟩, counts _ _ _ _⟩⟩

end Report

namespace Dump

variable {dump : Dump}

def values (dump : Dump) : List Json := dump.objects.map (·.value) ++ dump.facts.map (·.value)

theorem mem_objects_of_found {id : Uuid} {object : Object}
    (found : dump.toStores.getObject id = some object) : object ∈ dump.objects := by
  unfold Stores.getObject at found
  rw [toStores_eq, Table.get?_ofList] at found
  exact List.mem_of_mem_filter (List.mem_of_getLast? found)

theorem mem_facts_of_listed {fact : StoredFact} (listed : fact ∈ dump.toStores.facts.entries) :
    fact ∈ dump.facts := by
  rw [toStores_eq, Table.entries_ofList] at listed
  exact mem_of_mem_lastEach listed

theorem rowValues_subset {record : FactRecord} (shown : record ∈ dump.toStores.readStored.records) :
    record.rowValues ⊆ dump.values := by
  obtain ⟨fact, listed, read⟩ := Stores.mem_records_readStored.mp shown
  obtain ⟨endpoints, resolved, rfl⟩ := Stores.read_ok_iff.mp read
  have supplied : endpoints.SuppliedBy dump.toStores.lookup :=
    (resolve_ok_iff.mp resolved).supplied dump.toStores.lookup_faithful
  have atEnd (object : Object)
      (here : endpoints.source? = some object ∨ endpoints.destination? = some object) :
      object.value ∈ dump.values := by
    -- What stands at an end was looked up, so that it is among the Objects of the dump.
    have found : dump.toStores.getObject object.id = some object :=
      Except.ok.inj (supplied object here)
    exact List.mem_append_left _ (List.mem_map_of_mem (mem_objects_of_found found))
  intro value member
  rcases List.mem_cons.mp member with rfl | side
  · exact List.mem_append_right _
      (List.mem_map_of_mem (f := fun fact : StoredFact => fact.value) (mem_facts_of_listed listed))
  · obtain ⟨object, here, rfl⟩ := List.mem_map.mp side
    rw [List.mem_append, Option.mem_toList, Option.mem_toList] at here
    exact atEnd object here

theorem shownValues_subset {record : FactRecord}
    (shown : record ∈ dump.toStores.readStored.records) :
    record.shownValues ⊆ dump.values ++ dump.comments.map (·.text) := by
  apply List.append_subset.mpr
  refine ⟨List.subset_append_of_subset_left _ (rowValues_subset shown), ?_⟩
  obtain ⟨fact, listed, read⟩ := Stores.mem_records_readStored.mp shown
  obtain ⟨endpoints, resolved, rfl⟩ := Stores.read_ok_iff.mp read
  have comments : dump.toStores.comments = dump.comments := by rw [toStores_eq]
  intro value member
  obtain ⟨comment, attached, rfl⟩ := List.mem_map.mp member
  obtain ⟨stored, kept, rfl⟩ := List.mem_map.mp attached
  have known : stored ∈ dump.comments := by
    rw [← comments]
    exact List.mem_of_mem_filter kept
  exact List.mem_append_right _ (List.mem_map_of_mem (f := fun stored => stored.text) known)

end Dump

namespace Command

variable {stores : Stores}

theorem audit_printableOn_utf8 :
    (audit stores).PrintableOn .utf8 ↔
      ∀ record ∈ stores.readStored.records, ∀ value ∈ record.rowValues, value.display.IsPlain := by
  change (∀ text ∈ Report.auditLines stores.readStored, Stdout.utf8.takes text = true) ↔ _
  simp only [Stdout.takes_utf8, Report.isPlain_auditLines]

theorem showFact_printableOn_utf8 {factId : Text} :
    (showFact stores factId).PrintableOn .utf8 ↔
      factId.IsPlain ∧ ∀ record ∈ stores.readStored.records, Uuid.ofText? factId = some record.id →
        ∀ value ∈ record.shownValues, value.display.IsPlain := by
  unfold showFact Run.PrintableOn
  cases spelt : Uuid.ofText? factId with
  | none => simp
  | some id =>
    have plain : factId.IsPlain := by
      obtain ⟨s, characters, -⟩ := Option.bind_eq_some_iff.mp spelt
      exact Text.isPlain_of_string? characters
    have owned : (∀ record ∈ stores.readStored.records, some id = some record.id →
          ∀ value ∈ record.shownValues, value.display.IsPlain) ↔
        ∀ record ∈ ((stores.getFact id).bind stores.record?).toList,
          ∀ value ∈ record.shownValues, value.display.IsPlain := by
      rw [← stores.filter_records_readStored]
      simp [List.mem_filter, eq_comm]
    rw [owned]
    cases found : stores.getFact id with
    | none => simp [plain, found]
    | some fact =>
      cases outcome : (stores.read fact).outcome with
      | error missing => simp [plain, found, outcome, Stores.record?, Except.toOption]
      | ok record =>
        simp [plain, found, outcome, Stores.record?, Except.toOption, Report.isPlain_record]

section Dump

variable {dump : Dump}

theorem audit_printable_of_plain (plain : ∀ value ∈ dump.values, value.display.IsPlain) :
    (audit dump.toStores).PrintableOn .utf8 := by
  apply audit_printableOn_utf8.mpr
  intro record shown value member
  exact plain value (Dump.rowValues_subset shown member)

theorem showFact_printable_of_plain
    (plain : ∀ value ∈ dump.values ++ dump.comments.map (·.text), value.display.IsPlain)
    {factId : Text} (named : factId.IsPlain) :
    (showFact dump.toStores factId).PrintableOn .utf8 := by
  apply showFact_printableOn_utf8.mpr
  refine ⟨named, fun record shown _ value member => ?_⟩
  exact plain value (Dump.shownValues_subset shown member)

end Dump

end Command

end FactGraph
