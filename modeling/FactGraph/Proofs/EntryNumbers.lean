import FactGraph.Proofs.DumpContents
import FactGraph.Proofs.FloatRange

namespace FactGraph

namespace Json

/-- The values that have no counterpart among the numbers of a kind. -/
inductive Overflows : Dump.NumberKind → Json → Overflow → Prop
  | infinite {negative : Bool} :
    Overflows .integer (.float (.infinite negative)) .infiniteToInteger
  | tooLarge {n : Int} (beyond : Binary64.overflowBound ≤ n.natAbs) :
    Overflows .float (.int n) .integerToFloat

def IsNumber (value : Json) : Dump.NumberKind → Prop
  | .integer => ∃ n, value.toInteger = .ok n
  | .float => ∃ x, value.toFloat = .ok x

variable {value : Json} {cause : Overflow}

theorem toInteger_overflow_iff :
    value.toInteger = .error (.overflow cause) ↔ value.Overflows .integer cause := by
  constructor
  · intro failed
    cases value with
    | float x =>
      cases x with
      | infinite negative =>
        cases failed
        exact .infinite
      | nan => cases failed
      | finite negative magnitude => cases failed
    | text spelling =>
      unfold toInteger at failed
      cases read : spelling.string?.bind (Numeral.integer? ·.toList) <;> simp [read] at failed
    | _ => cases failed
  · rintro ⟨⟩
    rfl

theorem toFloat_overflow_iff :
    value.toFloat = .error (.overflow cause) ↔ value.Overflows .float cause := by
  constructor
  · intro failed
    cases value with
    | int n =>
      unfold toFloat at failed
      cases kept : Binary64.ofInt? n with
      | some number => simp [kept] at failed
      | none =>
        simp only [kept] at failed
        cases failed
        exact .tooLarge (Binary64.ofInt?_eq_none_iff.mp kept)
    | text spelling =>
      unfold toFloat at failed
      cases read : spelling.string?.bind (Numeral.float? ·.toList) <;> simp [read] at failed
    | _ => cases failed
  · intro overflows
    cases overflows with
    | tooLarge beyond => simp [toFloat, Binary64.ofInt?_eq_none_iff.mpr beyond]

end Json

namespace Dump

structure NumberKey where
  key : String
  kind : NumberKind

namespace NumberKey

def Sound (number : NumberKey) (entry : Members) : Prop :=
  ∀ value, Json.get? entry number.key = some value → value.IsNumber number.kind

def Overflows (number : NumberKey) (entry : Members) (cause : Overflow) : Prop :=
  ∃ value, Json.get? entry number.key = some value ∧ value.Overflows number.kind cause

end NumberKey

def factNumbers : List NumberKey :=
  [ ⟨"confidence", .float⟩, ⟨"trust", .float⟩, ⟨"timestamp", .integer⟩,
    ⟨"last_seen_timestamp", .integer⟩ ]

def attachmentNumbers : List NumberKey := [⟨"timestamp", .integer⟩]

section Numbers

variable {key : String} {place : Place} {entry : Members} {cause : Overflow}

section NumberAt

variable {α : Type} {kind : NumberKind} {value : Json} {read : Except NumberFault α}

theorem numberAt_ok_iff {number : α} :
    numberAt kind place value read = .ok number ↔ read = .ok number := by
  cases read with
  | ok number => simp [numberAt]
  | error fault => cases fault <;> simp [numberAt, refuse]

theorem numberAt_overflow_iff :
    numberAt kind place value read = .error (.overflow cause) ↔
      read = .error (.overflow cause) := by
  cases read with
  | ok number => simp [numberAt]
  | error fault => cases fault <;> simp [numberAt, refuse]

end NumberAt

theorem integer_accepts_iff :
    (∃ n, integer key place entry = .ok n) ↔ (NumberKey.mk key .integer).Sound entry := by
  simp only [integer, numberAt_ok_iff, NumberKey.Sound, Json.IsNumber]
  cases Json.get? entry key with
  | none => simp [Json.toInteger]
  | some value => simp

theorem integer_overflow_iff :
    integer key place entry = .error (.overflow cause) ↔
      (NumberKey.mk key .integer).Overflows entry cause := by
  simp only [integer, numberAt_overflow_iff, NumberKey.Overflows, ← Json.toInteger_overflow_iff]
  cases Json.get? entry key with
  | none => simp [Json.toInteger]
  | some value => simp

theorem float_accepts_iff :
    (∃ x, float key place entry = .ok x) ↔ (NumberKey.mk key .float).Sound entry := by
  simp only [float, numberAt_ok_iff, NumberKey.Sound, Json.IsNumber]
  cases Json.get? entry key with
  | none => simp [Json.toFloat]
  | some value => simp

theorem float_overflow_iff :
    float key place entry = .error (.overflow cause) ↔
      (NumberKey.mk key .float).Overflows entry cause := by
  simp only [float, numberAt_overflow_iff, NumberKey.Overflows, ← Json.toFloat_overflow_iff]
  cases Json.get? entry key with
  | none => simp [Json.toFloat]
  | some value => simp

end Numbers

def without (keys : List String) (members : Members) : Members :=
  members.filter (·.1 ∉ keys.map Text.plain)

theorem get?_without {keys : List String} {members : Members} {key : String} :
    Json.get? (without keys members) key = if key ∈ keys then none else Json.get? members key := by
  have named : Text.plain key ∈ keys.map Text.plain ↔ key ∈ keys := by simp
  unfold without Json.get?
  rw [List.find?_filter]
  by_cases left : key ∈ keys
  · rw [if_pos left, Option.map_eq_none_iff, List.find?_eq_none]
    intro member _
    simp only [decide_eq_true_eq, not_and]
    intro kept same
    rw [same, named] at kept
    exact kept left
  · rw [if_neg left]
    congr 2
    funext member
    by_cases same : member.1 = key
    · simp [same, left]
    · simp [same]

section FormatOnly

variable {key : String} {place : Place} {entry : Members} {value : Json} {cause : Overflow}

theorem readId_ne_overflow : readId place value ≠ .error (.overflow cause) := by
  unfold readId refuse
  cases Uuid.ofText? value.display <;> simp

theorem required_ne_overflow : required key place entry ≠ .error (.overflow cause) := by
  unfold required refuse
  cases Json.get? entry key <;> simp

theorem requiredId_ne_overflow : requiredId key place entry ≠ .error (.overflow cause) := by
  simp [requiredId, bind_error_iff, required_ne_overflow, readId_ne_overflow]

theorem optionalId_ne_overflow : optionalId key place entry ≠ .error (.overflow cause) := by
  have mapped (value : Json) : (readId place value).map some ≠ .error (.overflow cause) := by
    have read : readId place value ≠ .error (.overflow cause) := readId_ne_overflow
    cases outcome : readId place value <;> simp_all [Except.map]
  unfold optionalId
  cases optional key entry with
  | null => simp
  | _ => exact mapped _

theorem readDirection_ne_overflow : readDirection place value ≠ .error (.overflow cause) := by
  unfold readDirection refuse
  cases value with
  | text name => cases known : name.string?.bind Direction.ofWireName? <;> simp [known]
  | _ => simp

theorem readAccessMode_ne_overflow : readAccessMode place value ≠ .error (.overflow cause) := by
  unfold readAccessMode refuse
  cases value with
  | text name => cases known : name.string?.bind AccessMode.ofWireName? <;> simp [known]
  | _ => simp

theorem readBinding_ne_overflow : readBinding place entry ≠ .error (.overflow cause) := by
  simp [readBinding, bind_error_iff, required_ne_overflow, readDirection_ne_overflow,
    requiredId_ne_overflow, pure, Except.pure]

theorem asList_ne_overflow : asList key place value ≠ .error (.overflow cause) := by
  cases value <;> simp [asList, refuse]

theorem asEntries_ne_overflow {items : List Json} :
    asEntries key place items ≠ .error (.overflow cause) := by
  unfold asEntries refuse
  cases items.mapM asMembers? <;> simp

theorem entriesAt_ne_overflow : entriesAt key place entry ≠ .error (.overflow cause) := by
  simp [entriesAt, listAt, bind_error_iff, asList_ne_overflow, asEntries_ne_overflow]

theorem mapM_ne_overflow {α β : Type} {read : α → Except LoadFault β} {items : List α}
    (each : ∀ item, read item ≠ .error (.overflow cause)) :
    items.mapM read ≠ .error (.overflow cause) := by
  intro failed
  obtain ⟨_, item, _, _, _, here⟩ := mapM_error_iff.mp failed
  exact each item here

end FormatOnly

def readUnnumbered (entry : Members) : Except LoadFault StoredFact := do
  let id ← requiredId "id" .unnamedFact entry
  let place := Place.fact id
  let accessMode ← readAccessMode place (optional "access_mode" entry)
  let typeId ← optionalId "type_id" place entry
  let inReferenceToId ← optionalId "in_reference_to_id" place entry
  let organizationId ← optionalId "organization_id" place entry
  let originId ← optionalId "origin_id" place entry
  let addedById ← optionalId "added_by_id" place entry
  pure
    { id, typeId, inReferenceToId, organizationId, originId, addedById, accessMode
      value := optional "value" entry }

theorem readFact_eq (entry : Members) :
    readFact entry = (do
      let fact ← readUnnumbered entry
      let place := Place.fact fact.id
      let confidence ← float "confidence" place entry
      let trust ← float "trust" place entry
      let timestamp ← integer "timestamp" place entry
      let lastSeenTimestamp ← integer "last_seen_timestamp" place entry
      let bindings ← (← entriesAt "bindings" place entry).mapM (readBinding (.binding fact.id))
      pure
        { fact with
          confidence := some confidence
          trust := some trust
          timestamp, lastSeenTimestamp, bindings }) := by
  unfold readFact readUnnumbered
  simp only [bind_assoc, pure_bind]

section Entries

variable {entry : Members} {cause : Overflow}

theorem readUnnumbered_ne_overflow : readUnnumbered entry ≠ .error (.overflow cause) := by
  simp [readUnnumbered, bind_error_iff, requiredId_ne_overflow, readAccessMode_ne_overflow,
    optionalId_ne_overflow, pure, Except.pure]

theorem readFact_overflow_iff :
    readFact entry = .error (.overflow cause) ↔
      (∃ fact, readUnnumbered entry = .ok fact) ∧
        MetFirst (·.Sound entry) (·.Overflows entry cause) factNumbers := by
  rw [readFact_eq]
  simp [bind_error_iff, readUnnumbered_ne_overflow, float_overflow_iff, integer_overflow_iff,
    entriesAt_ne_overflow, mapM_ne_overflow fun _ => readBinding_ne_overflow,
    factNumbers, pure, Except.pure, float_accepts_iff, integer_accepts_iff]

theorem readFact_accepts_iff (unbound : Json.get? entry "bindings" = none) :
    (∃ fact, readFact entry = .ok fact) ↔
      (∃ fact, readUnnumbered entry = .ok fact) ∧ ∀ number ∈ factNumbers, number.Sound entry := by
  have bindings (place : Place) : entriesAt "bindings" place entry = .ok [] := by
    simp [entriesAt, listAt, unbound, asList, asEntries, bind, Except.bind]
  rw [readFact_eq]
  simp [bind_ok_iff, bindings, factNumbers, pure, Except.pure, float_accepts_iff,
    integer_accepts_iff]

end Entries

/-- An entry cut off before some of its numbers. The bindings of a Fact come after its numbers. -/
def cutEntry (rest : List NumberKey) (entry : Members) : Members :=
  without ("bindings" :: rest.map (·.key)) entry

/-- Whether a reader comes to a number that overflows: it accepts the entry up to that number. -/
def OverflowsFirst {α : Type} (read : Members → Except LoadFault α) (numbers : List NumberKey)
    (entry : Members) (cause : Overflow) : Prop :=
  ∃ earlier number later, numbers = earlier ++ number :: later ∧ number.Overflows entry cause ∧
    ∃ result, read (cutEntry (number :: later) entry) = .ok result

/-- A reader that reads numbers in order after what else it requires. -/
structure ReadsNumbers {α : Type} (read : Members → Except LoadFault α) (numbers : List NumberKey)
    (Head : Members → Prop) : Prop where
  overflow_iff {entry : Members} {cause : Overflow} :
    read entry = .error (.overflow cause) ↔
      Head entry ∧ MetFirst (·.Sound entry) (·.Overflows entry cause) numbers
  accepts_iff {entry : Members} (unbound : Json.get? entry "bindings" = none) :
    (∃ result, read entry = .ok result) ↔ Head entry ∧ ∀ number ∈ numbers, number.Sound entry
  head_cut {entry : Members} {rest : List NumberKey} (sub : rest ⊆ numbers) :
    Head (cutEntry rest entry) ↔ Head entry
  distinct : ("bindings" :: numbers.map (·.key)).Nodup

section Cut

variable {entry : Members} {rest : List NumberKey} {number : NumberKey}

theorem sound_cutEntry_of_mem (member : number ∈ rest) : number.Sound (cutEntry rest entry) := by
  intro value found
  have cut : number.key ∈ "bindings" :: rest.map (·.key) :=
    List.mem_cons_of_mem _ (List.mem_map_of_mem member)
  rw [cutEntry, get?_without, if_pos cut] at found
  cases found

theorem sound_cutEntry_of_not_mem (kept : number.key ∉ "bindings" :: rest.map (·.key)) :
    number.Sound (cutEntry rest entry) ↔ number.Sound entry := by
  unfold NumberKey.Sound
  rw [cutEntry, get?_without, if_neg kept]

end Cut

namespace ReadsNumbers

variable {α : Type} {read : Members → Except LoadFault α} {numbers : List NumberKey}
  {Head : Members → Prop} (reads : ReadsNumbers read numbers Head) {entry : Members}

include reads

theorem accepts_cut_iff {earlier later : List NumberKey} {number : NumberKey}
    (split : numbers = earlier ++ number :: later) :
    (∃ result, read (cutEntry (number :: later) entry) = .ok result) ↔
      Head entry ∧ ∀ before ∈ earlier, before.Sound entry := by
  have unbound : Json.get? (cutEntry (number :: later) entry) "bindings" = none := by
    simp [cutEntry, get?_without]
  have sub : number :: later ⊆ numbers := by simp [split]
  have cut : ∀ after ∈ number :: later, after.Sound (cutEntry (number :: later) entry) :=
    fun _ => sound_cutEntry_of_mem
  -- The keys differ, so that cutting off a number takes no earlier one with it.
  have distinct := reads.distinct
  rw [split, List.map_append, List.nodup_cons, List.nodup_append] at distinct
  obtain ⟨unlisted, -, -, disjoint⟩ := distinct
  have kept : ∀ before ∈ earlier, before.key ∉ "bindings" :: (number :: later).map (·.key) := by
    intro before member
    have named : before.key ∈ earlier.map (·.key) := List.mem_map_of_mem member
    rw [List.mem_cons, not_or]
    refine ⟨fun same => unlisted ?_, fun after => disjoint _ named _ after rfl⟩
    exact same ▸ List.mem_append_left _ named
  rw [reads.accepts_iff unbound, reads.head_cut sub, split, List.forall_mem_append,
    and_iff_left cut]
  refine and_congr_right fun _ => ?_
  exact forall₂_congr fun before member => sound_cutEntry_of_not_mem (kept before member)

theorem overflowsFirst_iff {cause : Overflow} :
    read entry = .error (.overflow cause) ↔ OverflowsFirst read numbers entry cause := by
  rw [reads.overflow_iff]
  constructor
  · rintro ⟨head, earlier, number, later, split, sound, overflows⟩
    have accepted := (reads.accepts_cut_iff split).mpr ⟨head, sound⟩
    exact ⟨earlier, number, later, split, overflows, accepted⟩
  · rintro ⟨earlier, number, later, split, overflows, accepted⟩
    obtain ⟨head, sound⟩ := (reads.accepts_cut_iff split).mp accepted
    exact ⟨head, earlier, number, later, split, sound, overflows⟩

end ReadsNumbers

theorem get?_cutEntry {numbers rest : List NumberKey} (sub : rest ⊆ numbers) {entry : Members}
    {key : String} (kept : key ∉ "bindings" :: numbers.map (·.key)) :
    Json.get? (cutEntry rest entry) key = Json.get? entry key := by
  rw [cutEntry, get?_without, if_neg]
  exact fun cut => kept (List.cons_subset_cons _ (List.map_subset _ sub) cut)

theorem readFact_readsNumbers :
    ReadsNumbers readFact factNumbers fun entry => ∃ fact, readUnnumbered entry = .ok fact where
  overflow_iff := readFact_overflow_iff
  accepts_iff := readFact_accepts_iff
  head_cut sub := by
    simp (disch := decide) only [readUnnumbered, requiredId, required, optionalId, optional,
      get?_cutEntry sub]
  distinct := by decide

theorem readAclEntry_readsNumbers :
    ReadsNumbers readAclEntry attachmentNumbers fun entry =>
      (∃ id, requiredId "id" .aclEntry entry = .ok id) ∧
        (∃ id, requiredId "fact_id" .aclEntry entry = .ok id) ∧
        (∃ id, requiredId "subject_id" .aclEntry entry = .ok id) ∧
        ∃ id, optionalId "origin_id" .aclEntry entry = .ok id where
  overflow_iff := by
    simp [readAclEntry, bind_error_iff, requiredId_ne_overflow, optionalId_ne_overflow,
      integer_overflow_iff, attachmentNumbers, pure, Except.pure, and_assoc]
  accepts_iff unbound := by
    simp [readAclEntry, bind_ok_iff, integer_accepts_iff, attachmentNumbers, pure, Except.pure,
      and_assoc]
  head_cut sub := by
    simp (disch := decide) only [requiredId, required, optionalId, optional, get?_cutEntry sub]
  distinct := by decide

theorem readComment_readsNumbers :
    ReadsNumbers readComment attachmentNumbers fun entry =>
      (∃ id, requiredId "id" .comment entry = .ok id) ∧
        (∃ id, requiredId "fact_id" .comment entry = .ok id) ∧
        (∃ text, required "comment" .comment entry = .ok text) ∧
        (∃ id, optionalId "reply_to_id" .comment entry = .ok id) ∧
        ∃ id, optionalId "origin_id" .comment entry = .ok id where
  overflow_iff := by
    simp [readComment, bind_error_iff, requiredId_ne_overflow, required_ne_overflow,
      optionalId_ne_overflow, integer_overflow_iff, attachmentNumbers, pure, Except.pure, and_assoc]
  accepts_iff unbound := by
    simp [readComment, bind_ok_iff, integer_accepts_iff, attachmentNumbers, pure, Except.pure,
      and_assoc]
  head_cut sub := by
    simp (disch := decide) only [requiredId, required, optionalId, optional, get?_cutEntry sub]
  distinct := by decide

end Dump

end FactGraph
