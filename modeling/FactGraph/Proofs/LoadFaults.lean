import FactGraph.Command.Run
import FactGraph.Proofs.EntryNumbers

namespace FactGraph

namespace Dump

structure NumberedSection where
  key : String
  numbers : List NumberKey
  later : List String

def factSection : NumberedSection := ⟨"facts", factNumbers, ["acl", "comments", "retracted"]⟩

def aclSection : NumberedSection := ⟨"acl", attachmentNumbers, ["comments", "retracted"]⟩

def commentSection : NumberedSection := ⟨"comments", attachmentNumbers, ["retracted"]⟩

namespace NumberedSection

def cut (part : NumberedSection) (members : Members) (before : List Members) (entry : Members)
    (rest : List NumberKey) : Members :=
  (part.key, .list ((before ++ [cutEntry rest entry]).map .object)) ::
    without (part.key :: part.later) members

def OverflowsFirst (part : NumberedSection) (members : Members) (cause : Overflow) : Prop :=
  ∃ before entry after earlier number later,
    Json.get? members part.key = some (.list ((before ++ entry :: after).map .object)) ∧
    part.numbers = earlier ++ number :: later ∧
    number.Overflows entry cause ∧
    ∃ dump, ofMembers (part.cut members before entry (number :: later)) = .ok dump

end NumberedSection

section Sections

variable {α : Type} {key : String} {read : Members → Except LoadFault α} {members : Members}
  {cause : Overflow}

def readSection (key : String) (read : Members → Except LoadFault α) (members : Members) :
    Except LoadFault (List α) := do
  (← entriesAt key .dump members).mapM read

def Accepts (key : String) (read : Members → Except LoadFault α) (members : Members) : Prop :=
  ∃ results, readSection key read members = .ok results

theorem readSection_overflow_iff :
    readSection key read members = .error (.overflow cause) ↔
      ∃ before entry after,
        Json.get? members key = some (.list ((before ++ entry :: after).map .object)) ∧
        (∀ earlier ∈ before, ∃ result, read earlier = .ok result) ∧
        read entry = .error (.overflow cause) := by
  unfold readSection
  rw [bind_error_iff]
  simp only [entriesAt_ne_overflow, false_or, entriesAt_ok_iff, mapM_error_iff]
  constructor
  · rintro ⟨_, listed, before, entry, after, rfl, earlier, here⟩
    refine ⟨before, entry, after, ?_, earlier, here⟩
    cases found : Json.get? members key with
    | none => simp [found] at listed
    | some value => simpa [found] using listed
  · rintro ⟨before, entry, after, listed, earlier, here⟩
    exact ⟨_, by rw [listed, Option.getD_some], before, entry, after, rfl, earlier, here⟩

theorem accepts_iff {entries : List Members}
    (listed : Json.get? members key = some (.list (entries.map .object))) :
    Accepts key read members ↔ ∀ entry ∈ entries, ∃ result, read entry = .ok result := by
  have shaped : entriesAt key .dump members = .ok entries := by
    rw [entriesAt_ok_iff, listed, Option.getD_some]
  rw [← mapM_accepts_iff]
  simp [Accepts, readSection, shaped, bind, Except.bind]

end Sections

theorem ofMembers_eq (members : Members) :
    ofMembers members = (do
      let objects ← readSection "objects" readObject members
      let _ ← required "facts" .dump members
      let facts ← readSection "facts" readFact members
      let acl ← readSection "acl" readAclEntry members
      let comments ← readSection "comments" readComment members
      let retracted ← (← listAt "retracted" .dump members).mapM (readId .retracted)
      pure { objects, facts, acl, comments, retracted }) := by
  simp only [ofMembers, readSection, entriesAt, bind_assoc]
  congr 1
  funext objects
  congr 1
  funext read
  unfold required listAt
  cases Json.get? members "facts" <;> rfl

theorem ofMembers_accepts_iff {members : Members} :
    (∃ dump, ofMembers members = .ok dump) ↔
      Accepts "objects" readObject members ∧ (∃ value, Json.get? members "facts" = some value) ∧
        Accepts "facts" readFact members ∧ Accepts "acl" readAclEntry members ∧
        Accepts "comments" readComment members ∧
        ∃ items, listAt "retracted" .dump members = .ok items ∧
          ∃ ids, items.mapM (readId .retracted) = .ok ids := by
  rw [ofMembers_eq]
  simp [bind_ok_iff, Accepts, pure, Except.pure, required_ok_iff]

theorem readObject_ne_overflow {entry : Members} {cause : Overflow} :
    readObject entry ≠ .error (.overflow cause) := by
  simp [readObject, bind_error_iff, requiredId_ne_overflow, optionalId_ne_overflow, pure,
    Except.pure]

theorem ofMembers_overflow_iff {members : Members} {cause : Overflow} :
    ofMembers members = .error (.overflow cause) ↔
      Accepts "objects" readObject members ∧ (∃ value, Json.get? members "facts" = some value) ∧
        (readSection "facts" readFact members = .error (.overflow cause) ∨
          Accepts "facts" readFact members ∧
            (readSection "acl" readAclEntry members = .error (.overflow cause) ∨
              Accepts "acl" readAclEntry members ∧
                readSection "comments" readComment members = .error (.overflow cause))) := by
  have objects : readSection "objects" readObject members ≠ .error (.overflow cause) := by
    simp [readSection, bind_error_iff, entriesAt_ne_overflow,
      mapM_ne_overflow fun _ => readObject_ne_overflow]
  rw [ofMembers_eq]
  simp [bind_error_iff, objects, required_ne_overflow, listAt, asList_ne_overflow, required_ok_iff,
    mapM_ne_overflow fun _ => readId_ne_overflow, pure, Except.pure, Accepts]

section Breaking

variable {members : Members} {cause : Overflow}

section Cut

variable {part : NumberedSection} {before : List Members} {entry : Members}
  {rest : List NumberKey} {key : String}

theorem get?_cut_self :
    Json.get? (part.cut members before entry rest) part.key =
      some (.list ((before ++ [cutEntry rest entry]).map .object)) := by
  simp [NumberedSection.cut, Json.get?]

theorem get?_cut_of_ne (other : key ≠ part.key) :
    Json.get? (part.cut members before entry rest) key =
      if key ∈ part.later then none else Json.get? members key := by
  have beyond : Json.get? (part.cut members before entry rest) key =
      Json.get? (without (part.key :: part.later) members) key := by
    simp [NumberedSection.cut, Json.get?, other.symm]
  rw [beyond, get?_without]
  simp [other]

theorem get?_cut_of_later (other : key ≠ part.key) (later : key ∈ part.later) :
    Json.get? (part.cut members before entry rest) key = none := by
  rw [get?_cut_of_ne other, if_pos later]

theorem get?_cut_of_earlier (other : key ≠ part.key) (earlier : key ∉ part.later) :
    Json.get? (part.cut members before entry rest) key = Json.get? members key := by
  rw [get?_cut_of_ne other, if_neg earlier]

theorem accepts_cut_self {α : Type} {read : Members → Except LoadFault α} :
    Accepts part.key read (part.cut members before entry rest) ↔
      (∀ earlier ∈ before, ∃ result, read earlier = .ok result) ∧
        ∃ result, read (cutEntry rest entry) = .ok result := by
  rw [accepts_iff get?_cut_self, List.forall_mem_append, List.forall_mem_singleton]

theorem accepts_cut_of_later {α : Type} {read : Members → Except LoadFault α}
    (other : key ≠ part.key) (later : key ∈ part.later) :
    Accepts key read (part.cut members before entry rest) := by
  have missing := @get?_cut_of_later members part before entry rest key other later
  exact ⟨[], by simp [readSection, entriesAt, listAt, missing, asList, asEntries, bind, Except.bind,
    pure, Except.pure]⟩

theorem accepts_cut_of_earlier {α : Type} {read : Members → Except LoadFault α}
    (other : key ≠ part.key) (earlier : key ∉ part.later) :
    Accepts key read (part.cut members before entry rest) ↔ Accepts key read members := by
  unfold Accepts readSection entriesAt listAt
  rw [get?_cut_of_earlier other earlier]

end Cut

theorem NumberedSection.overflowsFirst_iff {α : Type} {part : NumberedSection}
    {read : Members → Except LoadFault α} {Head : Members → Prop}
    (reads : ReadsNumbers read part.numbers Head) {Earlier : Prop}
    (loads : ∀ before entry rest,
      (∃ dump, ofMembers (part.cut members before entry rest) = .ok dump) ↔
        Earlier ∧ Accepts part.key read (part.cut members before entry rest)) :
    part.OverflowsFirst members cause ↔
      Earlier ∧ readSection part.key read members = .error (.overflow cause) := by
  simp only [OverflowsFirst, readSection_overflow_iff, reads.overflowsFirst_iff,
    Dump.OverflowsFirst, loads, accepts_cut_self]
  constructor
  · rintro ⟨before, entry, after, earlier, number, later, listed, split, overflows, start, passed,
      read⟩
    exact ⟨start, before, entry, after, listed, passed, earlier, number, later, split, overflows,
      read⟩
  · rintro ⟨start, before, entry, after, listed, passed, earlier, number, later, split, overflows,
      read⟩
    exact ⟨before, entry, after, earlier, number, later, listed, split, overflows, start, passed,
      read⟩

theorem ofMembers_accepts_iff_of_unretracted (missing : Json.get? members "retracted" = none) :
    (∃ dump, ofMembers members = .ok dump) ↔
      Accepts "objects" readObject members ∧ (∃ value, Json.get? members "facts" = some value) ∧
        Accepts "facts" readFact members ∧ Accepts "acl" readAclEntry members ∧
        Accepts "comments" readComment members := by
  have none_listed : listAt "retracted" .dump members = .ok [] := by
    simp [listAt, missing, asList]
  rw [ofMembers_accepts_iff]
  simp [none_listed, pure, Except.pure]

theorem factSection_overflowsFirst_iff :
    factSection.OverflowsFirst members cause ↔
      Accepts "objects" readObject members ∧
        readSection "facts" readFact members = .error (.overflow cause) := by
  refine NumberedSection.overflowsFirst_iff readFact_readsNumbers fun before entry rest => ?_
  have present : Json.get? (factSection.cut members before entry rest) "facts" = some _ :=
    get?_cut_self
  rw [ofMembers_accepts_iff_of_unretracted (get?_cut_of_later (by decide) (by decide))]
  change _ ↔ _ ∧ Accepts "facts" readFact _
  simp (disch := decide) [present, accepts_cut_of_later, accepts_cut_of_earlier]

theorem aclSection_overflowsFirst_iff :
    aclSection.OverflowsFirst members cause ↔
      (Accepts "objects" readObject members ∧ (∃ value, Json.get? members "facts" = some value) ∧
        Accepts "facts" readFact members) ∧
        readSection "acl" readAclEntry members = .error (.overflow cause) := by
  refine NumberedSection.overflowsFirst_iff readAclEntry_readsNumbers fun before entry rest => ?_
  rw [ofMembers_accepts_iff_of_unretracted (get?_cut_of_later (by decide) (by decide))]
  change _ ↔ _ ∧ Accepts "acl" readAclEntry _
  simp (disch := decide) [get?_cut_of_earlier, accepts_cut_of_later, accepts_cut_of_earlier,
    and_assoc]

theorem commentSection_overflowsFirst_iff :
    commentSection.OverflowsFirst members cause ↔
      (Accepts "objects" readObject members ∧ (∃ value, Json.get? members "facts" = some value) ∧
        Accepts "facts" readFact members ∧ Accepts "acl" readAclEntry members) ∧
        readSection "comments" readComment members = .error (.overflow cause) := by
  refine NumberedSection.overflowsFirst_iff readComment_readsNumbers fun before entry rest => ?_
  rw [ofMembers_accepts_iff_of_unretracted (get?_cut_of_later (by decide) (by decide))]
  change _ ↔ _ ∧ Accepts "comments" readComment _
  simp (disch := decide) [get?_cut_of_earlier, accepts_cut_of_earlier, and_assoc]

theorem ofMembers_breaks_off_iff :
    ofMembers members = .error (.overflow cause) ↔
      ∃ part ∈ [factSection, aclSection, commentSection], part.OverflowsFirst members cause := by
  have present : readSection "facts" readFact members = .error (.overflow cause) →
      ∃ value, Json.get? members "facts" = some value := by
    rw [readSection_overflow_iff]
    rintro ⟨before, entry, after, listed, _⟩
    exact ⟨_, listed⟩
  simp only [ofMembers_overflow_iff, List.exists_mem_cons_iff, List.not_mem_nil, false_and,
    exists_false, or_false, factSection_overflowsFirst_iff, aclSection_overflowsFirst_iff,
    commentSection_overflowsFirst_iff]
  tauto

end Breaking

/-- Whether bytes spell a dump that loads up to a number, which overflows. -/
def Overruns (bytes : List UInt8) (cause : Overflow) : Prop :=
  ∃ text members,
    Text.decodeUtf8 bytes = .ok text ∧
    Json.read (unifyLines text) = .ok (.object members) ∧
    ∃ part ∈ [factSection, aclSection, commentSection], part.OverflowsFirst members cause

theorem ofJson_overflow_iff {value : Json} {cause : Overflow} :
    ofJson value = .error (.overflow cause) ↔
      ∃ members, value = .object members ∧
        ∃ part ∈ [factSection, aclSection, commentSection], part.OverflowsFirst members cause := by
  cases value with
  | object members =>
    simp only [ofJson, ofMembers_breaks_off_iff, Json.object.injEq, exists_eq_left']
  | _ => simp [ofJson, refuse]

theorem ofBytes_overflow_iff {bytes : List UInt8} {cause : Overflow} :
    ofBytes bytes = .error (.overflow cause) ↔ Overruns bytes cause := by
  unfold ofBytes Overruns
  cases decoded : Text.decodeUtf8 bytes with
  | error fault => simp [Except.mapError, bind, Except.bind]
  | ok text =>
    cases parsed : Json.read (unifyLines text) with
    | error fault => simp [Except.mapError, bind, Except.bind, parsed]
    | ok value =>
      simp [Except.mapError, bind, Except.bind, parsed, ofJson_overflow_iff]

end Dump

end FactGraph
