import FactGraph.Proofs.Sections

namespace FactGraph

theorem metFirst_map {α β : Type} {passed met : β → Prop} {f : α → β} {items : List α} :
    MetFirst passed met (items.map f) ↔ MetFirst (passed <| f ·) (met <| f ·) items := by
  induction items with
  | nil => simp
  | cons item items ih => rw [List.map_cons, metFirst_cons, metFirst_cons, ih]

namespace Dump

def faultOf {α : Type} (reading : Except LoadFault α) : Except LoadFault Unit :=
  reading.map fun _ => ()

section FaultOf

variable {α : Type} {reading : Except LoadFault α}

theorem faultOf_error_iff {fault : LoadFault} :
    faultOf reading = .error fault ↔ reading = .error fault := by
  cases reading <;> simp [faultOf, Except.map]

theorem faultOf_ok_iff : faultOf reading = .ok () ↔ ∃ result, reading = .ok result := by
  cases reading <;> simp [faultOf, Except.map]

end FaultOf

namespace Section

def check (part : Section) (value : Json) : Except LoadFault Unit :=
  match part, value with
  | objects, .object entry => faultOf (readObject entry)
  | facts, .object entry => faultOf (readFact entry)
  | acl, .object entry => faultOf (readAclEntry entry)
  | comments, .object entry => faultOf (readComment entry)
  | retracted, value => faultOf (readId .retracted value)
  | part, _ => refuse (.entriesNotObjects part.key .dump)

def Shaped (part : Section) (items : List Json) : Prop :=
  part ≠ retracted → ∀ item ∈ items, ∃ entry, item = .object entry

structure Loads (part : Section) (members : Members) : Prop where
  present : part = facts → ∃ value, Json.get? members part.key = some value
  accepted : ∃ items, listAt part.key .dump members = .ok items ∧ part.Shaped items ∧
    ∀ item ∈ items, part.check item = .ok ()

/-- The ways in which a section is refused, each after the ones before it. -/
inductive Fails (part : Section) (members : Members) : LoadFault → Prop
  | missing (required : part = facts) (absent : Json.get? members part.key = none) :
    Fails part members (.format (.missingKey part.key .dump))
  | notList {value : Json} (present : Json.get? members part.key = some value)
    (other : ∀ items, value ≠ .list items) :
    Fails part members (.format (.notList part.key .dump))
  | notObjects {items : List Json} (listed : Json.get? members part.key = some (.list items))
    (misshapen : ¬ part.Shaped items) :
    Fails part members (.format (.entriesNotObjects part.key .dump))
  | atEntry {items : List Json} {fault : LoadFault}
    (listed : Json.get? members part.key = some (.list items)) (shaped : part.Shaped items)
    (met : MetFirst (part.check · = .ok ()) (part.check · = .error fault) items) :
    Fails part members fault

structure ReadBy {α : Type} (part : Section) (read : List Json → Except LoadFault α) : Prop where
  error_iff {items : List Json} {fault : LoadFault} :
    read items = .error fault ↔
      ¬ part.Shaped items ∧ fault = .format (.entriesNotObjects part.key .dump) ∨
        part.Shaped items ∧
          MetFirst (part.check · = .ok ()) (part.check · = .error fault) items
  ok_iff {items : List Json} :
    (∃ result, read items = .ok result) ↔
      part.Shaped items ∧ ∀ item ∈ items, part.check item = .ok ()

section Items

variable {α : Type} {part : Section}

theorem exists_entries_iff {items : List Json} :
    (∃ entries : List Members, items = entries.map .object) ↔
      ∀ item ∈ items, ∃ entry, item = .object entry := by
  have range := Set.ext_iff.mp (Set.range_list_map Json.object) items
  simpa [eq_comm] using range

theorem readBy_readEntries {read : Members → Except LoadFault α} (objects : part ≠ retracted)
    (checks : ∀ entry, part.check (.object entry) = faultOf (read entry)) :
    part.ReadBy (readEntries part.key read) := by
  have shaped_iff (items : List Json) :
      part.Shaped items ↔ ∃ entries : List Members, items = entries.map .object := by
    rw [exists_entries_iff, Shaped, forall_prop_of_true objects]
  have shapes (entries : List Members) :
      readEntries part.key read (entries.map .object) = entries.mapM read := by
    have same : asEntries part.key .dump (entries.map .object) = .ok entries :=
      asEntries_ok_iff.mpr rfl
    rw [readEntries, same]
    rfl
  constructor
  · intro items fault
    -- The list is read entry by entry only once all of it has the shape of entries.
    by_cases shaped : part.Shaped items
    · obtain ⟨entries, rfl⟩ := (shaped_iff items).mp shaped
      rw [shapes, mapM_error_iff, metFirst_map]
      simp [shaped, checks, faultOf_error_iff, faultOf_ok_iff]
    · have refused : asEntries part.key .dump items =
          .error (.format (.entriesNotObjects part.key .dump)) := by
        cases outcome : asEntries part.key .dump items with
        | ok entries => exact absurd ((shaped_iff items).mpr ⟨_, asEntries_ok_iff.mp outcome⟩) shaped
        | error cause =>
          unfold asEntries refuse at outcome
          cases read : items.mapM asMembers? <;> simp_all
      rw [readEntries, refused]
      simp [shaped, bind, Except.bind, eq_comm]
  · intro items
    by_cases shaped : part.Shaped items
    · obtain ⟨entries, rfl⟩ := (shaped_iff items).mp shaped
      rw [shapes, mapM_accepts_iff]
      simp [shaped, checks, faultOf_ok_iff]
    · simp only [readEntries_ok_iff, shaped, false_and, iff_false]
      rintro ⟨result, entries, listed, -⟩
      exact shaped ((shaped_iff items).mpr ⟨entries, listed⟩)

theorem readBy_readIds : retracted.ReadBy fun items => items.mapM (readId .retracted) where
  error_iff {items fault} := by
    rw [mapM_error_iff]
    simp [Shaped, check, faultOf_error_iff, faultOf_ok_iff]
  ok_iff {items} := by
    rw [mapM_accepts_iff]
    simp [Shaped, check, faultOf_ok_iff]

theorem ReadBy.fails_iff {read : List Json → Except LoadFault α} (reads : part.ReadBy read)
    {members : Members} {fault : LoadFault} :
    part.Fails members fault ↔
      part = facts ∧ required part.key .dump members = .error fault ∨
        (part = facts → ∃ value, Json.get? members part.key = some value) ∧
          (listAt part.key .dump members >>= read) = .error fault := by
  constructor
  · rintro (⟨isFacts, absent⟩ | ⟨present, other⟩ | ⟨listed, misshapen⟩ | ⟨listed, shaped, met⟩)
    · left
      simp [isFacts ▸ absent, isFacts, required, refuse]
    · refine .inr ⟨fun _ => ⟨_, present⟩, ?_⟩
      rename_i value
      cases value with
      | list items => exact absurd rfl (other items)
      | _ =>
        simp only [listAt, present]
        rfl
    · refine .inr ⟨fun _ => ⟨_, listed⟩, ?_⟩
      rw [listAt_of_listed listed]
      exact reads.error_iff.mpr (.inl ⟨misshapen, rfl⟩)
    · refine .inr ⟨fun _ => ⟨_, listed⟩, ?_⟩
      rw [listAt_of_listed listed]
      exact reads.error_iff.mpr (.inr ⟨shaped, met⟩)
  · rintro (⟨isFacts, failed⟩ | ⟨-, failed⟩)
    · unfold required at failed
      cases found : Json.get? members part.key with
      | some value => simp [found] at failed
      | none =>
        simp only [found] at failed
        cases failed
        exact .missing isFacts found
    · unfold listAt at failed
      cases found : Json.get? members part.key with
      | none =>
        rw [found] at failed
        rcases reads.error_iff.mp failed with ⟨misshapen, -⟩ | ⟨-, met⟩
        · exact absurd (fun _ => by simp) misshapen
        · exact absurd met not_metFirst_nil
      | some value =>
        rw [found] at failed
        cases value with
        | list items =>
          rcases reads.error_iff.mp failed with ⟨misshapen, rfl⟩ | ⟨shaped, met⟩
          · exact .notObjects found misshapen
          · exact .atEntry found shaped met
        | _ =>
          cases failed
          exact .notList found (by simp)

theorem ReadBy.loads_iff {read : List Json → Except LoadFault α} (reads : part.ReadBy read)
    {members : Members} :
    part.Loads members ↔
      (part = facts → ∃ value, Json.get? members part.key = some value) ∧
        ∃ result, (listAt part.key .dump members >>= read) = .ok result := by
  simp only [bind_ok_iff]
  constructor
  · rintro ⟨present, items, listed, shaped, passed⟩
    obtain ⟨result, done⟩ := reads.ok_iff.mpr ⟨shaped, passed⟩
    exact ⟨present, result, items, listed, done⟩
  · rintro ⟨present, result, items, listed, done⟩
    exact ⟨present, items, listed, reads.ok_iff.mp ⟨result, done⟩⟩

end Items

structure ReadAs {α : Type} (part : Section) (members : Members) (reading : Except LoadFault α) :
    Prop where
  error_iff {fault : LoadFault} : reading = .error fault ↔ part.Fails members fault
  ok_iff : (∃ result, reading = .ok result) ↔ part.Loads members

section Reading

variable {α β : Type} {part : Section} {members : Members}

theorem ReadBy.readAs {read : List Json → Except LoadFault α} (reads : part.ReadBy read)
    (other : part ≠ facts) : part.ReadAs members (listAt part.key .dump members >>= read) where
  error_iff {fault} := by
    rw [reads.fails_iff]
    simp [other]
  ok_iff := by
    rw [reads.loads_iff]
    simp [other]

theorem ReadBy.readAs_required {read : List Json → Except LoadFault α} (reads : facts.ReadBy read) :
    facts.ReadAs members
      (required facts.key .dump members >>= fun _ => listAt facts.key .dump members >>= read) where
  error_iff {fault} := by
    rw [reads.fails_iff, bind_error_iff]
    simp [required_ok_iff]
  ok_iff := by
    rw [reads.loads_iff]
    simp [bind_ok_iff, required_ok_iff]

theorem ReadAs.bind_error_iff {reading : Except LoadFault α} {next : α → Except LoadFault β}
    {later : List Section} {fault : LoadFault} (reads : part.ReadAs members reading)
    (continued : ∀ result, next result = .error fault ↔
      MetFirst (·.Loads members) (·.Fails members fault) later) :
    (reading >>= next) = .error fault ↔
      MetFirst (·.Loads members) (·.Fails members fault) (part :: later) := by
  rw [FactGraph.bind_error_iff, metFirst_cons, reads.error_iff, ← reads.ok_iff]
  simp only [continued, exists_and_right]

end Reading

end Section

theorem ofMembers_error_iff {members : Members} {fault : LoadFault} :
    ofMembers members = .error fault ↔
      MetFirst (·.Loads members) (·.Fails members fault) Section.inOrder := by
  have objects := @Section.readBy_readEntries _ .objects readObject (by decide) fun _ => rfl
  have facts := @Section.readBy_readEntries _ .facts readFact (by decide) fun _ => rfl
  have acl := @Section.readBy_readEntries _ .acl readAclEntry (by decide) fun _ => rfl
  have comments := @Section.readBy_readEntries _ .comments readComment (by decide) fun _ => rfl
  rw [ofMembers_eq]
  simp only [readSection_eq]
  -- One step for each section; the check that there are Facts belongs to theirs.
  refine (objects.readAs (by decide)).bind_error_iff fun _ => ?_
  rw [← bind_assoc]
  refine facts.readAs_required.bind_error_iff fun _ => ?_
  refine (acl.readAs (by decide)).bind_error_iff fun _ => ?_
  refine (comments.readAs (by decide)).bind_error_iff fun _ => ?_
  rw [← bind_assoc]
  refine (Section.readBy_readIds.readAs (by decide)).bind_error_iff fun _ => ?_
  simp [pure, Except.pure]

section Entries

variable {part : Section} {members changed : Members} {fault : LoadFault}

namespace Section

structure StopsAt (part : Section) (members : Members) (before : List Json) (entry : Json)
    (after : List Json) (fault : LoadFault) : Prop where
  listed : Json.get? members part.key = some (.list (before ++ entry :: after))
  shaped : part.Shaped (before ++ entry :: after)
  passed : ∀ item ∈ before, part.check item = .ok ()
  refused : part.check entry = .error fault

theorem StopsAt.fails {before after : List Json} {entry : Json}
    (stops : part.StopsAt members before entry after fault) : part.Fails members fault :=
  .atEntry stops.listed stops.shaped ⟨before, entry, after, rfl, stops.passed, stops.refused⟩

theorem StopsAt.replaced {before after others : List Json} {entry : Json}
    (stops : part.StopsAt members before entry after fault)
    (listed : Json.get? changed part.key = some (.list (before ++ entry :: others)))
    (shaped : part.Shaped others) : part.StopsAt changed before entry others fault where
  listed := listed
  shaped objects := by
    have kept := stops.shaped objects
    rw [List.forall_mem_append, List.forall_mem_cons] at kept ⊢
    exact ⟨kept.1, kept.2.1, shaped objects⟩
  passed := stops.passed
  refused := stops.refused

theorem Loads.congr (loads : part.Loads members)
    (same : Json.get? changed part.key = Json.get? members part.key) : part.Loads changed where
  present := by
    rw [same]
    exact loads.present
  accepted := by
    unfold listAt
    rw [same]
    exact loads.accepted

end Section

/-- A dump is refused as its first section that is not accepted, and that section by its shape or
    else at its first entry that is refused. Whatever comes after that entry makes no difference. -/
theorem first_fault_decides (members : Members) :
    (∀ fault, ofJson (.object members) = .error fault ↔
      MetFirst (·.Loads members) (·.Fails members fault) Section.inOrder) ∧
      ∀ earlier part later, Section.inOrder = earlier ++ part :: later →
        (∀ other ∈ earlier, other.Loads members) →
        (∀ before entry after fault, part.StopsAt members before entry after fault →
          ofJson (.object members) = .error fault ∧
            ∀ changed others,
              (∀ other ∈ earlier, Json.get? changed other.key = Json.get? members other.key) →
              Json.get? changed part.key = some (.list (before ++ entry :: others)) →
              part.Shaped others → ofJson (.object changed) = .error fault) ∧
        (part ≠ .retracted → ∀ items item, Json.get? members part.key = some (.list items) →
          item ∈ items → (∀ entry, item ≠ .object entry) →
          ofJson (.object members) = .error (.format (.entriesNotObjects part.key .dump))) := by
  refine ⟨fun fault => ofMembers_error_iff, ?_⟩
  intro earlier part later order accepted
  constructor
  · intro before entry after fault stops
    constructor
    · exact ofMembers_error_iff.mpr ⟨earlier, part, later, order, accepted, stops.fails⟩
    · intro changed others same listed shaped
      have stillAccepted : ∀ other ∈ earlier, other.Loads changed :=
        fun other member => (accepted other member).congr (same other member)
      have stopsToo := stops.replaced listed shaped
      exact ofMembers_error_iff.mpr ⟨earlier, part, later, order, stillAccepted, stopsToo.fails⟩
  · intro objects items item listed member other
    have misshapen : ¬ part.Shaped items := by
      intro shaped
      obtain ⟨entry, same⟩ := shaped objects item member
      exact other entry same
    exact ofMembers_error_iff.mpr
      ⟨earlier, part, later, order, accepted, .notObjects listed misshapen⟩

end Entries

def objectSection : Json := .list [.object [("id", .text "00000000000000000000000000000007")]]

def factSectionWith (others : List Json) : Json :=
  .list <|
    [ .object [("id", .text "00000000000000000000000000000001")],
      .object
        [("id", .text "00000000000000000000000000000002"), ("access_mode", .text "Secret")] ] ++
    others

theorem first_fault_decides_access_mode :
    let members : Members := [("objects", objectSection), ("facts", factSectionWith [.object []])]
    let changed : Members :=
      [("retracted", .int 4), ("facts", factSectionWith []), ("objects", objectSection)]
    let misshapen : Members := [("facts", factSectionWith [.int 3]), ("objects", objectSection)]
    let fault := LoadFault.format (.invalidAccessMode (.fact ⟨2⟩) (.text "Secret"))
    ofJson (.object members) = .error fault ∧ ofJson (.object changed) = .error fault ∧
      ofJson (.object misshapen) = .error (.format (.entriesNotObjects "facts" .dump)) := by
  intro members changed misshapen fault
  have loads (members : Members) (listed : Json.get? members "objects" = some objectSection) :
      ∀ other ∈ [Section.objects], other.Loads members := by
    intro other member
    obtain rfl := List.mem_singleton.mp member
    refine ⟨fun isFacts => (by cases isFacts), _, listAt_of_listed listed .dump, ?_, ?_⟩
    · intro _ item listed
      exact ⟨_, List.mem_singleton.mp listed⟩
    · intro item listed
      rw [List.mem_singleton.mp listed]
      rfl
  have order : Section.inOrder = [.objects] ++ .facts :: [.acl, .comments, .retracted] := rfl
  have stops : Section.facts.StopsAt members
      [.object [("id", .text "00000000000000000000000000000001")]]
      (.object [("id", .text "00000000000000000000000000000002"), ("access_mode", .text "Secret")])
      [.object []] fault := by
    refine ⟨rfl, ?_, ?_, rfl⟩
    · intro _
      simp
    · intro item listed
      rw [List.mem_singleton.mp listed]
      rfl
  obtain ⟨stopped, others⟩ :=
    ((first_fault_decides members).2 _ _ _ order (loads members rfl)).1 _ _ _ _ stops
  refine ⟨stopped, others changed [] ?_ rfl ?_, ?_⟩
  · intro other member
    obtain rfl := List.mem_singleton.mp member
    rfl
  · intro _ item listed
    cases listed
  · refine ((first_fault_decides misshapen).2 _ _ _ order (loads misshapen rfl)).2 (by decide)
      _ (.int 3) rfl ?_ ?_
    · simp
    · intro entry same
      cases same

end Dump

end FactGraph
