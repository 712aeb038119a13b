import FactGraph.Proofs.Sections

namespace FactGraph.Dump

/-! The keys that a dump is documented to have, entry by entry. -/

def objectKeys : List String := ["id", "type_id", "value"]

def bindingKeys : List String := ["object_id", "direction"]

def factKeys : List String :=
  [ "id", "type_id", "value", "in_reference_to_id", "organization_id", "origin_id", "added_by_id",
    "access_mode", "confidence", "trust", "timestamp", "last_seen_timestamp" ]

def aclKeys : List String := ["id", "fact_id", "subject_id", "origin_id", "timestamp"]

def commentKeys : List String :=
  ["id", "fact_id", "comment", "reply_to_id", "origin_id", "timestamp"]

def AgreeUnder (keys : List String) (first second : Members) : Prop :=
  ∀ key ∈ keys, Json.get? first key = Json.get? second key

inductive EntryAlike (Alike : Members → Members → Prop) : Json → Json → Prop
  | same (value : Json) : EntryAlike Alike value value
  | objects {first second : Members} (alike : Alike first second) :
    EntryAlike Alike (.object first) (.object second)

inductive ListedAlike (Alike : Members → Members → Prop) : Option Json → Option Json → Prop
  | same (value? : Option Json) : ListedAlike Alike value? value?
  | lists {items others : List Json} (alike : List.Forall₂ (EntryAlike Alike) items others) :
    ListedAlike Alike (some (.list items)) (some (.list others))

structure FactsAlike (first second : Members) : Prop where
  head : AgreeUnder factKeys first second
  bindings : ListedAlike (AgreeUnder bindingKeys) (Json.get? first "bindings")
    (Json.get? second "bindings")

/-- Whether dumps differ in the order of keys and in keys that are not documented only. -/
structure DumpsAlike (first second : Members) : Prop where
  objects : ListedAlike (AgreeUnder objectKeys) (Json.get? first "objects")
    (Json.get? second "objects")
  facts : ListedAlike FactsAlike (Json.get? first "facts") (Json.get? second "facts")
  acl : ListedAlike (AgreeUnder aclKeys) (Json.get? first "acl") (Json.get? second "acl")
  comments : ListedAlike (AgreeUnder commentKeys) (Json.get? first "comments")
    (Json.get? second "comments")
  retracted : Json.get? first "retracted" = Json.get? second "retracted"

section Lists

variable {α : Type} {Alike : Members → Members → Prop} {read : Members → Except LoadFault α}
  {key : String} {place : Place}

theorem read_entry_alike {item other : Json} (alike : EntryAlike Alike item other)
    (reads : ∀ first second, Alike first second → read first = read second) :
    (asMembers? item).map read = (asMembers? other).map read := by
  cases alike with
  | same => rfl
  | objects alike => exact congrArg some (reads _ _ alike)

theorem read_entries_alike {items others : List Json}
    (alike : List.Forall₂ (EntryAlike Alike) items others)
    (reads : ∀ first second, Alike first second → read first = read second) :
    (items.mapM asMembers?).map (List.map read) = (others.mapM asMembers?).map (List.map read) := by
  induction alike with
  | nil => rfl
  | @cons item other items others head _ ih =>
    have first := read_entry_alike head reads
    rw [List.mapM_cons, List.mapM_cons]
    generalize asMembers? item = entry? at first ⊢
    generalize asMembers? other = otherEntry? at first ⊢
    generalize items.mapM asMembers? = entries? at ih ⊢
    generalize others.mapM asMembers? = otherEntries? at ih ⊢
    cases entry? <;> cases otherEntry? <;> cases entries? <;> cases otherEntries? <;> simp_all

theorem entries_alike {items others : List Json}
    (alike : List.Forall₂ (EntryAlike Alike) items others)
    (reads : ∀ first second, Alike first second → read first = read second) :
    (asEntries key place items >>= fun entries => entries.mapM read) =
      asEntries key place others >>= fun entries => entries.mapM read := by
  -- What is read of entries, and the fault, depend only on what is read of each.
  have each (entries : List Members) : entries.mapM read = (entries.map read).mapM id := by
    rw [List.mapM_map]
    rfl
  have same := read_entries_alike alike reads
  unfold asEntries
  cases first : items.mapM asMembers? with
  | none =>
    cases second : others.mapM asMembers? with
    | none => rfl
    | some entries => simp [first, second] at same
  | some entries =>
    cases second : others.mapM asMembers? with
    | none => simp [first, second] at same
    | some others =>
      rw [first, second] at same
      change entries.mapM read = others.mapM read
      rw [each, each, Option.some.inj same]

theorem listed_alike {first second : Members}
    (alike : ListedAlike Alike (Json.get? first key) (Json.get? second key))
    (reads : ∀ first second, Alike first second → read first = read second) :
    (entriesAt key place first >>= fun entries => entries.mapM read) =
      entriesAt key place second >>= fun entries => entries.mapM read := by
  unfold entriesAt listAt
  generalize Json.get? first key = value? at alike ⊢
  generalize Json.get? second key = other? at alike ⊢
  cases alike with
  | same => rfl
  | lists alike => exact entries_alike alike reads

end Lists

section Entries

variable {first second : Members}

theorem readObject_alike (agree : AgreeUnder objectKeys first second) :
    readObject first = readObject second := by
  have same : ∀ key ∈ objectKeys, Json.get? first key = Json.get? second key := agree
  simp (disch := decide) only [readObject, requiredId, required, optionalId, optional, same]

theorem readBinding_alike (agree : AgreeUnder bindingKeys first second) (place : Place) :
    readBinding place first = readBinding place second := by
  have same : ∀ key ∈ bindingKeys, Json.get? first key = Json.get? second key := agree
  simp (disch := decide) only [readBinding, requiredId, required, same]

theorem readFact_alike (alike : FactsAlike first second) : readFact first = readFact second := by
  have same : ∀ key ∈ factKeys, Json.get? first key = Json.get? second key := alike.head
  have unnumbered : readUnnumbered first = readUnnumbered second := by
    simp (disch := decide) only [readUnnumbered, requiredId, required, optionalId, optional, same]
  rw [readFact_eq, readFact_eq, unnumbered]
  refine bind_congr fun fact => ?_
  simp (disch := decide) only [float, integer, same]
  refine bind_congr fun _ => bind_congr fun _ => bind_congr fun _ => bind_congr fun _ => ?_
  rw [← bind_assoc, ← bind_assoc,
    listed_alike alike.bindings fun _ _ agree => readBinding_alike agree _]

theorem readAclEntry_alike (agree : AgreeUnder aclKeys first second) :
    readAclEntry first = readAclEntry second := by
  have same : ∀ key ∈ aclKeys, Json.get? first key = Json.get? second key := agree
  simp (disch := decide) only [readAclEntry, requiredId, required, optionalId, optional, integer,
    same]

theorem readComment_alike (agree : AgreeUnder commentKeys first second) :
    readComment first = readComment second := by
  have same : ∀ key ∈ commentKeys, Json.get? first key = Json.get? second key := agree
  simp (disch := decide) only [readComment, requiredId, required, optionalId, optional, integer,
    same]

end Entries

theorem readSection_alike {α : Type} {Alike : Members → Members → Prop}
    {read : Members → Except LoadFault α} {key : String} {first second : Members}
    (alike : ListedAlike Alike (Json.get? first key) (Json.get? second key))
    (reads : ∀ first second, Alike first second → read first = read second) :
    readSection key read first = readSection key read second :=
  listed_alike alike reads

theorem required_bind_alike {α : Type} {Alike : Members → Members → Prop} {key : String}
    {place : Place} {first second : Members} {next : Except LoadFault α}
    (alike : ListedAlike Alike (Json.get? first key) (Json.get? second key)) :
    (required key place first >>= fun _ => next) = required key place second >>= fun _ => next := by
  unfold required
  generalize Json.get? first key = value? at alike ⊢
  generalize Json.get? second key = other? at alike ⊢
  cases alike with
  | same => rfl
  | lists => rfl

/-- Keys that are not documented, and the order of keys, make no difference to what a dump is loaded
    as or refused for. -/
theorem undocumented_keys_ignored {first second : Members} (alike : DumpsAlike first second) :
    (ofJson (.object first)).map toStores = (ofJson (.object second)).map toStores := by
  have objects := readSection_alike alike.objects fun _ _ => readObject_alike
  have facts := readSection_alike alike.facts fun _ _ => readFact_alike
  have acl := readSection_alike alike.acl fun _ _ => readAclEntry_alike
  have comments := readSection_alike alike.comments fun _ _ => readComment_alike
  have same : ofMembers first = ofMembers second := by
    rw [ofMembers_eq, ofMembers_eq, objects]
    refine bind_congr fun _ => ?_
    -- The Facts are only looked for here; what they are is read after that.
    rw [facts, acl, comments, listAt, listAt, alike.retracted]
    exact required_bind_alike alike.facts
  exact congrArg (Except.map toStores) same

def plainMembers (aclEntry : Members) : Members :=
  [ ( "facts",
      .list
        [ .object
            [ ("id", .text "00000000000000000000000000000001"),
              ("timestamp", .int 5),
              ( "bindings",
                .list
                  [ .object
                      [ ("object_id", .text "00000000000000000000000000000007"),
                        ("direction", .text "FactIsDestination") ] ] ) ] ] ),
    ("acl", .list [.object aclEntry]) ]

def annotatedMembers (aclEntry : Members) : Members :=
  [ ("note", .text "exported"),
    ("acl", .list [.object (("note", .null) :: aclEntry)]),
    ( "facts",
      .list
        [ .object
            [ ("timestamp", .int 5),
              ("note", .list [.int 1]),
              ( "bindings",
                .list
                  [ .object
                      [ ("direction", .text "FactIsDestination"),
                        ("note", .bool true),
                        ("object_id", .text "00000000000000000000000000000007") ] ] ),
              ("id", .text "00000000000000000000000000000001") ] ] ) ]

def ownerEntry : Members :=
  [ ("id", .text "00000000000000000000000000000004"),
    ("fact_id", .text "00000000000000000000000000000001"),
    ("subject_id", .text "00000000000000000000000000000005") ]

theorem undocumented_keys_ignored_notes :
    DumpsAlike (plainMembers ownerEntry) (annotatedMembers ownerEntry) ∧
      DumpsAlike (plainMembers []) (annotatedMembers []) ∧
      (ofJson (.object (annotatedMembers ownerEntry))).map toStores =
        .ok (toStores
          { facts := [{ id := ⟨1⟩, timestamp := 5, bindings := [⟨⟨7⟩, .factIsDestination⟩] }]
            acl := [{ id := ⟨4⟩, factId := ⟨1⟩, subjectId := ⟨5⟩ }] }) ∧
      (ofJson (.object (annotatedMembers []))).map toStores =
        .error (.format (.missingKey "id" .aclEntry)) := by
  have alike (aclEntry : Members)
      (agree : AgreeUnder aclKeys aclEntry (("note", .null) :: aclEntry)) :
      DumpsAlike (plainMembers aclEntry) (annotatedMembers aclEntry) := by
    refine ⟨.same none, .lists (.cons (.objects ⟨?_, ?_⟩) .nil),
      .lists (.cons (.objects agree) .nil), .same none, rfl⟩
    · unfold AgreeUnder
      decide
    · refine .lists (.cons (.objects ?_) .nil)
      unfold AgreeUnder
      decide
  have owner : AgreeUnder aclKeys ownerEntry (("note", .null) :: ownerEntry) := by
    unfold AgreeUnder
    decide
  have unnamed : AgreeUnder aclKeys [] [("note", .null)] := by
    unfold AgreeUnder
    decide
  exact ⟨alike _ owner, alike _ unnamed,
    (undocumented_keys_ignored (alike _ owner)).symm.trans rfl,
    (undocumented_keys_ignored (alike _ unnamed)).symm.trans rfl⟩

end FactGraph.Dump
