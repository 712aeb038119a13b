import FactGraph.Proofs.DumpLayout
import FactGraph.Proofs.Sections

namespace FactGraph

theorem eraseDups_filter {α : Type} [DecidableEq α] (p : α → Bool) (items : List α) :
    (items.filter p).eraseDups = items.eraseDups.filter p := by
  induction items using List.reverseRecOn with
  | nil => rfl
  | append_singleton items last ih =>
    rw [List.filter_append, eraseDups_append_singleton]
    by_cases kept : p last = true <;> by_cases old : last ∈ items <;>
      simp [eraseDups_append_singleton, ih, kept, old]

namespace Table

variable {α : Type} [Keyed α] (first second : List α)

theorem get?_ofList_append (id : Uuid) :
    (ofList (first ++ second)).get? id = ((ofList second).get? id).or ((ofList first).get? id) := by
  rw [get?_ofList, get?_ofList, get?_ofList, List.filter_append, List.getLast?_append]

theorem keys_ofList_append :
    (ofList (first ++ second)).entries.map Keyed.key =
      (ofList first).entries.map Keyed.key ++
        ((ofList second).entries.map Keyed.key).filter
          (· ∉ (ofList first).entries.map Keyed.key) := by
  have new : (second.map Keyed.key).removeAll (first.map Keyed.key) =
      (second.map Keyed.key).filter (· ∉ (first.map Keyed.key).eraseDups) := by
    unfold List.removeAll
    congr 1
    funext id
    simp only [List.elem_eq_contains, List.mem_eraseDups, decide_not, List.contains_eq_mem]
  rw [keys_ofList, keys_ofList, keys_ofList, List.map_append, List.eraseDups_append, new,
    eraseDups_filter]

end Table

namespace Stores

/-- Whether stores hold what two others hold, the second after the first and in its place. -/
structure Merges (first second merged : Stores) : Prop where
  objects : ∀ id, merged.getObject id = (second.getObject id).or (first.getObject id)
  facts : ∀ id, merged.getFact id = (second.getFact id).or (first.getFact id)
  documents : ∀ id, merged.getDocument id = (second.getDocument id).or (first.getDocument id)
  factIds : merged.listFacts.map (·.id) =
    first.listFacts.map (·.id) ++
      (second.listFacts.map (·.id)).filter (· ∉ first.listFacts.map (·.id))
  listed : ∀ fact ∈ merged.listFacts,
    (second.getFact fact.id).or (first.getFact fact.id) = some fact
  acl : ∀ factId, merged.fetchAcl factId = first.fetchAcl factId ++ second.fetchAcl factId
  comments : ∀ factId,
    merged.fetchComments factId = first.fetchComments factId ++ second.fetchComments factId

end Stores

namespace Dump

def join (first second : Dump) : Dump where
  objects := first.objects ++ second.objects
  facts := first.facts ++ second.facts
  acl := first.acl ++ second.acl
  comments := first.comments ++ second.comments
  retracted := first.retracted ++ second.retracted

theorem toStores_join (first second : Dump) :
    first.toStores.Merges second.toStores (first.join second).toStores where
  objects id := by
    simp only [toStores_eq]
    exact Table.get?_ofList_append first.objects second.objects id
  facts id := by
    simp only [toStores_eq]
    exact Table.get?_ofList_append first.facts second.facts id
  documents id := by
    simp only [toStores_eq, join, List.map_append]
    exact Table.get?_ofList_append _ _ id
  factIds := by
    simp only [toStores_eq]
    exact Table.keys_ofList_append first.facts second.facts
  listed fact member := by
    simp only [toStores_eq] at member ⊢
    have found := Table.get?_eq_of_mem member
    rw [join, Table.get?_ofList_append] at found
    exact found
  acl factId := by
    simp only [toStores_eq]
    exact List.filter_append _ _
  comments factId := by
    simp only [toStores_eq]
    exact List.filter_append _ _

structure Sectioned (members : Members) : Prop where
  hasFacts : ∃ value, Json.get? members "facts" = some value
  lists : ∀ part : Section, ∃ items, WritesOrOmits (.list []) part.key members (.list items)

structure Joins (first second whole : Members) : Prop where
  hasFacts : ∃ value, Json.get? whole "facts" = some value
  lists : ∀ part : Section,
    WritesOrOmits (.list []) part.key whole
      (.list ((Json.object first).items part.key ++ (Json.object second).items part.key))

def joined (first second : Members) : Members :=
  Section.inOrder.map fun part =>
    (part.key, .list ((Json.object first).items part.key ++ (Json.object second).items part.key))

theorem joined_joins (first second : Members) : Joins first second (joined first second) where
  hasFacts := ⟨_, rfl⟩
  lists part := by cases part <;> exact .inl rfl

theorem listAt_of_written {key : String} {members : Members} {items : List Json}
    (written : WritesOrOmits (.list []) key members (.list items)) :
    listAt key .dump members = .ok ((Json.object members).items key) := by
  have listed : (Json.object members).items key = items := by
    unfold Json.items
    rw [Json.member?_object]
    rcases written with present | ⟨absent, empty⟩
    · rw [present]
    · rw [absent]
      exact (Json.list.inj empty).symm
  rw [listed, listAt_ok_iff]
  exact getD_of_written written

section Parts

variable {α : Type}

/-- Whether a reader takes a list as its parts, read one after the other. -/
def ReadsByParts (read : List Json → Except LoadFault (List α)) : Prop :=
  ∀ items others results, read (items ++ others) = .ok results ↔
    ∃ early late, read items = .ok early ∧ read others = .ok late ∧ results = early ++ late

theorem mapM_append_ok_iff {β ε : Type} {read : α → Except ε β} {items others : List α}
    {results : List β} :
    (items ++ others).mapM read = .ok results ↔
      ∃ early late, items.mapM read = .ok early ∧ others.mapM read = .ok late ∧
        results = early ++ late := by
  simp only [List.mapM_append, bind_ok_iff, pure, Except.pure, Except.ok.injEq]
  constructor
  · rintro ⟨early, done, late, remaining, rfl⟩
    exact ⟨early, late, done, remaining, rfl⟩
  · rintro ⟨early, late, done, remaining, rfl⟩
    exact ⟨early, done, late, remaining, rfl⟩

theorem readEntries_byParts (key : String) (read : Members → Except LoadFault α) :
    ReadsByParts (readEntries key read) := by
  intro items others results
  simp only [readEntries_ok_iff]
  constructor
  · rintro ⟨entries, split, done⟩
    obtain ⟨before, after, rfl, rfl, rfl⟩ := List.append_eq_map_iff.mp split
    obtain ⟨early, late, first, second, rfl⟩ := mapM_append_ok_iff.mp done
    exact ⟨early, late, ⟨before, rfl, first⟩, ⟨after, rfl, second⟩, rfl⟩
  · rintro ⟨early, late, ⟨before, rfl, first⟩, ⟨after, rfl, second⟩, rfl⟩
    have done := mapM_append_ok_iff.mpr ⟨early, late, first, second, rfl⟩
    exact ⟨before ++ after, List.map_append.symm, done⟩

theorem readIds_byParts : ReadsByParts fun items => items.mapM (readId .retracted) :=
  fun _ _ _ => mapM_append_ok_iff

theorem Joins.read_ok_iff {first second whole : Members} (joins : Joins first second whole)
    (left : Sectioned first) (right : Sectioned second)
    {read : List Json → Except LoadFault (List α)} (byParts : ReadsByParts read) (part : Section)
    (results : List α) :
    (listAt part.key .dump whole >>= read) = .ok results ↔
      ∃ early late, (listAt part.key .dump first >>= read) = .ok early ∧
        (listAt part.key .dump second >>= read) = .ok late ∧ results = early ++ late := by
  obtain ⟨items, written⟩ := left.lists part
  obtain ⟨others, writtenToo⟩ := right.lists part
  have whole_listed : listAt part.key .dump whole = .ok _ :=
    listAt_ok_iff.mpr (getD_of_written (joins.lists part))
  rw [whole_listed, listAt_of_written written, listAt_of_written writtenToo]
  exact byParts _ _ results

end Parts

theorem ofMembers_join_ok_iff {first second whole : Members} (left : Sectioned first)
    (right : Sectioned second) (joins : Joins first second whole) {dump : Dump} :
    ofMembers whole = .ok dump ↔
      ∃ one two, ofMembers first = .ok one ∧ ofMembers second = .ok two ∧ dump = one.join two := by
  obtain ⟨objects, facts, acl, comments, retracted⟩ := dump
  have objectsByParts := joins.read_ok_iff left right
    (readEntries_byParts "objects" readObject) .objects
  have factsByParts := joins.read_ok_iff left right (readEntries_byParts "facts" readFact) .facts
  have aclByParts := joins.read_ok_iff left right (readEntries_byParts "acl" readAclEntry) .acl
  have commentsByParts := joins.read_ok_iff left right
    (readEntries_byParts "comments" readComment) .comments
  have idsByParts := joins.read_ok_iff left right readIds_byParts .retracted
  simp only [Section.key] at objectsByParts factsByParts aclByParts commentsByParts idsByParts
  simp only [ofMembers_ok_iff, readSection_eq, objectsByParts, factsByParts, aclByParts,
    commentsByParts, idsByParts]
  constructor
  · rintro ⟨⟨_, _, objects, laterObjects, rfl⟩, -, ⟨_, _, facts, laterFacts, rfl⟩,
      ⟨_, _, acl, laterAcl, rfl⟩, ⟨_, _, comments, laterComments, rfl⟩, _, _, ids, laterIds, rfl⟩
    exact ⟨⟨_, _, _, _, _⟩, ⟨_, _, _, _, _⟩,
      ⟨objects, left.hasFacts, facts, acl, comments, ids⟩,
      ⟨laterObjects, right.hasFacts, laterFacts, laterAcl, laterComments, laterIds⟩, rfl⟩
  · rintro ⟨one, two, ⟨objects, -, facts, acl, comments, ids⟩,
      ⟨laterObjects, -, laterFacts, laterAcl, laterComments, laterIds⟩, same⟩
    cases same
    exact ⟨⟨_, _, objects, laterObjects, rfl⟩, joins.hasFacts, ⟨_, _, facts, laterFacts, rfl⟩,
      ⟨_, _, acl, laterAcl, rfl⟩, ⟨_, _, comments, laterComments, rfl⟩, _, _, ids, laterIds, rfl⟩

/-- Two dumps are loaded as one exactly if each of them is loaded on its own, and the stores are
    then theirs merged. -/
theorem joined_dump_loads_merged {first second : Members} (left : Sectioned first)
    (right : Sectioned second) :
    Joins first second (joined first second) ∧
      ∀ whole, Joins first second whole →
        ((∃ dump, ofJson (.object whole) = .ok dump) ↔
          (∃ dump, ofJson (.object first) = .ok dump) ∧
            ∃ dump, ofJson (.object second) = .ok dump) ∧
        ∀ one two, ofJson (.object first) = .ok one → ofJson (.object second) = .ok two →
          ∃ dump, ofJson (.object whole) = .ok dump ∧
            one.toStores.Merges two.toStores dump.toStores := by
  refine ⟨joined_joins first second, fun whole joins => ?_⟩
  have loads (dump : Dump) : ofJson (.object whole) = .ok dump ↔ ∃ one two,
      ofJson (.object first) = .ok one ∧ ofJson (.object second) = .ok two ∧
        dump = one.join two := ofMembers_join_ok_iff left right joins
  constructor
  · constructor
    · rintro ⟨dump, loaded⟩
      obtain ⟨one, two, first, second, -⟩ := (loads dump).mp loaded
      exact ⟨⟨one, first⟩, two, second⟩
    · rintro ⟨⟨one, first⟩, two, second⟩
      exact ⟨_, (loads _).mpr ⟨one, two, first, second, rfl⟩⟩
  · intro one two first second
    exact ⟨_, (loads _).mpr ⟨one, two, first, second, rfl⟩, toStores_join one two⟩

def olderMembers : Members :=
  [ ("facts", .list
      [ .object [("id", .text "00000000000000000000000000000001"), ("timestamp", .int 5)],
        .object [("id", .text "00000000000000000000000000000002"), ("value", .int 3)] ]),
    ("objects", .list
      [ .object [("id", .text "00000000000000000000000000000007"), ("value", .text "a")],
        .object [("id", .text "00000000000000000000000000000008")] ]),
    ("retracted", .list [.text "00000000000000000000000000000002"]) ]

def newerMembers : Members :=
  [ ("objects", .list
      [.object [("id", .text "\x7b00000000-0000-0000-0000-000000000007\x7d")]]),
    ("facts", .list
      [ .object [("id", .text "00000000000000000000000000000003")],
        .object [("id", .text "00000000-0000-0000-0000-000000000001"), ("timestamp", .int 6)] ]) ]

theorem joined_dump_loads_merged_overlapping :
    Sectioned olderMembers ∧ Sectioned newerMembers ∧
      ∃ dump, ofJson (.object (joined olderMembers newerMembers)) = .ok dump ∧
        dump.toStores.listFacts.map (·.id) = [⟨1⟩, ⟨2⟩, ⟨3⟩] ∧
        dump.toStores.getFact ⟨1⟩ = some { id := ⟨1⟩, timestamp := 6 } ∧
        dump.toStores.getFact ⟨2⟩ = some { id := ⟨2⟩, value := .int 3 } ∧
        dump.toStores.getObject ⟨7⟩ = some { id := ⟨7⟩ } ∧
        dump.toStores.getObject ⟨8⟩ = some { id := ⟨8⟩ } := by
  have left : Sectioned olderMembers := by
    refine ⟨⟨_, rfl⟩, ?_⟩
    rintro (_ | _ | _ | _ | _)
    · exact ⟨_, .inl rfl⟩
    · exact ⟨_, .inl rfl⟩
    · exact ⟨[], .inr ⟨rfl, rfl⟩⟩
    · exact ⟨[], .inr ⟨rfl, rfl⟩⟩
    · exact ⟨_, .inl rfl⟩
  have right : Sectioned newerMembers := by
    refine ⟨⟨_, rfl⟩, ?_⟩
    rintro (_ | _ | _ | _ | _)
    · exact ⟨_, .inl rfl⟩
    · exact ⟨_, .inl rfl⟩
    · exact ⟨[], .inr ⟨rfl, rfl⟩⟩
    · exact ⟨[], .inr ⟨rfl, rfl⟩⟩
    · exact ⟨[], .inr ⟨rfl, rfl⟩⟩
  obtain ⟨joins, load⟩ := joined_dump_loads_merged left right
  have older : ofJson (.object olderMembers) = .ok
      { objects := [⟨⟨7⟩, none, .text "a"⟩, ⟨⟨8⟩, none, .null⟩]
        facts := [{ id := ⟨1⟩, timestamp := 5 }, { id := ⟨2⟩, value := .int 3 }]
        retracted := [⟨2⟩] } := rfl
  have newer : ofJson (.object newerMembers) = .ok
      { objects := [⟨⟨7⟩, none, .null⟩]
        facts := [{ id := ⟨3⟩ }, { id := ⟨1⟩, timestamp := 6 }] } := rfl
  obtain ⟨dump, loaded, merges⟩ := (load _ joins).2 _ _ older newer
  exact ⟨left, right, dump, loaded, merges.factIds, merges.facts ⟨1⟩, merges.facts ⟨2⟩,
    merges.objects ⟨7⟩, merges.objects ⟨8⟩⟩

end Dump

end FactGraph
