import FactGraph.Proofs.Printing

namespace FactGraph

namespace Json

def CorruptFact (fact : Json) : Prop :=
  2 < (fact.items "bindings").length ∨
    (fact.items "bindings").length = 2 ∧
      ∃ direction ∈ [Direction.factIsSource, .factIsDestination],
        ∀ binding ∈ fact.items "bindings",
          binding.member? "direction" = some (.text direction.wireName)

/-- Whether a Fact that is not corrupt is bound to an id that no Object of its dump has. -/
def DanglingFact (dump fact : Json) : Prop :=
  ¬ fact.CorruptFact ∧
    ∃ binding ∈ fact.items "bindings", ∀ object ∈ dump.items "objects",
      object.idUnder "id" ≠ binding.idUnder "object_id"

instance : DecidablePred CorruptFact := fun fact =>
  inferInstanceAs (Decidable (2 < (fact.items "bindings").length ∨
    (fact.items "bindings").length = 2 ∧
      ∃ direction ∈ [Direction.factIsSource, .factIsDestination],
        ∀ binding ∈ fact.items "bindings",
          binding.member? "direction" = some (.text direction.wireName)))

instance (dump : Json) : DecidablePred dump.DanglingFact := fun fact =>
  inferInstanceAs (Decidable (¬ fact.CorruptFact ∧
    ∃ binding ∈ fact.items "bindings", ∀ object ∈ dump.items "objects",
      object.idUnder "id" ≠ binding.idUnder "object_id"))

def factIds (dump : Json) : List Uuid := ((dump.items "facts").filterMap (idUnder "id")).eraseDups

/-- The last Fact of a dump under each id. -/
def effectiveFacts (dump : Json) : List Json := lastEach (idUnder "id") (dump.items "facts")

theorem SpellsFact.corrupt_iff {entry : Json} {fact : StoredFact} (spelt : entry.SpellsFact fact) :
    entry.CorruptFact ↔ CorruptBindings fact.bindings := by
  have direct : ∀ direction : Direction,
      (∀ binding ∈ entry.items "bindings",
          binding.member? "direction" = some (.text direction.wireName)) ↔
        ∀ binding ∈ fact.bindings, binding.direction = direction := by
    intro direction
    apply forall_mem_iff_of_forall₂ spelt.bindings
    intro shown binding same
    rw [same.direction, Option.some.injEq, text.injEq, Text.plain.injEq, Direction.wireName_inj]
  rw [corruptBindings_iff]
  unfold CorruptFact
  simp only [direct, spelt.bindings.length_eq]

end Json

namespace Dump

variable {json : Json} {dump : Dump}

theorem getObject_toStores_eq_none_iff (accepted : ofJson json = .ok dump) {id : Uuid} :
    dump.toStores.getObject id = none ↔
      ∀ object ∈ json.items "objects", object.idUnder "id" ≠ some id := by
  have absent : dump.toStores.getObject id = none ↔ ∀ object ∈ dump.objects, object.id ≠ id := by
    unfold Stores.getObject
    rw [toStores_eq, Table.get?_ofList, List.getLast?_eq_none_iff, List.filter_eq_nil_iff]
    simp only [decide_eq_true_eq]
    rfl
  rw [absent]
  symm
  apply forall_mem_iff_of_forall₂ (ofJson_ok accepted).1
  intro entry object spelt
  rw [spelt, ne_eq, Option.some.injEq]

theorem dangling_iff (accepted : ofJson json = .ok dump) {entry : Json} {fact : StoredFact}
    (spelt : entry.SpellsFact fact) : json.DanglingFact entry ↔ dump.toStores.Dangling fact := by
  have bound : (∀ binding ∈ entry.items "bindings", ∃ object ∈ json.items "objects",
        object.idUnder "id" = binding.idUnder "object_id") ↔
      ∀ binding ∈ fact.bindings, dump.toStores.getObject binding.objectId ≠ none := by
    apply forall_mem_iff_of_forall₂ spelt.bindings
    intro shown binding same
    rw [ne_eq, getObject_toStores_eq_none_iff accepted, same.objectId]
    simp
  have unbound := not_congr bound
  simp only [not_forall, not_exists, not_and, exists_prop, ne_eq, Decidable.not_not] at unbound
  unfold Json.DanglingFact Stores.Dangling
  rw [spelt.corrupt_iff]
  exact and_congr_right fun _ => unbound

theorem effectiveFacts_spell (accepted : ofJson json = .ok dump) :
    List.Forall₂ Json.SpellsFact json.effectiveFacts dump.toStores.listFacts := by
  unfold Stores.listFacts
  rw [toStores_eq, Table.entries_ofList]
  exact forall₂_lastEach (ofJson_ok accepted).2 fun _ _ spelt => spelt.id

end Dump

theorem Report.auditLines_eq (batch : Batch) :
    ∃ details, auditLines batch =
      auditHeading ++ batch.records.map row ++
        statistics batch.total batch.records.length batch.corrupt.length batch.failures.length ++
        details :=
  ⟨_, List.append_assoc _ _ _⟩

def bindingJson (direction objectId : String) : Json :=
  .object [("direction", .text direction), ("object_id", .text objectId)]

def factJson (id : String) (bindings : List Json) : Json :=
  .object [("id", .text id), ("bindings", .list bindings)]

def mixedJson : Json :=
  .object
    [ ("objects", .list [.object [("id", .text "0000000000000000000000000000000a")]]),
      ("facts", .list
        [ factJson "00000000000000000000000000000001"
            [bindingJson "FactIsSource" "0000000000000000000000000000000b"],
          factJson "00000000000000000000000000000002"
            [ bindingJson "FactIsSource" "0000000000000000000000000000000a",
              bindingJson "FactIsSource" "0000000000000000000000000000000b" ],
          factJson "\x7b00000000-0000-0000-0000-000000000001\x7d"
            [bindingJson "BiDirectional" "0000000000000000000000000000000A"],
          factJson "00000000000000000000000000000003"
            [bindingJson "BiDirectional" "0000000000000000000000000000000b"] ]) ]

def mixedDump : Dump :=
  { objects := [{ id := ⟨10⟩ }]
    facts :=
      [ { id := ⟨1⟩, bindings := [⟨⟨11⟩, .factIsSource⟩] },
        { id := ⟨2⟩, bindings := [⟨⟨10⟩, .factIsSource⟩, ⟨⟨11⟩, .factIsSource⟩] },
        { id := ⟨1⟩, bindings := [⟨⟨10⟩, .biDirectional⟩] },
        { id := ⟨3⟩, bindings := [⟨⟨11⟩, .biDirectional⟩] } ] }

end FactGraph
