import FactGraph.Uuid.Basic

namespace FactGraph

class Keyed (α : Type) where
  key : α → Uuid

/-- Entries in the order in which their ids first came, at most one for each id. -/
structure Table (α : Type) [Keyed α] where
  entries : List α
  distinct : (entries.map Keyed.key).Nodup := by simp

namespace Table

variable {α : Type} [Keyed α]

def empty : Table α := ⟨[], by simp⟩

def get? (table : Table α) (id : Uuid) : Option α :=
  table.entries.find? (Keyed.key · = id)

def putEntry (entry : α) : List α → List α
  | [] => [entry]
  | old :: rest =>
    if Keyed.key old = Keyed.key entry then entry :: rest else old :: putEntry entry rest

theorem keys_putEntry (entry : α) (entries : List α) :
    (putEntry entry entries).map Keyed.key =
      if Keyed.key entry ∈ entries.map Keyed.key then entries.map Keyed.key
      else entries.map Keyed.key ++ [Keyed.key entry] := by
  induction entries with
  | nil => simp [putEntry]
  | cons old rest ih =>
    by_cases same : Keyed.key old = Keyed.key entry
    · simp [putEntry, same]
    · have other : Keyed.key entry ≠ Keyed.key old := fun h => same h.symm
      simp only [putEntry, same, ↓reduceIte, List.map_cons, ih, List.mem_cons, other, false_or]
      split <;> simp

theorem nodup_putEntry {entry : α} {entries : List α}
    (distinct : (entries.map Keyed.key).Nodup) :
    ((putEntry entry entries).map Keyed.key).Nodup := by
  rw [keys_putEntry]
  split
  · exact distinct
  · rename_i fresh
    rw [List.nodup_append]
    refine ⟨distinct, by simp, ?_⟩
    intro key member other single
    rw [List.mem_singleton] at single
    rintro rfl
    exact fresh (single ▸ member)

theorem find?_putEntry (entry : α) (entries : List α) (id : Uuid) :
    (putEntry entry entries).find? (Keyed.key · = id) =
      if Keyed.key entry = id then some entry else entries.find? (Keyed.key · = id) := by
  induction entries with
  | nil => simp only [putEntry, List.find?_cons, List.find?_nil]; split <;> simp_all
  | cons old rest ih =>
    by_cases same : Keyed.key old = Keyed.key entry
    · simp only [putEntry, same, ↓reduceIte, List.find?_cons]
      split <;> simp_all
    · simp only [putEntry, same, ↓reduceIte, List.find?_cons, ih]
      split
      · rename_i found
        rw [if_neg]
        rintro rfl
        exact same (of_decide_eq_true found)
      · rfl

def put (table : Table α) (entry : α) : Table α :=
  ⟨putEntry entry table.entries, nodup_putEntry table.distinct⟩

def ofList (entries : List α) : Table α := entries.foldl put empty

@[simp] theorem get?_empty (id : Uuid) : (empty : Table α).get? id = none := rfl

@[simp] theorem get?_put (table : Table α) (entry : α) (id : Uuid) :
    (table.put entry).get? id = if Keyed.key entry = id then some entry else table.get? id :=
  find?_putEntry entry table.entries id

theorem keys_put (table : Table α) (entry : α) :
    (table.put entry).entries.map Keyed.key =
      if Keyed.key entry ∈ table.entries.map Keyed.key then table.entries.map Keyed.key
      else table.entries.map Keyed.key ++ [Keyed.key entry] :=
  keys_putEntry entry table.entries

theorem get?_eq_some_iff {table : Table α} {entry : α} {id : Uuid} :
    table.get? id = some entry ↔ entry ∈ table.entries ∧ Keyed.key entry = id := by
  constructor
  · intro found
    have same := List.find?_some (p := fun entry => decide (Keyed.key entry = id)) found
    exact ⟨List.mem_of_find?_eq_some found, of_decide_eq_true same⟩
  · rintro ⟨member, rfl⟩
    obtain ⟨entries, distinct⟩ := table
    simp only [get?] at member ⊢
    induction entries with
    | nil => cases member
    | cons first rest ih =>
      rw [List.map_cons, List.nodup_cons] at distinct
      rcases List.mem_cons.1 member with rfl | later
      · simp
      · rw [List.find?_cons]
        split
        · rename_i same
          exact absurd (of_decide_eq_true same ▸ List.mem_map_of_mem later) distinct.1
        · exact ih distinct.2 later

end Table

end FactGraph
