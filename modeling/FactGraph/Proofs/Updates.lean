import FactGraph.Stores.Basic
import Mathlib.Data.List.Basic
import Mathlib.Data.List.Induction
import Mathlib.Data.List.Sort

namespace FactGraph

namespace SortedSet

variable {α : Type} [Ranked α]

instance : Std.Irrefl fun a b : α => Ranked.rank a < Ranked.rank b :=
  ⟨fun _ => Nat.lt_irrefl _⟩

instance : Std.Antisymm fun a b : α => Ranked.rank a < Ranked.rank b :=
  ⟨fun _ _ below above => absurd below (Nat.lt_asymm above)⟩

theorem eq_of_mem_iff {left right : SortedSet α} (same : ∀ a, a ∈ left ↔ a ∈ right) :
    left = right := by
  obtain ⟨left, ascendingLeft⟩ := left
  obtain ⟨right, ascendingRight⟩ := right
  congr 1
  exact ascendingLeft.eq_of_mem_iff ascendingRight same

end SortedSet

section LastEach

variable {α β : Type}

/-- The last item under each id, in the order in which the ids first came. -/
def lastEach (id? : α → Option Uuid) (items : List α) : List α :=
  (items.filterMap id?).eraseDups.filterMap fun id => (items.filter (id? · = some id)).getLast?

theorem lastEach_map (id? : β → Option Uuid) (f : α → β) (items : List α) :
    lastEach id? (items.map f) = (lastEach (fun item => id? (f item)) items).map f := by
  simp only [lastEach, List.filterMap_map, List.filter_map, List.getLast?_map, List.map_filterMap]
  rfl

theorem lastEach_congr {left right : α → Option Uuid} {items : List α}
    (same : ∀ item ∈ items, left item = right item) :
    lastEach left items = lastEach right items := by
  unfold lastEach
  rw [List.filterMap_congr same]
  congr 1
  funext id
  rw [List.filter_congr fun item member => by rw [same item member]]

theorem mem_of_mem_lastEach {id? : α → Option Uuid} {items : List α} {item : α}
    (last : item ∈ lastEach id? items) : item ∈ items := by
  obtain ⟨id, _, found⟩ := List.mem_filterMap.mp last
  exact List.mem_of_mem_filter (List.mem_of_getLast? found)

theorem length_lastEach (id? : α → Option Uuid) (items : List α) :
    (lastEach id? items).length = (items.filterMap id?).eraseDups.length := by
  unfold lastEach
  rw [List.length_filterMap_eq_countP, List.countP_eq_length]
  intro id listed
  obtain ⟨item, member, found⟩ := List.mem_filterMap.mp (List.mem_eraseDups.mp listed)
  have kept : item ∈ items.filter (id? · = some id) :=
    List.mem_filter.mpr ⟨member, decide_eq_true found⟩
  exact List.getLast?_isSome.mpr (List.ne_nil_of_mem kept)

end LastEach

theorem eraseDups_append_singleton {α : Type} [DecidableEq α] (items : List α) (last : α) :
    (items ++ [last]).eraseDups =
      if last ∈ items then items.eraseDups else items.eraseDups ++ [last] := by
  rw [List.eraseDups_append]
  by_cases old : last ∈ items
  · have gone : [last].removeAll items = [] := by simpa [List.removeAll] using old
    rw [if_pos old, gone, List.eraseDups_nil, List.append_nil]
  · have kept : [last].removeAll items = [last] := by simpa [List.removeAll] using old
    rw [if_neg old, kept]
    rfl

namespace Table

variable {α : Type} [Keyed α]

theorem eq_of_entries {left right : Table α} (same : left.entries = right.entries) :
    left = right := by
  cases left
  cases right
  cases same
  rfl

theorem get?_eq_of_mem {table : Table α} {entry : α} (member : entry ∈ table.entries) :
    table.get? (Keyed.key entry) = some entry :=
  get?_eq_some_iff.mpr ⟨member, rfl⟩

theorem filter_entries (table : Table α) (id : Uuid) :
    table.entries.filter (Keyed.key · = id) = (table.get? id).toList := by
  obtain ⟨entries, distinct⟩ := table
  unfold get?
  simp only
  induction entries with
  | nil => rfl
  | cons first rest ih =>
    rw [List.map_cons, List.nodup_cons] at distinct
    by_cases same : Keyed.key first = id
    · have others : rest.filter (Keyed.key · = id) = [] := by
        rw [List.filter_eq_nil_iff]
        intro other member matching
        have again : Keyed.key other = Keyed.key first :=
          (of_decide_eq_true matching).trans same.symm
        exact distinct.1 (again ▸ List.mem_map_of_mem member)
      simp [same, others]
    · simpa [same] using ih distinct.2

theorem mem_entries_put {table : Table α} {saved entry : α}
    (member : entry ∈ (table.put saved).entries) : entry = saved ∨ entry ∈ table.entries := by
  have found := get?_eq_of_mem member
  rw [get?_put] at found
  by_cases same : Keyed.key saved = Keyed.key entry
  · rw [if_pos same] at found
    exact .inl (Option.some.inj found).symm
  · rw [if_neg same] at found
    exact .inr (get?_eq_some_iff.mp found).1

theorem entries_eq_filterMap (table : Table α) :
    table.entries = (table.entries.map Keyed.key).filterMap table.get? := by
  rw [List.filterMap_map]
  have found : ∀ entry ∈ table.entries, (table.get? ∘ Keyed.key) entry = some (id entry) :=
    fun entry member => get?_eq_of_mem member
  rw [List.filterMap_eq_map_iff_forall_eq_some.mpr found, List.map_id]

theorem get?_foldl_put (table : Table α) (updates : List α) (id : Uuid) :
    (updates.foldl put table).get? id =
      ((updates.filter (Keyed.key · = id)).getLast?).or (table.get? id) := by
  induction updates using List.reverseRecOn with
  | nil => rfl
  | append_singleton updates last ih =>
    rw [List.foldl_append, List.foldl_cons, List.foldl_nil, get?_put, List.filter_append,
      List.getLast?_append]
    by_cases same : Keyed.key last = id
    · simp [same]
    · simp [same, ih]

theorem keys_foldl_put_of_known {table : Table α} {updates : List α}
    (known : ∀ update ∈ updates, Keyed.key update ∈ table.entries.map Keyed.key) :
    (updates.foldl put table).entries.map Keyed.key = table.entries.map Keyed.key := by
  induction updates using List.reverseRecOn with
  | nil => rfl
  | append_singleton updates last ih =>
    have before := ih fun update member => known update (List.mem_append_left _ member)
    rw [List.foldl_append, List.foldl_cons, List.foldl_nil, keys_put, before]
    exact if_pos (known last (by simp))

theorem keys_ofList (entries : List α) :
    (ofList entries).entries.map Keyed.key = (entries.map Keyed.key).eraseDups := by
  induction entries using List.reverseRecOn with
  | nil => rfl
  | append_singleton entries last ih =>
    unfold ofList at ih ⊢
    rw [List.foldl_append, List.foldl_cons, List.foldl_nil, keys_put, ih, List.map_append,
      List.map_singleton, eraseDups_append_singleton]
    simp only [List.mem_eraseDups]

theorem get?_ofList (entries : List α) (id : Uuid) :
    (ofList entries).get? id = (entries.filter (Keyed.key · = id)).getLast? := by
  unfold ofList
  rw [get?_foldl_put, get?_empty, Option.or_none]

theorem entries_ofList (entries : List α) :
    (ofList entries).entries = lastEach (fun entry => some (Keyed.key entry)) entries := by
  rw [entries_eq_filterMap, keys_ofList]
  unfold lastEach
  rw [List.filterMap_eq_map']
  congr 1
  funext id
  rw [get?_ofList]
  simp

theorem entries_foldl_put (rewrite : α → α) {table : Table α} {updates : List α}
    (keeps : ∀ entry ∈ table.entries, Keyed.key (rewrite entry) = Keyed.key entry)
    (rewritten : ∀ update ∈ updates, ∃ entry ∈ table.entries, rewrite entry = update)
    (covered : ∀ entry ∈ table.entries, rewrite entry = entry ∨ rewrite entry ∈ updates) :
    (updates.foldl put table).entries = table.entries.map rewrite := by
  have known : ∀ update ∈ updates, Keyed.key update ∈ table.entries.map Keyed.key := by
    intro update member
    obtain ⟨entry, inTable, rfl⟩ := rewritten update member
    rw [keeps entry inTable]
    exact List.mem_map_of_mem inTable
  rw [entries_eq_filterMap, keys_foldl_put_of_known known, List.filterMap_map]
  apply List.filterMap_eq_map_iff_forall_eq_some.mpr
  intro entry inTable
  rw [Function.comp_apply, get?_foldl_put]
  -- An id may be saved more than once, but always in the new form of the one entry it has.
  cases last : (updates.filter (Keyed.key · = Keyed.key entry)).getLast? with
  | some update =>
    have member := List.mem_of_getLast? last
    rw [List.mem_filter, decide_eq_true_eq] at member
    obtain ⟨other, otherInTable, rfl⟩ := rewritten update member.1
    have same : Keyed.key other = Keyed.key entry := by
      rw [← keeps other otherInTable]
      exact member.2
    have found := get?_eq_of_mem otherInTable
    rw [same, get?_eq_of_mem inTable] at found
    cases found
    rfl
  | none =>
    rw [List.getLast?_eq_none_iff, List.filter_eq_nil_iff] at last
    rw [get?_eq_of_mem inTable]
    rcases covered entry inTable with unchanged | member
    · rw [unchanged]
      rfl
    · exact absurd (decide_eq_true (keeps entry inTable)) (last _ member)

end Table

namespace Stores

variable (stores : Stores)

theorem run_append (first second : List Change) :
    stores.run (first ++ second) = (stores.run first).run second :=
  List.foldl_append

theorem run_saveObject (objects : List Object) :
    stores.run (objects.map .saveObject) =
      { stores with objects := objects.foldl Table.put stores.objects } := by
  induction objects generalizing stores with
  | nil => rfl
  | cons object objects ih => exact ih (stores.saveObject object)

theorem run_saveFact (facts : List StoredFact) :
    stores.run (facts.map .saveFact) =
      { stores with facts := facts.foldl Table.put stores.facts } := by
  induction facts generalizing stores with
  | nil => rfl
  | cons fact facts ih => exact ih (stores.saveFact fact)

theorem run_saveAclEntry (entries : List StoredAclEntry) :
    stores.run (entries.map .saveAclEntry) = { stores with acl := stores.acl ++ entries } := by
  induction entries generalizing stores with
  | nil =>
    rw [List.append_nil]
    rfl
  | cons entry entries ih =>
    have rest := ih (stores.saveAclEntry entry)
    simp only [saveAclEntry, List.append_assoc, List.singleton_append] at rest
    exact rest

theorem run_saveComment (comments : List StoredComment) :
    stores.run (comments.map .saveComment) =
      { stores with comments := stores.comments ++ comments } := by
  induction comments generalizing stores with
  | nil =>
    rw [List.append_nil]
    rfl
  | cons comment comments ih =>
    have rest := ih (stores.saveComment comment)
    simp only [saveComment, List.append_assoc, List.singleton_append] at rest
    exact rest

theorem run_indexDocument (documents : List FactDocument) :
    stores.run (documents.map .indexDocument) =
      { stores with documents := documents.foldl Table.put stores.documents } := by
  induction documents generalizing stores with
  | nil => rfl
  | cons document documents ih => exact ih (stores.indexDocument document)

end Stores

end FactGraph
