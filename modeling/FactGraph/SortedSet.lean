namespace FactGraph

class Ranked (α : Type) where
  rank : α → Nat
  rank_injective : ∀ a b, rank a = rank b → a = b

structure SortedSet (α : Type) [Ranked α] where
  toList : List α
  ascending : toList.Pairwise (fun a b => Ranked.rank a < Ranked.rank b) := by simp

namespace SortedSet

variable {α : Type} [Ranked α]

def empty : SortedSet α := ⟨[], .nil⟩

instance : Membership α (SortedSet α) := ⟨fun set a => a ∈ set.toList⟩

def insertRanked (a : α) : List α → List α
  | [] => [a]
  | b :: rest =>
    if Ranked.rank a < Ranked.rank b then a :: b :: rest
    else if Ranked.rank b < Ranked.rank a then b :: insertRanked a rest
    else b :: rest

theorem mem_insertRanked {a b : α} {list : List α} :
    b ∈ insertRanked a list ↔ b = a ∨ b ∈ list := by
  induction list with
  | nil => simp [insertRanked]
  | cons c rest ih =>
    simp only [insertRanked]
    split
    · simp
    · split
      · simp only [List.mem_cons, ih]
        constructor <;> rintro (h | h | h) <;> simp [h]
      · have : a = c := Ranked.rank_injective a c (by omega)
        simp [this]

theorem ascending_insertRanked {a : α} {list : List α}
    (ascending : list.Pairwise (fun a b => Ranked.rank a < Ranked.rank b)) :
    (insertRanked a list).Pairwise (fun a b => Ranked.rank a < Ranked.rank b) := by
  induction list with
  | nil => simp [insertRanked]
  | cons c rest ih =>
    rw [List.pairwise_cons] at ascending
    simp only [insertRanked]
    split
    · rename_i below
      refine List.pairwise_cons.2 ⟨?_, List.pairwise_cons.2 ascending⟩
      intro b member
      rcases List.mem_cons.1 member with rfl | member
      · exact below
      · exact Nat.lt_trans below (ascending.1 b member)
    · split
      · rename_i above
        refine List.pairwise_cons.2 ⟨?_, ih ascending.2⟩
        intro b member
        rcases mem_insertRanked.1 member with rfl | member
        · exact above
        · exact ascending.1 b member
      · exact List.pairwise_cons.2 ascending

def insert (set : SortedSet α) (a : α) : SortedSet α :=
  ⟨insertRanked a set.toList, ascending_insertRanked set.ascending⟩

def ofList (elements : List α) : SortedSet α := elements.foldl insert empty

@[simp] theorem not_mem_empty (a : α) : a ∉ (empty : SortedSet α) := List.not_mem_nil

@[simp] theorem mem_insert {set : SortedSet α} {a b : α} : b ∈ set.insert a ↔ b = a ∨ b ∈ set :=
  mem_insertRanked

@[simp] theorem mem_ofList {elements : List α} {a : α} : a ∈ ofList elements ↔ a ∈ elements := by
  suffices ∀ set : SortedSet α, a ∈ elements.foldl insert set ↔ a ∈ set ∨ a ∈ elements by
    simpa [ofList] using this empty
  induction elements with
  | nil => simp
  | cons b rest ih =>
    intro set
    rw [List.foldl_cons, ih, mem_insert, List.mem_cons, or_assoc, or_left_comm]

instance [DecidableEq α] (set : SortedSet α) (a : α) : Decidable (a ∈ set) :=
  inferInstanceAs (Decidable (a ∈ set.toList))

end SortedSet

end FactGraph
