import DragonSched.Basic

namespace DragonOS

/-- The order of a run queue: keys never decrease. -/
def KeyLe {V : Type} (first second : Int × V) : Prop := first.1 ≤ second.1

instance {V : Type} (first second : Int × V) : Decidable (KeyLe first second) :=
  inferInstanceAs (Decidable (_ ≤ _))

/-- `RBTree::insert` on the in-order list: after every entry with a key not greater. -/
def insertEntry {V : Type} (key : Int) (value : V) : List (Int × V) → List (Int × V)
  | [] => [(key, value)]
  | entry :: rest =>
      if key < entry.1 then (key, value) :: entry :: rest
      else entry :: insertEntry key value rest

section InsertEntry

variable {V : Type} (key : Int) (value : V)

theorem insertEntry_perm (entries : List (Int × V)) :
    (insertEntry key value entries).Perm ((key, value) :: entries) := by
  induction entries with
  | nil => simp [insertEntry]
  | cons entry rest inductionHypothesis =>
      simp only [insertEntry]
      split
      · exact List.Perm.refl _
      · exact (inductionHypothesis.cons entry).trans (List.Perm.swap _ _ rest)

theorem mem_insertEntry {entries : List (Int × V)} {entry : Int × V} :
    entry ∈ insertEntry key value entries ↔ entry = (key, value) ∨ entry ∈ entries := by
  rw [(insertEntry_perm key value entries).mem_iff, List.mem_cons]

theorem insertEntry_sorted {entries : List (Int × V)} (sorted : entries.Sorted KeyLe) :
    (insertEntry key value entries).Sorted KeyLe := by
  induction entries with
  | nil => simp [insertEntry]
  | cons entry rest inductionHypothesis =>
      have head := List.sorted_cons.mp sorted
      simp only [insertEntry]
      split
      · rename_i smaller
        refine List.sorted_cons.mpr ⟨?_, sorted⟩
        intro other member
        rcases List.mem_cons.mp member with rfl | later
        · exact le_of_lt smaller
        · exact le_trans (le_of_lt smaller) (head.1 other later)
      · rename_i notSmaller
        refine List.sorted_cons.mpr ⟨?_, inductionHypothesis head.2⟩
        intro other member
        rcases (mem_insertEntry key value).mp member with rfl | later
        · exact le_of_not_lt notSmaller
        · exact head.1 other later

/-- On a sorted list the insertion lands between smaller-or-equal and greater keys. -/
theorem insertEntry_split {entries : List (Int × V)} (sorted : entries.Sorted KeyLe) :
    ∃ before after, entries = before ++ after ∧ (∀ entry ∈ before, entry.1 ≤ key) ∧
      (∀ entry ∈ after, key < entry.1) ∧ insertEntry key value entries = before ++ (key, value) :: after := by
  induction entries with
  | nil => exact ⟨[], [], rfl, by simp, by simp, rfl⟩
  | cons entry rest inductionHypothesis =>
      have head := List.sorted_cons.mp sorted
      by_cases smaller : key < entry.1
      · refine ⟨[], entry :: rest, rfl, by simp, fun other member => ?_, if_pos smaller⟩
        rcases List.mem_cons.mp member with rfl | later
        · exact smaller
        · exact lt_of_lt_of_le smaller (head.1 other later)
      · obtain ⟨before, after, split, lower, upper, inserted⟩ := inductionHypothesis head.2
        refine ⟨entry :: before, after, by rw [split, List.cons_append], fun other member => ?_, upper, ?_⟩
        · rcases List.mem_cons.mp member with rfl | earlier
          · exact le_of_not_lt smaller
          · exact lower other earlier
        · rw [insertEntry, if_neg smaller, inserted, List.cons_append]

end InsertEntry

/-- In-order contents of an `RBTree<i64, V>`: sorted keys, equal keys in insertion order. -/
structure RBTree (V : Type) where
  entries : List (Int × V)
  sorted : entries.Sorted KeyLe

namespace RBTree

variable {V : Type}

def new : RBTree V := ⟨[], List.sorted_nil⟩

def insert (tree : RBTree V) (key : Int) (value : V) : RBTree V :=
  ⟨insertEntry key value tree.entries, insertEntry_sorted key value tree.sorted⟩

/-- `pop_first`: the least key, the earliest inserted among equal ones. -/
def popFirst (tree : RBTree V) : Option ((Int × V) × RBTree V) :=
  match tree with
  | ⟨[], _⟩ => none
  | ⟨first :: rest, sorted⟩ => some (first, ⟨rest, (List.sorted_cons.mp sorted).2⟩)

def getFirst (tree : RBTree V) : Option (Int × V) := tree.entries.head?

def len (tree : RBTree V) : Nat := tree.entries.length

def isEmpty (tree : RBTree V) : Bool := tree.entries.isEmpty

@[simp] theorem insert_entries (tree : RBTree V) (key : Int) (value : V) :
    (tree.insert key value).entries = insertEntry key value tree.entries := rfl

@[simp] theorem new_entries : (new : RBTree V).entries = [] := rfl

theorem popFirst_eq_some {tree : RBTree V} {first : Int × V} {rest : RBTree V} :
    tree.popFirst = some (first, rest) ↔ tree.entries = first :: rest.entries := by
  rcases tree with ⟨_ | ⟨head, tail⟩, sorted⟩ <;> rcases rest with ⟨rest, restSorted⟩
  · simp [popFirst]
  · simp only [popFirst, Option.some.injEq, Prod.mk.injEq, RBTree.mk.injEq, List.cons.injEq]

theorem popFirst_eq_none {tree : RBTree V} : tree.popFirst = none ↔ tree.entries = [] := by
  rcases tree with ⟨_ | ⟨head, tail⟩, sorted⟩ <;> simp [popFirst]

end RBTree

end DragonOS
