import GuestResume.Memory.Entry
import Std.Data.TreeMap

/-! A guest's virtual layout: which page is mapped to which frame, and with what permission. It is
kept as a radix tree over the indices of an address, so that it has the shape of the page table it
will be written out as. Writing it out freezes it. -/

namespace GuestResume

structure Leaf where
  frame : Address
  permission : Permission
  deriving DecidableEq

/-- What lies below the indices of a table that are in use. -/
abbrev Branches (α : Type) : Type :=
  Std.TreeMap Nat α compare

/-- A tree of height zero is a leaf. A higher one has a subtree for every index that is in use. -/
def Tree : Nat → Type
  | 0 => Leaf
  | height + 1 => Branches (Tree height)

namespace Tree

def branches {height : Nat} (tree : Tree (height + 1)) : Branches (Tree height) :=
  tree

def ofBranches {height : Nat} (branches : Branches (Tree height)) : Tree (height + 1) :=
  branches

@[simp]
theorem branches_ofBranches {height : Nat} (branches : Branches (Tree height)) :
    (ofBranches branches).branches = branches :=
  rfl

def empty (height : Nat) : Tree (height + 1) :=
  ofBranches ∅

/-- The subtrees in ascending order of their indices. -/
def children {height : Nat} (tree : Tree (height + 1)) : List (Nat × Tree height) :=
  tree.branches.toList

def child? {height : Nat} (tree : Tree (height + 1)) (index : Nat) : Option (Tree height) :=
  tree.branches[index]?

def setChild {height : Nat} (tree : Tree (height + 1)) (index : Nat) (child : Tree height) :
    Tree (height + 1) :=
  ofBranches (tree.branches.insert index child)

@[simp]
theorem child?_empty {height : Nat} (index : Nat) : (empty height).child? index = none := by
  simp [empty, child?]

theorem child?_setChild {height : Nat} (tree : Tree (height + 1)) (index other : Nat)
    (child : Tree height) :
    (tree.setChild index child).child? other =
      if index = other then some child else tree.child? other := by
  simp [setChild, child?, Std.TreeMap.getElem?_insert]

/-- The tree with this one leaf. -/
def single (gva : Address) (leaf : Leaf) : (height : Nat) → Tree height
  | 0 => leaf
  | height + 1 => (empty height).setChild (gva.index height) (single gva leaf height)

def insert (gva : Address) (leaf : Leaf) : {height : Nat} → Tree height → Tree height
  | 0, _ => leaf
  | height + 1, tree =>
    let index := gva.index height
    match tree.child? index with
    | some child => tree.setChild index (insert gva leaf child)
    | none => tree.setChild index (single gva leaf height)

def find? (gva : Address) : {height : Nat} → Tree height → Option Leaf
  | 0, leaf => some leaf
  | height + 1, tree => (tree.child? (gva.index height)).bind (find? gva)

/-- Two addresses select the same entries below a height. -/
def SamePath (height : Nat) (a b : Address) : Prop :=
  ∀ level < height, a.index level = b.index level

instance (height : Nat) (a b : Address) : Decidable (SamePath height a b) :=
  inferInstanceAs (Decidable (∀ level < height, a.index level = b.index level))

theorem samePath_succ {height : Nat} {a b : Address} :
    SamePath (height + 1) a b ↔ a.index height = b.index height ∧ SamePath height a b := by
  constructor
  · intro same
    exact ⟨same height (by omega), fun level below => same level (by omega)⟩
  · intro same level below
    obtain rfl | lower := Nat.eq_or_lt_of_le (Nat.le_of_lt_succ below)
    · exact same.1
    · exact same.2 level lower

theorem find?_single (gva other : Address) (leaf : Leaf) (height : Nat) :
    (single gva leaf height).find? other =
      if SamePath height gva other then some leaf else none := by
  induction height with
  | zero => simp [single, find?, SamePath]
  | succ height ih =>
    by_cases same : gva.index height = other.index height
    · simp [single, find?, child?_setChild, samePath_succ, same, ih]
    · simp [single, find?, child?_setChild, samePath_succ, same]

/-- An insertion is seen at every address with the same path and nowhere else. -/
theorem find?_insert (gva other : Address) (leaf : Leaf) {height : Nat} (tree : Tree height) :
    (tree.insert gva leaf).find? other =
      if SamePath height gva other then some leaf else tree.find? other := by
  induction height with
  | zero => simp [insert, find?, SamePath]
  | succ height ih =>
    by_cases same : gva.index height = other.index height
    · cases found : tree.child? (other.index height) with
      | none => simp [insert, find?, child?_setChild, samePath_succ, same, found, find?_single]
      | some child => simp [insert, find?, child?_setChild, samePath_succ, same, found, ih]
    · cases found : tree.child? (gva.index height) with
      | none => simp [insert, find?, child?_setChild, samePath_succ, same, found]
      | some child => simp [insert, find?, child?_setChild, samePath_succ, same, found]

/-- The leaves with their paths, in ascending order. -/
def leaves : {height : Nat} → Tree height → List (List Nat × Leaf)
  | 0, leaf => [([], leaf)]
  | _ + 1, tree =>
    tree.children.flatMap fun (index, child) =>
      child.leaves.map fun (path, leaf) => (index :: path, leaf)

/-- How many tables the tree is written out as. -/
def tableCount : {height : Nat} → Tree height → Nat
  | 0, _ => 0
  | _ + 1, tree => 1 + (tree.children.map fun (_, child) => child.tableCount).sum

end Tree

/-- One mapped page. -/
structure Mapping where
  page : Address
  frame : Address
  permission : Permission
  deriving DecidableEq

structure Layout where
  tree : Tree 4 := Tree.empty 3
  size : Nat := 0
  frozen : Bool := false

namespace Layout

def leaf? (layout : Layout) (gva : Address) : Option Leaf :=
  layout.tree.find? gva

/-- Maps the page of `gva` to the frame of `gpa`. A page that is mapped already is mapped anew. -/
def insert (layout : Layout) (gva gpa : Address) (permission : Permission) :
    Except MemoryError Layout :=
  if layout.frozen then .error .tableFrozen
  else if ¬gva.IsCanonical then .error (.nonCanonical gva)
  else if Address.physicalLimit ≤ gpa.toNat then .error (.beyondLimit gpa)
  else .ok { layout with
    tree := layout.tree.insert gva ⟨gpa.pageStart, permission⟩
    size := if (layout.leaf? gva).isSome then layout.size else layout.size + 1 }

def insertByTag (layout : Layout) (gva gpa : Address) (tag : UInt32) :
    Except MemoryError Layout := do
  layout.insert gva gpa (← Permission.ofTag tag)

def physical (layout : Layout) (gva : Address) : Except MemoryError Address :=
  if ¬gva.IsCanonical then .error (.nonCanonical gva)
  else match layout.leaf? gva with
    | some leaf => .ok (leaf.frame + UInt64.ofNat gva.offset)
    | none => .error (.unmapped gva)

/-- Only the bits that select table entries count. -/
def permission? (layout : Layout) (gva : Address) : Option Permission :=
  (layout.leaf? gva).map Leaf.permission

/-- In ascending order of the indices. -/
def mappings (layout : Layout) : List Mapping :=
  layout.tree.leaves.map fun (path, leaf) => ⟨Address.ofIndices path, leaf.frame, leaf.permission⟩

def frames (layout : Layout) : List Address :=
  layout.mappings.map Mapping.frame

def isEmpty (layout : Layout) : Bool :=
  layout.size = 0

/-- The tables that the layout is written out as, the root included. -/
def tableCount (layout : Layout) : Nat :=
  layout.tree.tableCount

/-- The first page above all frames. -/
def freeBase (layout : Layout) : Address :=
  layout.frames.foldl (fun base frame => max base (frame + UInt64.ofNat Address.pageSize)) 0

end Layout

end GuestResume
