import GuestResume.Proofs.PageAddresses
import Mathlib.Data.List.Induction

/-! Layouts as their callers make them: insertions one after another on an empty layout, a refused
one changing nothing. Every index in such a tree fits into a table, and every leaf maps a whole page
of physical memory. -/

namespace GuestResume

/-- A call that maps a page. The permission is given as such or by its tag. -/
inductive Insertion where
  | plain (gva gpa : Address) (permission : Permission)
  | tagged (gva gpa : Address) (tag : UInt32)

structure Leaf.Valid (leaf : Leaf) : Prop where
  aligned : leaf.frame.IsAligned
  below : leaf.frame.toNat < Address.physicalLimit

namespace Tree

def Valid : {height : Nat} → Tree height → Prop
  | 0, leaf => Leaf.Valid leaf
  | _ + 1, tree => ∀ index child, tree.child? index = some child →
    index < Address.entriesPerTable ∧ child.Valid

theorem mem_children {height : Nat} {tree : Tree (height + 1)} {index : Nat} {child : Tree height} :
    (index, child) ∈ tree.children ↔ tree.child? index = some child :=
  Std.TreeMap.mem_toList_iff_getElem?_eq_some

theorem sorted_children {height : Nat} (tree : Tree (height + 1)) :
    (tree.children.map Prod.fst).Pairwise (· < ·) := by
  have ordered : tree.children.Pairwise (fun a b => compare a.1 b.1 = .lt) := Std.TreeMap.ordered_keys_toList
  exact List.pairwise_map.mpr (ordered.imp Nat.compare_eq_lt.mp)

theorem valid_empty (height : Nat) : (empty height).Valid := by
  intro index child found
  rw [child?_empty] at found
  cases found

theorem Valid.setChild {height : Nat} {tree : Tree (height + 1)} (valid : tree.Valid) {index : Nat}
    {child : Tree height} (inside : index < Address.entriesPerTable) (below : child.Valid) :
    (tree.setChild index child).Valid := by
  intro other found present
  rw [child?_setChild] at present
  split at present
  next same =>
    cases present
    exact ⟨same ▸ inside, below⟩
  next => exact valid other found present

theorem valid_single (gva : Address) {leaf : Leaf} (valid : leaf.Valid) (height : Nat) :
    (single gva leaf height).Valid := by
  induction height with
  | zero => exact valid
  | succ height ih => exact (valid_empty height).setChild (Address.index_lt height gva) ih

theorem Valid.insert (gva : Address) {leaf : Leaf} (fresh : leaf.Valid) {height : Nat}
    {tree : Tree height} (valid : tree.Valid) : (tree.insert gva leaf).Valid := by
  induction height with
  | zero => exact fresh
  | succ height ih =>
    have inside := Address.index_lt height gva
    simp only [Tree.insert]
    split
    next child found => exact valid.setChild inside (ih (valid _ child found).2)
    next => exact valid.setChild inside (valid_single gva fresh height)

theorem Valid.find? {height : Nat} {tree : Tree height} (valid : tree.Valid) {gva : Address} {leaf : Leaf}
    (found : tree.find? gva = some leaf) : leaf.Valid := by
  induction height with
  | zero =>
    cases found
    exact valid
  | succ height ih =>
    obtain ⟨child, present, lower⟩ := Option.bind_eq_some_iff.mp found
    exact ih (valid _ child present).2 lower

theorem find?_samePath {height : Nat} {a b : Address} (path : SamePath height a b) (tree : Tree height) :
    tree.find? a = tree.find? b := by
  induction height with
  | zero => rfl
  | succ height ih =>
    obtain ⟨same, lower⟩ := samePath_succ.mp path
    rw [Tree.find?, Tree.find?, same]
    congr 1
    funext child
    exact ih lower child

/-- The leaves of a tree are those of its subtrees. -/
theorem mem_leaves {height : Nat} {tree : Tree (height + 1)} {path : List Nat} {leaf : Leaf} :
    (path, leaf) ∈ tree.leaves ↔ ∃ index child rest,
      tree.child? index = some child ∧ (rest, leaf) ∈ child.leaves ∧ path = index :: rest := by
  constructor
  · intro member
    obtain ⟨⟨index, child⟩, present, inside⟩ := List.mem_flatMap.mp member
    obtain ⟨⟨rest, _⟩, below, same⟩ := List.mem_map.mp inside
    cases same
    exact ⟨index, child, rest, mem_children.mp present, below, rfl⟩
  · rintro ⟨index, child, rest, present, below, rfl⟩
    exact List.mem_flatMap.mpr ⟨_, mem_children.mpr present, List.mem_map.mpr ⟨_, below, rfl⟩⟩

/-- A leaf that is found stands under the indices of the address. -/
theorem mem_leaves_of_find? {height : Nat} {tree : Tree height} {gva : Address} {leaf : Leaf}
    (found : tree.find? gva = some leaf) :
    ((List.range height).reverse.map fun level => gva.index level, leaf) ∈ tree.leaves := by
  induction height with
  | zero =>
    cases found
    exact List.mem_singleton.mpr rfl
  | succ height ih =>
    obtain ⟨child, present, lower⟩ := Option.bind_eq_some_iff.mp found
    refine mem_leaves.mpr ⟨_, child, _, present, ih lower, ?_⟩
    rw [List.range_succ, List.reverse_append]
    rfl

end Tree

namespace Layout

def apply (layout : Layout) : Insertion → Except MemoryError Layout
  | .plain gva gpa permission => layout.insert gva gpa permission
  | .tagged gva gpa tag => layout.insertByTag gva gpa tag

/-- A refused insertion changes nothing. -/
def perform (layout : Layout) (insertion : Insertion) : Layout :=
  match layout.apply insertion with
  | .ok changed => changed
  | .error _ => layout

def ofInsertions (insertions : List Insertion) : Layout :=
  insertions.foldl perform {}

def Valid (layout : Layout) : Prop :=
  layout.tree.Valid

theorem insert_ok {layout changed : Layout} {gva gpa : Address} {permission : Permission}
    (inserted : layout.insert gva gpa permission = .ok changed) :
    Leaf.Valid ⟨gpa.pageStart, permission⟩ ∧
      changed.tree = layout.tree.insert gva ⟨gpa.pageStart, permission⟩ ∧ changed.frozen = false := by
  simp only [Layout.insert] at inserted
  split at inserted
  · cases inserted
  next melted =>
    split at inserted
    · cases inserted
    · split at inserted
      · cases inserted
      next below =>
        cases inserted
        refine ⟨⟨Address.isAligned_pageStart gpa, ?_⟩, rfl, Bool.eq_false_iff.mpr melted⟩
        rw [Address.toNat_pageStart]
        simp only [Address.physicalLimit, Address.pageSize] at below ⊢
        omega

/-- A call that is not refused changes the tree in one place. -/
theorem apply_ok {layout changed : Layout} {insertion : Insertion}
    (applied : layout.apply insertion = .ok changed) :
    ∃ gva leaf, leaf.Valid ∧ changed.tree = layout.tree.insert gva leaf ∧ changed.frozen = false := by
  cases insertion with
  | plain gva gpa permission => exact ⟨gva, _, insert_ok applied⟩
  | tagged gva gpa tag =>
    simp only [Layout.apply, insertByTag] at applied
    cases known : Permission.ofTag tag with
    | error error =>
      rw [known] at applied
      cases applied
    | ok permission =>
      rw [known] at applied
      exact ⟨gva, _, insert_ok applied⟩

/-- The layouts that insertions lead to, also when one was written out on the way. -/
inductive Reached : Layout → Prop where
  | new : Reached {}
  | performed {layout} (insertion : Insertion) (earlier : Reached layout) : Reached (layout.perform insertion)
  | frozen {layout} (earlier : Reached layout) : Reached layout.freeze

/-- What insertions keep holds of the tree of any layout. -/
theorem Reached.tree_keeps (kept : Tree 4 → Prop) (empty : kept (Tree.empty 3))
    (insert : ∀ gva leaf tree, Leaf.Valid leaf → kept tree → kept (tree.insert gva leaf)) {layout : Layout}
    (reached : layout.Reached) : kept layout.tree := by
  induction reached with
  | new => exact empty
  | @performed layout insertion earlier ih =>
    rw [perform]
    split
    next changed applied =>
      obtain ⟨gva, leaf, valid, tree, -⟩ := apply_ok applied
      rw [tree]
      exact insert gva leaf _ valid ih
    next => exact ih
  | frozen earlier ih => exact ih

theorem Reached.valid {layout : Layout} (reached : layout.Reached) : layout.Valid :=
  reached.tree_keeps Tree.Valid (Tree.valid_empty 3) fun gva _ _ fresh valid => valid.insert gva fresh

theorem ofInsertions_append (earlier : List Insertion) (insertion : Insertion) :
    ofInsertions (earlier ++ [insertion]) = (ofInsertions earlier).perform insertion :=
  List.foldl_append

theorem reached_ofInsertions (insertions : List Insertion) : (ofInsertions insertions).Reached := by
  induction insertions using List.reverseRecOn with
  | nil => exact .new
  | append_singleton earlier insertion ih => exact ofInsertions_append earlier insertion ▸ ih.performed insertion

theorem melted_ofInsertions (insertions : List Insertion) : (ofInsertions insertions).frozen = false := by
  induction insertions using List.reverseRecOn with
  | nil => rfl
  | append_singleton earlier insertion ih =>
    rw [ofInsertions_append, perform]
    split
    next changed applied =>
      obtain ⟨-, -, -, -, melted⟩ := apply_ok applied
      exact melted
    next => exact ih

theorem valid_ofInsertions (insertions : List Insertion) : (ofInsertions insertions).Valid :=
  (reached_ofInsertions insertions).valid

end Layout

end GuestResume
