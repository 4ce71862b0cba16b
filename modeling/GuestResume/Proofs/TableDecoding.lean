import GuestResume.Proofs.LayoutMappings
import GuestResume.Proofs.RecordLookups
import GuestResume.Proofs.TableInUse
import Mathlib.Data.List.Sort

/-! Reading a written table back. In every table the entries of subtrees are found where they were written,
and the other entries are absent. So the enumeration comes from level to level by the subtrees of a layout in
the order of their indices, and ends with one record for every leaf. -/

namespace GuestResume

/-- Of the numbers below a bound, only those that pick something count. -/
theorem filterMap_range_eq {α : Type} {count : Nat} {keys : List Nat} (sorted : keys.Pairwise (· < ·))
    (inside : ∀ key ∈ keys, key < count) {pick : Nat → Option α}
    (absent : ∀ index < count, index ∉ keys → pick index = none) :
    (List.range count).filterMap pick = keys.filterMap pick := by
  have listed : (List.range count).filter (· ∈ keys) = keys := by
    apply List.SortedLT.eq_of_mem_iff
    · exact (List.pairwise_lt_range.filter _).sortedLT
    · exact sorted.sortedLT
    · intro index
      rw [List.mem_filter, List.mem_range, decide_eq_true_eq]
      exact and_iff_right_of_imp (inside index)
  have picked := congrArg (List.filterMap pick) listed
  rw [← picked, List.filterMap_filter]
  apply List.filterMap_congr
  intro index member
  by_cases key : index ∈ keys
  · simp [key]
  · simp [key, absent index (List.mem_range.mp member) key]

namespace Subtable

theorem record?_zero (level : Nat) (table : Subtable) (index : Nat) : table.record? level index 0 = none :=
  if_neg (by decide)

theorem below?_zero (level : Nat) (table : Subtable) (index : Nat) : table.below? level index 0 = none :=
  if_neg fun node => absurd node.1 (by decide)

end Subtable

/-- A subtree of a layout, with the path to it and the place where its first table lies. -/
structure Branch (height : Nat) where
  path : List Nat
  base : Address
  tree : Tree height

/-- How an enumeration tells of a mapping. -/
def Mapping.record (mapping : Mapping) : Record :=
  ⟨mapping.page, mapping.frame, .size4K, mapping.permission.flags⟩

/-- The record of a leaf at the end of a path. -/
def Leaf.record (leaf : Leaf) (path : List Nat) : Record :=
  Mapping.record ⟨Address.ofIndices path, leaf.frame, leaf.permission⟩

namespace Branch

variable {height : Nat} {space : Space}

def subtable (branch : Branch (height + 1)) : Subtable :=
  ⟨branch.base, branch.path⟩

/-- The subtrees with their indices and the places they were given. -/
def placed (branch : Branch (height + 1)) : List (Nat × Tree height × Address) :=
  Tree.place (Tree.pagesAfter branch.base 1) branch.tree.children

def below (branch : Branch (height + 1)) : List (Branch height) :=
  branch.placed.map fun (index, child, address) => ⟨branch.path ++ [index], address, child⟩

/-- The leaves of the subtree, in ascending order. -/
def records (branch : Branch height) : List Record :=
  branch.tree.leaves.map fun (path, leaf) => leaf.record (branch.path ++ path)

theorem records_zero (branch : Branch 0) : branch.records = [Leaf.record branch.tree branch.path] := by
  simp [records, Tree.leaves]

theorem records_succ (branch : Branch (height + 1)) : branch.records = branch.below.flatMap records := by
  have children := Tree.map_place (Tree.pagesAfter branch.base 1) branch.tree.children
  rw [records, Tree.leaves, ← children, below, placed, List.flatMap_map, List.flatMap_map, List.map_flatMap]
  apply List.flatMap_congr
  rintro ⟨index, child, address⟩ -
  simp [records, Function.comp_def]

/-- The tables of the subtree are bound where they belong. -/
structure Written (space : Space) (branch : Branch height) : Prop where
  aligned : branch.base.IsAligned
  fits : branch.base.toNat + Address.pageSize * branch.tree.tableCount ≤ Address.physicalLimit
  held : space.Holds (branch.tree.image branch.base)
  valid : branch.tree.Valid

namespace Written

variable {branch : Branch (height + 1)}

theorem entryAt_placed (written : branch.Written space) {index : Nat} {child : Tree height} {address : Address}
    (member : (index, child, address) ∈ branch.placed) :
    Tree.Below space branch.base branch.tree child address ∧
      space.entryAt branch.base index = child.entry address := by
  have inside := (written.valid index child (Tree.child?_placed member)).1
  obtain ⟨below, read⟩ := Tree.readEntry_placed written.aligned written.fits written.held inside member
  exact ⟨below, (Space.readEntry_ok read).1.symm⟩

theorem entryAt_absent (written : branch.Written space) {index : Nat} (inside : index < Address.entriesPerTable)
    (absent : branch.tree.child? index = none) : space.entryAt branch.base index = 0 :=
  (Space.readEntry_ok (Tree.readEntry_absent written.aligned written.held inside absent)).1.symm

theorem readable (written : branch.Written space) : space.Readable branch.base := by
  intro index inside
  have read : ∃ entry, Space.bus.readEntry branch.base index space = .ok entry space := by
    cases present : branch.tree.child? index with
    | none => exact ⟨0, Tree.readEntry_absent written.aligned written.held inside present⟩
    | some child =>
      obtain ⟨lower, -, read⟩ :=
        Tree.readEntry_present written.aligned written.fits written.held inside present
      exact ⟨_, read⟩
  obtain ⟨entry, read⟩ := read
  rwa [(Space.readEntry_ok read).1] at read

theorem below (written : branch.Written space) : ∀ lower ∈ branch.below, lower.Written space := by
  intro lower member
  obtain ⟨⟨index, child, address⟩, placed, rfl⟩ := List.mem_map.mp member
  obtain ⟨below, -⟩ := written.entryAt_placed placed
  exact ⟨below.aligned, below.fits, below.held, (written.valid index child (Tree.child?_placed placed)).2⟩

/-- What is picked from a written table is picked from the entries of its subtrees, where nothing is picked for
an absent entry. -/
theorem filterMap_entries {α : Type} (written : branch.Written space) (pick : Nat → Entry → Option α)
    (absent : ∀ index, pick index 0 = none) :
    ((List.range Address.entriesPerTable).filterMap fun index => pick index (space.entryAt branch.base index)) =
      branch.placed.filterMap fun (index, child, address) => pick index (child.entry address) := by
  have keys : branch.placed.map Prod.fst = branch.tree.children.map Prod.fst := Tree.map_fst_place ..
  rw [@filterMap_range_eq _ _ (branch.placed.map Prod.fst), List.filterMap_map]
  · apply List.filterMap_congr
    rintro ⟨index, child, address⟩ member
    exact congrArg (pick index) (written.entryAt_placed member).2
  · rw [keys]
    exact branch.tree.sorted_children
  · intro index member
    obtain ⟨⟨_, child, address⟩, placed, rfl⟩ := List.mem_map.mp member
    exact (written.valid _ child (Tree.child?_placed placed)).1
  · intro index inside other
    have free : branch.tree.child? index = none := by
      cases present : branch.tree.child? index with
      | none => rfl
      | some child =>
        rw [keys] at other
        exact absurd (List.mem_map.mpr ⟨_, Tree.mem_children.mpr present, rfl⟩) other
    rw [written.entryAt_absent inside free]
    exact absent index

end Written

/-- An entry above the last level leads to the tables of its subtree. -/
theorem Written.below?_placed {branch : Branch (height + 2)} (written : branch.Written space) {index : Nat}
    {child : Tree (height + 1)} {address : Address} (member : (index, child, address) ∈ branch.placed) :
    branch.subtable.below? (height + 1) index (child.entry address) = some ⟨address, branch.path ++ [index]⟩ := by
  obtain ⟨lower, -⟩ := written.entryAt_placed member
  have frame : (child.entry address).frame = address :=
    Entry.frame_make lower.aligned (lower.inside (Nat.succ_pos _)) (by decide)
  rw [Subtable.below?, if_pos ⟨Tree.isPresent_entry child address, Tree.leafSize?_entry child address⟩, frame]
  rfl

/-- It maps nothing by itself. -/
theorem record?_entry (table : Subtable) (index : Nat) (child : Tree (height + 1)) (address : Address) :
    table.record? (height + 1) index (child.entry address) = none := by
  rw [Subtable.record?, if_pos (Tree.isPresent_entry child address), Tree.leafSize?_entry]
  rfl

theorem record?_leaf (branch : Branch 1) (index : Nat) {leaf : Tree 0} (valid : leaf.Valid) (address : Address) :
    branch.subtable.record? 0 index (leaf.entry address) = some (Leaf.record leaf (branch.path ++ [index])) := by
  have mapped : Leaf.Valid leaf := valid
  have frame : (leaf.entry address).frame = leaf.frame :=
    Entry.frame_make mapped.aligned mapped.below (Permission.flags_outside _)
  have flags : (leaf.entry address).flags = leaf.permission.flags :=
    (Entry.flags_make _ _).trans (Permission.flags_named _)
  rw [Subtable.record?, if_pos (Tree.isPresent_entry leaf address)]
  simp only [Entry.leafSize?, Option.map_some, frame, flags, List.replicate_zero, subtable, Leaf.record,
    Mapping.record]

/-- What is picked from written tables is picked from the entries of one table after the other. -/
theorem filterMap_tables {α : Type} {branches : List (Branch (height + 1))}
    (written : ∀ branch ∈ branches, branch.Written space) (pick : Subtable → Nat → Entry → Option α)
    (absent : ∀ table index, pick table index 0 = none) :
    ((Subtable.slots (branches.map subtable)).filterMap fun (table, index) =>
      pick table index (space.entryAt table.table index)) =
    branches.flatMap fun branch => branch.placed.filterMap fun (index, child, address) =>
      pick branch.subtable index (child.entry address) := by
  simp only [Subtable.slots, List.flatMap_map, List.filterMap_flatMap, List.filterMap_map]
  apply List.flatMap_congr
  intro branch member
  exact (written branch member).filterMap_entries (pick branch.subtable) (absent branch.subtable)

theorem nodes_written {branches : List (Branch (height + 2))} (written : ∀ branch ∈ branches, branch.Written space) :
    space.nodes (height + 1) (branches.map subtable) = (branches.flatMap below).map subtable := by
  refine (filterMap_tables written _ (Subtable.below?_zero (height + 1))).trans ?_
  rw [List.map_flatMap]
  apply List.flatMap_congr
  intro branch member
  rw [below, List.map_map, ← List.filterMap_eq_map]
  apply List.filterMap_congr
  rintro ⟨index, child, address⟩ placed
  exact (written branch member).below?_placed placed

theorem leaves_above {branches : List (Branch (height + 2))} (written : ∀ branch ∈ branches, branch.Written space) :
    space.leaves (height + 1) (branches.map subtable) = [] := by
  refine (filterMap_tables written _ (Subtable.record?_zero (height + 1))).trans ?_
  apply List.flatMap_eq_nil_iff.mpr
  intro branch _
  apply List.filterMap_eq_nil_iff.mpr
  rintro ⟨index, child, address⟩ -
  exact record?_entry branch.subtable index child address

theorem leaves_written {branches : List (Branch 1)} (written : ∀ branch ∈ branches, branch.Written space) :
    space.leaves 0 (branches.map subtable) = branches.flatMap records := by
  refine (filterMap_tables written _ (Subtable.record?_zero 0)).trans ?_
  apply List.flatMap_congr
  intro branch member
  simp only [records_succ, below, List.flatMap_map, records_zero, ← List.map_eq_flatMap]
  rw [← List.filterMap_eq_map]
  apply List.filterMap_congr
  rintro ⟨index, leaf, address⟩ placed
  exact record?_leaf branch index ((written branch member).valid index leaf (Tree.child?_placed placed)).2 address

theorem readable_tables {branches : List (Branch (height + 1))}
    (written : ∀ branch ∈ branches, branch.Written space) :
    ∀ table ∈ branches.map subtable, space.Readable table.table := by
  intro table member
  obtain ⟨branch, listed, rfl⟩ := List.mem_map.mp member
  exact (written branch listed).readable

/-- From written tables the enumeration comes to the leaves of their subtrees, and to nothing else. -/
theorem enumerate_written {branches : List (Branch (height + 1))}
    (written : ∀ branch ∈ branches, branch.Written space) :
    Space.bus.enumerate height (branches.map subtable) space = .ok (branches.flatMap records) space := by
  have readable := readable_tables written
  induction height with
  | zero => rw [Space.enumerate_zero_eq readable, leaves_written written]
  | succ height ih =>
    have lower : ∀ branch ∈ branches.flatMap below, branch.Written space := by
      intro branch member
      obtain ⟨upper, listed, inside⟩ := List.mem_flatMap.mp member
      exact (written upper listed).below branch inside
    have further := ih lower (readable_tables lower)
    rw [← nodes_written written] at further
    rw [Space.enumerate_succ_eq readable further, leaves_above written, List.nil_append, List.flatMap_assoc]
    simp only [← records_succ]

end Branch

namespace Layout

variable {layout : Layout} {base : Address} {space : Space}

/-- The records of a bound table are the mappings of the layout, which need no sorting. -/
theorem records_eq (valid : layout.Valid) (places : layout.Places base)
    (held : space.Holds (layout.tree.image base)) :
    Space.bus.records base space = .ok (layout.mappings.map Mapping.record) space := by
  let root : Branch 4 := ⟨[], base, layout.tree⟩
  have written : ∀ branch ∈ [root], branch.Written space := by
    intro branch member
    cases List.mem_singleton.mp member
    exact ⟨places.aligned, places.fits, held, valid⟩
  have enumerated := Branch.enumerate_written written
  have tables : [root].map Branch.subtable = [⟨base, []⟩] := rfl
  have leaves : [root].flatMap Branch.records = layout.mappings.map Mapping.record := by
    rw [List.flatMap_singleton, Branch.records, mappings, List.map_map]
    rfl
  have sorted : (layout.mappings.map Mapping.record).Pairwise fun a b => decide (a.page ≤ b.page) = true := by
    refine List.pairwise_map.mpr (valid.sorted_mappings.imp fun {a b} before => ?_)
    exact decide_eq_true (UInt64.le_of_lt before)
  rw [tables, leaves] at enumerated
  rw [Bus.records, places.frame_base, Access.bind_ok enumerated]
  exact congrArg (EStateM.Result.ok · space) (List.mergeSort_of_pairwise sorted)

end Layout

/-- A layout made by any insertions, written out and bound, is read back as it is: the enumeration of its table
gives one record for every mapping, in the same order. A record is writable exactly when the last insertion for
its page asked for a data page. -/
theorem records_of_layout (insertions : List Insertion) {base root : Address} {image : TableImage}
    {frozen : Layout} {allocator allocated before after : Space}
    (committed : allocator.commit (Layout.ofInsertions insertions) base = .ok (image, frozen, allocated))
    (bound : Space.bindImage image before = .ok root after) :
    Space.bus.records root after = .ok ((Layout.ofInsertions insertions).mappings.map Mapping.record) after ∧
    ∀ record ∈ (Layout.ofInsertions insertions).mappings.map Mapping.record,
      (record.flags &&& Entry.writable ≠ 0 ↔
        (Insertion.last? insertions record.page).map Mapping.permission = some .data) := by
  obtain ⟨places, rfl, rfl, held, -⟩ := Space.bound_image committed bound
  refine ⟨Layout.records_eq (Layout.valid_ofInsertions insertions) places held, ?_⟩
  intro record member
  obtain ⟨mapping, listed, rfl⟩ := List.mem_map.mp member
  have last : Insertion.last? insertions mapping.record.page = some mapping := Layout.last?_of_mem listed
  rw [last, Option.map_some, Option.some_inj]
  exact Permission.writable_flags

theorem records_of_layout_twoHalves :
    ∃ root after,
      Space.bindImage ⟨0x100000, (Layout.ofInsertions Insertion.twoHalves).tree.image 0x100000⟩
        { policy := .replace } = .ok root after ∧
      Space.bus.records root after =
        .ok [⟨0x400000, 0x1000, .size4K, 0x5⟩, ⟨0xFFFFF80000000000, 0x7000, .size4K, 0x7⟩] after ∧
      (Insertion.last? Insertion.twoHalves 0xFFFFF80000000000).map Mapping.permission = some .data := by
  obtain ⟨root, after, bound⟩ := Access.succeeds_iff.mp (show Access.succeeds (Space.bindImage
    ⟨0x100000, (Layout.ofInsertions Insertion.twoHalves).tree.image 0x100000⟩) { policy := .replace } by
      decide +kernel)
  have listed : (Layout.ofInsertions Insertion.twoHalves).mappings.map Mapping.record =
      [⟨0x400000, 0x1000, .size4K, 0x5⟩, ⟨0xFFFFF80000000000, 0x7000, .size4K, 0x7⟩] := by
    decide +kernel
  have committed : ({} : Space).commit (Layout.ofInsertions Insertion.twoHalves) 0x100000 = .ok (_, _, _) := rfl
  obtain ⟨read, writable⟩ := records_of_layout Insertion.twoHalves committed bound
  rw [listed] at read writable
  have last := (writable ⟨0xFFFFF80000000000, 0x7000, .size4K, 0x7⟩ (by simp)).mp (by decide)
  exact ⟨root, after, bound, read, last⟩

end GuestResume
