import GuestResume.Memory.Walk
import GuestResume.Proofs.SpaceAccess
import GuestResume.Proofs.TableEntries
import GuestResume.Proofs.TablePlacement

/-! Walking a written table finds what its layout maps. The walk goes down one level of the tree per
table, so the proof follows the height of the tree: every entry that is read leads to the tables of
the subtree under the same index, and an index that is not in use has a zero entry. -/

namespace GuestResume

/-- Every page is bound where it belongs, with its content. -/
def Space.Holds (space : Space) (pages : List TablePage) : Prop :=
  ∀ table ∈ pages, space.page? table.address = some table.page

namespace Tree

variable {height : Nat} {base : Address} {space : Space}

/-- Where the tables below an entry lie, and that they are bound as well. -/
structure Below (space : Space) (base : Address) (tree : Tree (height + 1)) (child : Tree height)
    (lower : Address) : Prop where
  aligned : lower.IsAligned
  fits : lower.toNat + Address.pageSize * child.tableCount ≤ Address.physicalLimit
  inside : 0 < height → lower.toNat < Address.physicalLimit
  held : space.Holds (child.image lower)

/-- The entries of the first table of a tree, each with its index. -/
def words (base : Address) (tree : Tree (height + 1)) : List (Nat × UInt64) :=
  (place (pagesAfter base 1) tree.children).map fun (index, child, address) => (index, child.entry address)

theorem map_fst_words (base : Address) (tree : Tree (height + 1)) :
    (words base tree).map Prod.fst = tree.children.map Prod.fst := by
  simp only [words, List.map_map, ← map_fst_place (pagesAfter base 1) tree.children]
  rfl

/-- No other entry is written. -/
theorem word_absent {tree : Tree (height + 1)} {index : Nat} (inside : index < Address.entriesPerTable)
    (absent : tree.child? index = none) : (Page.ofWords (words base tree)).word index = 0 := by
  rw [Page.word_ofWords_of_not_mem _ inside]
  rw [map_fst_words]
  intro member
  obtain ⟨⟨_, child⟩, present, rfl⟩ := List.mem_map.mp member
  rw [mem_children.mp present] at absent
  cases absent

theorem word_placed {tree : Tree (height + 1)} {index : Nat} (inside : index < Address.entriesPerTable)
    {child : Tree height} {lower : Address}
    (placed : (index, child, lower) ∈ place (pagesAfter base 1) tree.children) :
    (Page.ofWords (words base tree)).word index = child.entry lower := by
  have distinct : ((words base tree).map Prod.fst).Nodup := by
    rw [map_fst_words]
    exact tree.sorted_children.imp Nat.ne_of_lt
  exact Page.word_ofWords_of_mem _ distinct inside (List.mem_map.mpr ⟨(index, child, lower), placed, rfl⟩)

private theorem root_bound {tree : Tree (height + 1)} (held : space.Holds (tree.image base)) :
    space.page? base = some (Page.ofWords (words base tree)) :=
  held ⟨base, Page.ofWords (words base tree)⟩ List.mem_cons_self

theorem readEntry_absent {tree : Tree (height + 1)} (aligned : base.IsAligned)
    (held : space.Holds (tree.image base)) {index : Nat} (inside : index < Address.entriesPerTable)
    (absent : tree.child? index = none) : Space.bus.readEntry base index space = .ok 0 space := by
  rw [Space.readEntry_bound aligned (root_bound held) inside, word_absent inside absent]

theorem tableCount_pos (tree : Tree (height + 1)) : 0 < tree.tableCount := by
  rw [tableCount_eq]
  omega

/-- The entry of a subtree leads to the subtree's own tables. -/
theorem readEntry_placed {tree : Tree (height + 1)} (aligned : base.IsAligned)
    (fits : base.toNat + Address.pageSize * tree.tableCount ≤ Address.physicalLimit)
    (held : space.Holds (tree.image base)) {index : Nat} (inside : index < Address.entriesPerTable)
    {child : Tree height} {lower : Address}
    (placed : (index, child, lower) ∈ place (pagesAfter base 1) tree.children) :
    Below space base tree child lower ∧
      Space.bus.readEntry base index space = .ok (child.entry lower) space := by
  obtain ⟨skipped, position, within⟩ := mem_place placed
  rw [pagesAfter_add] at position
  rw [tableCount_eq] at fits
  have start : lower.toNat = base.toNat + Address.pageSize * (1 + skipped) := by
    rw [position, toNat_pagesAfter]
    simp only [Address.pageSize] at fits ⊢
    omega
  refine ⟨⟨position ▸ isAligned_pagesAfter aligned _, ?_, ?_, ?_⟩, ?_⟩
  · simp only [start, Address.pageSize] at fits ⊢
    omega
  · intro higher
    obtain ⟨height, rfl⟩ := Nat.exists_eq_succ_of_ne_zero (Nat.ne_of_gt higher)
    have positive := tableCount_pos child
    simp only [start, Address.pageSize] at fits ⊢
    omega
  · intro table member
    exact held table (List.mem_cons_of_mem _ (List.mem_flatMap.mpr ⟨_, placed, member⟩))
  · rw [Space.readEntry_bound aligned (root_bound held) inside, word_placed inside placed]

theorem readEntry_present {tree : Tree (height + 1)} (aligned : base.IsAligned)
    (fits : base.toNat + Address.pageSize * tree.tableCount ≤ Address.physicalLimit)
    (held : space.Holds (tree.image base)) {index : Nat} (inside : index < Address.entriesPerTable)
    {child : Tree height} (present : tree.child? index = some child) :
    ∃ lower, Below space base tree child lower ∧
      Space.bus.readEntry base index space = .ok (child.entry lower) space := by
  obtain ⟨lower, placed⟩ := exists_mem_place (pagesAfter base 1) (mem_children.mpr present)
  exact ⟨lower, readEntry_placed aligned fits held inside placed⟩

theorem isPresent_entry (child : Tree height) (lower : Address) : (child.entry lower).isPresent := by
  cases height with
  | zero => rw [entry, Entry.isPresent_make, Permission.isPresent_flags]
  | succ height =>
    rw [entry, Entry.isPresent_make]
    decide

/-- An entry that leads to another table maps nothing by itself. -/
theorem leafSize?_entry (child : Tree (height + 1)) (lower : Address) :
    (child.entry lower).leafSize? (height + 1) = none := by
  have small : (child.entry lower).isLarge = false := by
    rw [entry, Entry.isLarge_make]
    decide
  match height with
  | 0 | 1 => simp only [Entry.leafSize?, small, Bool.false_eq_true, if_false]
  | _ + 2 => rfl

/-- A lookup in the tree, told as a walk tells it. -/
def target (gva : Address) (tree : Tree height) : Except MemoryError Target :=
  match tree.find? gva with
  | some leaf => .ok ⟨leaf.frame + UInt64.ofNat gva.offset, .size4K⟩
  | none => .error (.unmapped gva)

theorem target_absent {tree : Tree (height + 1)} {gva : Address}
    (absent : tree.child? (gva.index height) = none) : tree.target gva = .error (.unmapped gva) := by
  simp only [target, find?, absent, Option.bind_none]

theorem target_present {tree : Tree (height + 1)} {gva : Address} {child : Tree height}
    (present : tree.child? (gva.index height) = some child) : tree.target gva = child.target gva := by
  simp only [target, find?, present, Option.bind_some]

theorem target_entry {leaf : Tree 0} (valid : leaf.Valid) (lower gva : Address) :
    Except.ok ((leaf.entry lower).target .size4K gva) = leaf.target gva := by
  have mapped : Leaf.Valid leaf := valid
  have frame : (leaf.entry lower).frame = leaf.frame :=
    Entry.frame_make mapped.aligned mapped.below (Permission.flags_outside _)
  rw [Entry.target, frame]
  rfl

theorem presentEntry_absent {tree : Tree (height + 1)} (aligned : base.IsAligned)
    (held : space.Holds (tree.image base)) (gva : Address) (absent : tree.child? (gva.index height) = none) :
    Space.bus.presentEntry gva height base space = .error (.unmapped gva) space := by
  rw [Bus.presentEntry, Access.bind_ok (readEntry_absent aligned held (Address.index_lt height gva) absent)]
  rfl

theorem presentEntry_present {tree : Tree (height + 1)} (aligned : base.IsAligned)
    (fits : base.toNat + Address.pageSize * tree.tableCount ≤ Address.physicalLimit)
    (held : space.Holds (tree.image base)) (gva : Address) {child : Tree height}
    (present : tree.child? (gva.index height) = some child) :
    ∃ lower, Below space base tree child lower ∧
      Space.bus.presentEntry gva height base space = .ok (child.entry lower) space := by
  obtain ⟨lower, below, read⟩ := readEntry_present aligned fits held (Address.index_lt height gva) present
  refine ⟨lower, below, ?_⟩
  rw [Bus.presentEntry, Access.bind_ok read, if_pos (isPresent_entry child lower)]
  rfl

/-- The walk from the root of a bound table is the lookup in the tree. -/
theorem walk_eq {tree : Tree (height + 1)} (valid : tree.Valid) (aligned : base.IsAligned)
    (fits : base.toNat + Address.pageSize * tree.tableCount ≤ Address.physicalLimit)
    (held : space.Holds (tree.image base)) (gva : Address) :
    Space.bus.walk gva height base space = Access.ofExcept (tree.target gva) space := by
  induction height generalizing base with
  | zero =>
    rw [Bus.walk]
    cases present : tree.child? (gva.index 0) with
    | none =>
      rw [Access.bind_error (presentEntry_absent aligned held gva present), target_absent present,
        Access.ofExcept]
    | some leaf =>
      obtain ⟨lower, -, read⟩ := presentEntry_present aligned fits held gva present
      rw [Access.bind_ok read, target_present present, ← target_entry (valid _ _ present).2 lower gva]
      rfl
  | succ height ih =>
    -- The entry leads to the tables of the child, which are bound as well.
    rw [Bus.walk]
    cases present : tree.child? (gva.index (height + 1)) with
    | none =>
      rw [Access.bind_error (presentEntry_absent aligned held gva present), target_absent present,
        Access.ofExcept]
    | some child =>
      obtain ⟨lower, below, read⟩ := presentEntry_present aligned fits held gva present
      have next : (child.entry lower).frame = lower :=
        Entry.frame_make below.aligned (below.inside (Nat.succ_pos _)) (by decide)
      rw [Access.bind_ok read, leafSize?_entry, next, target_present present]
      exact ih (valid _ _ present).2 below.aligned below.fits below.held

end Tree

namespace Layout

variable {layout : Layout} {base : Address} {space : Space}

/-- The base is a page of physical memory, so that nothing of it is lost in an entry. -/
theorem Places.frame_base (places : layout.Places base) : Entry.frame base = base := by
  apply Entry.frame_eq_self places.aligned
  have fits := places.fits
  have positive : 0 < layout.tableCount := Tree.tableCount_pos layout.tree
  simp only [Address.pageSize] at fits
  omega

/-- A lookup through a bound table tells what the layout maps. -/
theorem lookup_eq (valid : layout.Valid) (places : layout.Places base)
    (held : space.Holds (layout.tree.image base)) (gva : Address) :
    Space.bus.lookup base gva space =
      Access.ofExcept ((layout.physical gva).map fun gpa => ⟨gpa, .size4K⟩) space := by
  by_cases canonical : gva.IsCanonical
  · rw [Bus.lookup, if_pos canonical, places.frame_base, Tree.walk_eq valid places.aligned places.fits held]
    simp only [physical, canonical, not_true_eq_false, if_false, Tree.target, leaf?]
    cases layout.tree.find? gva <;> rfl
  · rw [Bus.lookup, if_neg canonical]
    simp only [physical, canonical, not_false_eq_true, if_true]
    rfl

theorem physical_eq (valid : layout.Valid) (places : layout.Places base)
    (held : space.Holds (layout.tree.image base)) (gva : Address) :
    Space.bus.physical base gva space = Access.ofExcept (layout.physical gva) space := by
  have found := lookup_eq valid places held gva
  cases mapped : layout.physical gva with
  | error error =>
    rw [mapped] at found
    exact Access.bind_error found
  | ok gpa =>
    rw [mapped] at found
    exact Access.bind_ok found

end Layout

end GuestResume
