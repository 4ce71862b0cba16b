import GuestResume.Memory.Table
import GuestResume.Proofs.LayoutHistory
import Mathlib.Algebra.GroupWithZero.Nat

/-! Where the tables of a layout lie. They take consecutive pages from the base upwards, the tables
below one entry before those below the next, so that no two of them share a page. -/

namespace GuestResume

namespace Tree

variable {height : Nat} {base : Address}

@[simp]
theorem pagesAfter_zero (base : Address) : pagesAfter base 0 = base := by simp [pagesAfter]

@[simp]
theorem pagesAfter_add (base : Address) (first second : Nat) :
    pagesAfter (pagesAfter base first) second = pagesAfter base (first + second) := by
  simp only [pagesAfter, Nat.mul_add, UInt64.ofNat_add, UInt64.add_assoc]

private theorem pagesAfter_shift (base : Address) (first : Nat) :
    pagesAfter (pagesAfter base first) = fun second => pagesAfter base (first + second) :=
  funext (pagesAfter_add base first)

theorem isAligned_pagesAfter (aligned : base.IsAligned) (count : Nat) :
    (pagesAfter base count).IsAligned := by
  rw [Address.isAligned_iff] at aligned ⊢
  simp only [pagesAfter, Address.pageSize, UInt64.toNat_add, UInt64.toNat_ofNat'] at aligned ⊢
  omega

theorem toNat_pagesAfter {count : Nat}
    (fits : base.toNat + Address.pageSize * count ≤ Address.physicalLimit) :
    (pagesAfter base count).toNat = base.toNat + Address.pageSize * count := by
  simp only [Address.pageSize, Address.physicalLimit] at fits
  simp only [pagesAfter, Address.pageSize, UInt64.toNat_add, UInt64.toNat_ofNat']
  omega

def totalCount (children : List (Nat × Tree height)) : Nat :=
  (children.map fun (_, child) => child.tableCount).sum

theorem tableCount_eq (tree : Tree (height + 1)) : tree.tableCount = 1 + totalCount tree.children := rfl

/-- Without their places, the placed subtrees are the subtrees. -/
theorem map_place (base : Address) (children : List (Nat × Tree height)) :
    (place base children).map (fun (index, child, _) => (index, child)) = children := by
  induction children generalizing base with
  | nil => rfl
  | cons child rest ih => simp only [place, List.map_cons, ih]

theorem map_fst_place (base : Address) (children : List (Nat × Tree height)) :
    (place base children).map Prod.fst = children.map Prod.fst := by
  have same := congrArg (List.map Prod.fst) (map_place base children)
  rwa [List.map_map] at same

theorem child?_placed {start address : Address} {tree : Tree (height + 1)} {index : Nat} {child : Tree height}
    (placed : (index, child, address) ∈ place start tree.children) : tree.child? index = some child := by
  apply mem_children.mp
  rw [← map_place start tree.children]
  exact List.mem_map_of_mem (f := fun (index, child, _) => (index, child)) placed

theorem mem_place {base address : Address} {children : List (Nat × Tree height)} {index : Nat}
    {child : Tree height} (member : (index, child, address) ∈ place base children) :
    ∃ skipped, address = pagesAfter base skipped ∧ skipped + child.tableCount ≤ totalCount children := by
  induction children generalizing base with
  | nil => cases member
  | cons head rest ih =>
    simp only [place, List.mem_cons] at member
    simp only [totalCount, List.map_cons, List.sum_cons] at ih ⊢
    rcases member with first | later
    · cases first
      exact ⟨0, (pagesAfter_zero address).symm, by omega⟩
    · obtain ⟨skipped, rfl, within⟩ := ih later
      exact ⟨head.2.tableCount + skipped, pagesAfter_add .., by omega⟩

theorem exists_mem_place (base : Address) {children : List (Nat × Tree height)} {index : Nat}
    {child : Tree height} (member : (index, child) ∈ children) :
    ∃ address, (index, child, address) ∈ place base children := by
  induction children generalizing base with
  | nil => cases member
  | cons head rest ih =>
    simp only [place, List.mem_cons] at member ⊢
    rcases member with first | later
    · cases first
      exact ⟨base, .inl rfl⟩
    · obtain ⟨address, found⟩ := ih (pagesAfter base head.2.tableCount) later
      exact ⟨address, .inr found⟩

private theorem addresses_place (base : Address) (children : List (Nat × Tree height))
    (each : ∀ base (child : Tree height),
      (child.image base).map TablePage.address = (List.range child.tableCount).map (pagesAfter base)) :
    ((place base children).flatMap fun (_, child, address) => child.image address).map TablePage.address =
      (List.range (totalCount children)).map (pagesAfter base) := by
  induction children generalizing base with
  | nil => rfl
  | cons head rest ih =>
    obtain ⟨index, child⟩ := head
    simp only [place, List.flatMap_cons, List.map_append, each, ih]
    simp only [totalCount, List.map_cons, List.sum_cons, List.range_add, List.map_append, List.map_map,
      Function.comp_def, pagesAfter_shift]

/-- The tables take one page after the other. -/
theorem addresses_image (base : Address) (tree : Tree height) :
    (tree.image base).map TablePage.address = (List.range tree.tableCount).map (pagesAfter base) := by
  induction height generalizing base with
  | zero => rfl
  | succ height ih =>
    simp only [image, List.map_cons, addresses_place _ _ ih, tableCount_eq, List.range_add,
      List.map_append, List.map_map, Function.comp_def, pagesAfter_shift]
    simp

theorem mem_addresses_image {tree : Tree height} {table : Address} :
    table ∈ (tree.image base).map TablePage.address ↔
      ∃ number < tree.tableCount, pagesAfter base number = table := by
  simp [addresses_image]

theorem sorted_addresses_image (tree : Tree height)
    (fits : base.toNat + Address.pageSize * tree.tableCount ≤ Address.physicalLimit) :
    ((tree.image base).map TablePage.address).Pairwise (· < ·) := by
  rw [addresses_image]
  refine List.pairwise_map.mpr (List.pairwise_lt_range.imp_of_mem ?_)
  intro first second firstInside secondInside before
  rw [List.mem_range] at firstInside secondInside
  simp only [Address.pageSize] at fits
  rw [UInt64.lt_iff_toNat_lt, toNat_pagesAfter, toNat_pagesAfter]
  all_goals simp only [Address.pageSize]
  all_goals omega

theorem nodup_addresses_image (tree : Tree height)
    (fits : base.toNat + Address.pageSize * tree.tableCount ≤ Address.physicalLimit) :
    ((tree.image base).map TablePage.address).Nodup :=
  (sorted_addresses_image tree fits).imp UInt64.ne_of_lt

end Tree

/-- There is room for the tables, and no frame is in their way. -/
structure Layout.Places (layout : Layout) (base : Address) : Prop where
  aligned : base.IsAligned
  fits : base.toNat + Address.pageSize * layout.tableCount ≤ Address.physicalLimit
  free : ∀ frame ∈ layout.frames, ¬(base ≤ frame ∧
    frame.toNat < base.toNat + Address.pageSize * layout.tableCount)

namespace Layout

variable {layout : Layout} {base : Address}

theorem image_ok {image : TableImage} (written : layout.image base = .ok image) :
    layout.Places base ∧ image = ⟨base, layout.tree.image base⟩ := by
  simp only [Layout.image] at written
  split at written
  · cases written
  · split at written
    · cases written
    next aligned =>
      split at written
      · cases written
      next fits =>
        split at written
        · cases written
        next apart =>
          cases written
          refine ⟨⟨Decidable.not_not.mp aligned, Nat.le_of_not_lt fits, ?_⟩, rfl⟩
          simp only [overlap?, List.min?_eq_none_iff, List.filter_eq_nil_iff, decide_eq_true_eq] at apart
          exact apart

theorem not_frozen_of_image {image : TableImage} (written : layout.image base = .ok image) :
    layout.frozen = false := by
  simp only [Layout.image] at written
  split at written
  · cases written
  next melted => exact Bool.eq_false_iff.mpr melted

/-- A layout is written out unless that was done before or its tables cannot lie there. -/
theorem image_ok_iff :
    layout.image base = .ok ⟨base, layout.tree.image base⟩ ↔ layout.frozen = false ∧ layout.Places base := by
  constructor
  · intro written
    exact ⟨not_frozen_of_image written, (image_ok written).1⟩
  · rintro ⟨melted, places⟩
    have free : layout.overlap? base (base.toNat + Address.pageSize * layout.tableCount) = none := by
      simp only [overlap?, List.min?_eq_none_iff, List.filter_eq_nil_iff, decide_eq_true_eq]
      exact places.free
    rw [Layout.image, if_neg (Bool.eq_false_iff.mp melted), if_neg (not_not_intro places.aligned),
      if_neg (Nat.not_lt.mpr places.fits), free]

theorem mem_frames {path : List Nat} {leaf : Leaf} (member : (path, leaf) ∈ layout.tree.leaves) :
    leaf.frame ∈ layout.frames :=
  List.mem_map.mpr ⟨_, List.mem_map.mpr ⟨_, member, rfl⟩, rfl⟩

theorem frame_mem {gva : Address} {leaf : Leaf} (found : layout.leaf? gva = some leaf) :
    leaf.frame ∈ layout.frames :=
  mem_frames (Tree.mem_leaves_of_find? found)

/-- The tables lie in the range that was kept free for them. -/
theorem Places.within (places : layout.Places base) {table : Address}
    (member : table ∈ (layout.tree.image base).map TablePage.address) :
    base ≤ table ∧ table.toNat < base.toNat + Address.pageSize * layout.tableCount := by
  obtain ⟨number, inside, same⟩ := Tree.mem_addresses_image.mp member
  have fits := places.fits
  simp only [tableCount, Address.pageSize] at fits
  have position : (Tree.pagesAfter base number).toNat = base.toNat + Address.pageSize * number :=
    Tree.toNat_pagesAfter (by simp only [Address.pageSize]; omega)
  rw [← same, UInt64.le_iff_toNat_le, position]
  simp only [Address.pageSize, tableCount]
  omega

theorem Places.frame_apart (places : layout.Places base) {frame : Address} (mapped : frame ∈ layout.frames) :
    frame ∉ (layout.tree.image base).map TablePage.address :=
  fun member => places.free frame mapped (places.within member)

end Layout

end GuestResume
