import GuestResume.Memory.Space
import GuestResume.Proofs.LayoutMappings
import GuestResume.Proofs.TablePlacement
import Mathlib.Data.List.Forall2

/-! The shape of a layout's tree. An insertion makes no table that it does not use, so below the root every
table leads to some page, and the mappings of a layout tell its tree. Layouts with the same mappings are
written out as the same tables, whatever their histories are. -/

namespace GuestResume

namespace Address

/-- An address takes the path that its block has the number of. -/
theorem selects_path {path : List Nat} (levels : path.length ≤ 4) (inside : ∀ index ∈ path, index < entriesPerTable)
    {a : Address} (selects : a.block 0 % entriesPerTable ^ path.length = pathNumber path) :
    (List.range path.length).reverse.map (fun level => a.index level) = path := by
  induction path with
  | nil => rfl
  | cons index rest ih =>
    obtain ⟨-, later⟩ := List.forall_mem_cons.mp inside
    rw [pathNumber_cons] at selects
    obtain ⟨here, further⟩ := selects_cons (Nat.le_of_succ_le_succ levels) (pathNumber_lt later) selects
    rw [List.length_cons, List.range_succ, List.reverse_append, List.map_append,
      ih (Nat.le_of_succ_le levels) later further]
    exact congrArg (· :: rest) here

/-- A path of four indices is got back from its page. -/
theorem indices_ofIndices {path : List Nat} (length : path.length = 4)
    (inside : ∀ index ∈ path, index < entriesPerTable) : (ofIndices path).indices = path := by
  have number := pathNumber_lt inside
  rw [length] at number
  have below := block_inside number (show 4 + 0 = 4 from rfl)
  obtain ⟨-, block⟩ := (mem_block (by decide) below _).mp ⟨Nat.le_refl _, Nat.lt_add_of_pos_right (by decide)⟩
  have selects : (ofIndices path).block 0 % entriesPerTable ^ path.length = pathNumber path := by
    rw [ofIndices_path inside, block, length, Nat.mod_eq_of_lt number]
  have taken := selects_path (Nat.le_of_eq length) inside selects
  rw [length] at taken
  exact taken

end Address

namespace Tree

variable {height : Nat} {tree : Tree height}

/-- Below the root, every table leads to some leaf. -/
def Populated : {height : Nat} → Tree height → Prop
  | 0, _ => True
  | _ + 1, tree => ∀ index child, tree.child? index = some child → child.leaves ≠ [] ∧ child.Populated

theorem populated_empty (height : Nat) : (empty height).Populated := by
  intro index child found
  rw [child?_empty] at found
  cases found

theorem Populated.setChild {tree : Tree (height + 1)} (populated : tree.Populated) {index : Nat}
    {child : Tree height} (leads : child.leaves ≠ []) (below : child.Populated) :
    (tree.setChild index child).Populated := by
  intro other found present
  rw [child?_setChild] at present
  split at present
  · cases present
    exact ⟨leads, below⟩
  · exact populated other found present

theorem leaves_ne_nil {gva : Address} {leaf : Leaf} (found : tree.find? gva = some leaf) : tree.leaves ≠ [] :=
  List.ne_nil_of_mem (mem_leaves_of_find? found)

theorem leaves_single (gva : Address) (leaf : Leaf) (height : Nat) : (single gva leaf height).leaves ≠ [] :=
  leaves_ne_nil ((find?_single gva gva leaf height).trans (if_pos fun _ _ => rfl))

theorem leaves_insert (gva : Address) (leaf : Leaf) (tree : Tree height) : (tree.insert gva leaf).leaves ≠ [] :=
  leaves_ne_nil ((find?_insert gva gva leaf tree).trans (if_pos fun _ _ => rfl))

theorem populated_single (gva : Address) (leaf : Leaf) (height : Nat) : (single gva leaf height).Populated := by
  induction height with
  | zero => trivial
  | succ height ih => exact (populated_empty height).setChild (leaves_single gva leaf height) ih

theorem Populated.insert (populated : tree.Populated) (gva : Address) (leaf : Leaf) :
    (tree.insert gva leaf).Populated := by
  induction height with
  | zero => trivial
  | succ height ih =>
    simp only [Tree.insert]
    split
    next child present =>
      exact populated.setChild (leaves_insert gva leaf child) (ih (populated _ child present).2)
    next => exact populated.setChild (leaves_single gva leaf height) (populated_single gva leaf height)

end Tree

section

variable {α : Type}

/-- The items of blocks, each with the key of its block. -/
def keyed (blocks : List (Nat × List α)) : List (Nat × α) :=
  blocks.flatMap fun (key, items) => items.map fun item => (key, item)

theorem keyed_cons (key : Nat) (items : List α) (rest : List (Nat × List α)) :
    keyed ((key, items) :: rest) = (items.map fun item => (key, item)) ++ keyed rest := rfl

theorem keyed_eq_nil {blocks : List (Nat × List α)} (filled : ∀ block ∈ blocks, block.2 ≠ [])
    (empty : keyed blocks = []) : blocks = [] := by
  cases blocks with
  | nil => rfl
  | cons block rest =>
    have nothing := (List.append_eq_nil_iff.mp empty).1
    exact absurd (List.map_eq_nil_iff.mp nothing) (filled block List.mem_cons_self)

/-- Under ascending keys the first block is all that stands under its key. -/
theorem keyed_first {key : Nat} {items : List α} {rest : List (Nat × List α)}
    (sorted : (((key, items) :: rest).map Prod.fst).Pairwise (· < ·)) :
    (keyed ((key, items) :: rest)).filterMap (fun (other, item) => if other = key then some item else none) =
      items := by
  have own : (items.map fun item => (key, item)).filterMap
      (fun (other, item) => if other = key then some item else none) = items := by
    simp [List.filterMap_map]
  have others : (keyed rest).filterMap (fun (other, item) => if other = key then some item else none) = [] := by
    apply List.filterMap_eq_nil_iff.mpr
    rintro ⟨other, item⟩ member
    obtain ⟨⟨_, block⟩, listed, inside⟩ := List.mem_flatMap.mp member
    obtain ⟨_, -, same⟩ := List.mem_map.mp inside
    cases same
    exact if_neg (Nat.ne_of_gt (List.rel_of_pairwise_cons sorted (List.mem_map_of_mem listed)))
  rw [keyed_cons, List.filterMap_append, own, others, List.append_nil]

/-- So blocks under ascending keys can be told from their items, if none is empty. -/
theorem keyed_inj {first second : List (Nat × List α)} (sorted : (first.map Prod.fst).Pairwise (· < ·))
    (ordered : (second.map Prod.fst).Pairwise (· < ·)) (filled : ∀ block ∈ first, block.2 ≠ [])
    (full : ∀ block ∈ second, block.2 ≠ []) (same : keyed first = keyed second) : first = second := by
  induction first generalizing second with
  | nil => exact (keyed_eq_nil full same.symm).symm
  | cons block rest ih =>
    cases second with
    | nil => exact keyed_eq_nil filled same
    | cons other further =>
      obtain ⟨key, items⟩ := block
      obtain ⟨otherKey, otherItems⟩ := other
      obtain ⟨item, more, rfl⟩ := List.exists_cons_of_ne_nil (filled _ List.mem_cons_self)
      obtain ⟨otherItem, others, rfl⟩ := List.exists_cons_of_ne_nil (full _ List.mem_cons_self)
      obtain rfl : key = otherKey := by
        have heads := congrArg List.head? same
        simp only [keyed_cons, List.map_cons, List.cons_append, List.head?_cons, Option.some_inj,
          Prod.mk.injEq] at heads
        exact heads.1
      have blocks : item :: more = otherItem :: others := by
        rw [← keyed_first sorted, same, keyed_first ordered]
      rw [keyed_cons, keyed_cons, blocks] at same
      rw [blocks, ih sorted.of_cons ordered.of_cons (fun block member => filled block (List.mem_cons_of_mem _ member))
        (fun block member => full block (List.mem_cons_of_mem _ member)) (List.append_cancel_left same)]

end

namespace Tree

variable {height : Nat}

/-- The leaves of a tree, one subtree after the other. -/
theorem leaves_keyed (tree : Tree (height + 1)) :
    tree.leaves = (keyed (tree.children.map fun (index, child) => (index, child.leaves))).map
      fun (index, path, leaf) => (index :: path, leaf) := by
  simp [leaves, keyed, List.flatMap_map, List.map_flatMap, Function.comp_def]

/-- Trees with the same leaves have the same subtrees, as far as leaves tell. -/
theorem children_of_leaves {first second : Tree (height + 1)} (populated : first.Populated)
    (also : second.Populated) (same : first.leaves = second.leaves) :
    List.Forall₂ (fun a b => a.1 = b.1 ∧ a.2.leaves = b.2.leaves) first.children second.children := by
  have filled : ∀ {tree : Tree (height + 1)}, tree.Populated →
      ∀ block ∈ tree.children.map fun (index, child) => (index, child.leaves), block.2 ≠ [] := by
    rintro tree populated _ member
    obtain ⟨⟨index, child⟩, present, rfl⟩ := List.mem_map.mp member
    exact (populated index child (mem_children.mp present)).1
  have sorted : ∀ tree : Tree (height + 1),
      ((tree.children.map fun (index, child) => (index, child.leaves)).map Prod.fst).Pairwise (· < ·) := by
    intro tree
    have keys := tree.sorted_children
    rwa [List.map_map]
  rw [leaves_keyed, leaves_keyed] at same
  have inj : Function.Injective fun (entry : Nat × List Nat × Leaf) => (entry.1 :: entry.2.1, entry.2.2) := by
    rintro ⟨index, path, leaf⟩ ⟨other, rest, last⟩ equal
    cases equal
    rfl
  have blocks := keyed_inj (sorted first) (sorted second) (filled populated) (filled also)
    (List.map_injective_iff.mpr inj same)
  have related := List.forall₂_eq_eq_eq ▸ blocks
  rw [List.forall₂_map_left_iff, List.forall₂_map_right_iff] at related
  exact related.imp fun a b equal => Prod.mk.inj equal

/-- Two trees are written out as the same pages, wherever that is. -/
structure Alike (first second : Tree height) : Prop where
  count : first.tableCount = second.tableCount
  image : ∀ base, first.image base = second.image base
  entry : ∀ base, first.entry base = second.entry base

theorem place_alike {first second : List (Nat × Tree height)}
    (alike : List.Forall₂ (fun a b => a.1 = b.1 ∧ Alike a.2 b.2) first second) :
    totalCount first = totalCount second ∧ ∀ base,
      ((place base first).map fun (index, child, address) => (index, child.entry address)) =
        (place base second).map (fun (index, child, address) => (index, child.entry address)) ∧
      ((place base first).flatMap fun (_, child, address) => child.image address) =
        (place base second).flatMap fun (_, child, address) => child.image address := by
  induction alike with
  | nil => exact ⟨rfl, fun _ => ⟨rfl, rfl⟩⟩
  | @cons a b first second head _ ih =>
    obtain ⟨index, alike⟩ := head
    obtain ⟨count, rest⟩ := ih
    constructor
    · simp only [totalCount, List.map_cons, List.sum_cons, alike.count] at count ⊢
      rw [count]
    · intro base
      obtain ⟨entries, pages⟩ := rest (pagesAfter base b.2.tableCount)
      simp only [place, List.map_cons, List.flatMap_cons, alike.count, alike.entry, alike.image, index, entries,
        pages, and_self]

theorem alike_of_children {first second : Tree (height + 1)}
    (below : List.Forall₂ (fun a b => a.1 = b.1 ∧ Alike a.2 b.2) first.children second.children) :
    first.Alike second := by
  obtain ⟨count, rest⟩ := place_alike below
  refine ⟨?_, fun base => ?_, fun _ => rfl⟩
  · rw [tableCount_eq, tableCount_eq, count]
  · obtain ⟨entries, pages⟩ := rest (pagesAfter base 1)
    simp only [image, entries, pages]

/-- A tree is written out as its leaves tell. -/
theorem alike_of_leaves {first second : Tree height} (populated : first.Populated) (also : second.Populated)
    (same : first.leaves = second.leaves) : first.Alike second := by
  induction height with
  | zero =>
    cases List.singleton_inj.mp same
    exact ⟨rfl, fun _ => rfl, fun _ => rfl⟩
  | succ height ih =>
    have children := children_of_leaves populated also same
    refine alike_of_children (List.forall₂_iff_zip.mpr ⟨children.length_eq, fun {a b} pair => ?_⟩)
    obtain ⟨index, leaves⟩ := List.forall₂_zip children pair
    obtain ⟨left, right⟩ := List.of_mem_zip pair
    exact ⟨index, ih (populated a.1 a.2 (mem_children.mp left)).2 (also b.1 b.2 (mem_children.mp right)).2 leaves⟩

end Tree

namespace Layout

variable {layout : Layout}

theorem Reached.populated (reached : layout.Reached) : layout.tree.Populated :=
  reached.tree_keeps Tree.Populated (Tree.populated_empty 3) fun gva leaf _ _ populated => populated.insert gva leaf

/-- The mappings of a layout tell its leaves. -/
theorem Valid.leaves_eq (valid : layout.Valid) :
    layout.tree.leaves = layout.mappings.map fun mapping =>
      (mapping.page.indices, ⟨mapping.frame, mapping.permission⟩) := by
  rw [mappings, List.map_map]
  conv => lhs; rw [← List.map_id layout.tree.leaves]
  apply List.map_congr_left
  rintro ⟨path, leaf⟩ member
  obtain ⟨length, inside⟩ := Tree.Valid.path_leaf valid member
  exact Prod.ext (Address.indices_ofIndices length inside).symm rfl

/-- Writing a layout out takes notice of its mappings and of whether that was done before. -/
theorem image_congr {other : Layout} (alike : layout.tree.Alike other.tree) (same : layout.mappings = other.mappings)
    (frozen : layout.frozen = other.frozen) (base : Address) : layout.image base = other.image base := by
  have count : layout.tableCount = other.tableCount := alike.count
  have overlap : layout.overlap? base = other.overlap? base := by
    funext limit
    rw [overlap?, overlap?, frames, frames, same]
  simp only [Layout.image]
  rw [frozen, count, overlap, alike.image]

theorem Reached.alike {other : Layout} (reached : layout.Reached) (also : other.Reached)
    (same : layout.mappings = other.mappings) : layout.tree.Alike other.tree :=
  Tree.alike_of_leaves reached.populated also.populated (by rw [reached.valid.leaves_eq, also.valid.leaves_eq, same])

end Layout

/-- Layouts made by any two sequences of insertions, written out with pages of any two spaces: as long as they map
the same pages alike, the results are the same, down to the bytes of every table and the reason of a refusal. -/
theorem tables_follow_mappings (insertions others : List Insertion)
    (same : (Layout.ofInsertions insertions).mappings = (Layout.ofInsertions others).mappings) (base : Address)
    (space other : Space) :
    (space.commit (Layout.ofInsertions insertions) base).map (fun (image, _, _) => image) =
      (other.commit (Layout.ofInsertions others) base).map (fun (image, _, _) => image) := by
  have alike := (Layout.reached_ofInsertions insertions).alike (Layout.reached_ofInsertions others) same
  have written := Layout.image_congr alike same
    ((Layout.melted_ofInsertions insertions).trans (Layout.melted_ofInsertions others).symm) base
  rw [Space.commit, Space.commit, written]
  cases (Layout.ofInsertions others).image base <;> rfl

/-- The same two pages, mapped the other way round, after a detour and with refused calls in between. -/
def Insertion.detour : List Insertion :=
  [.plain 0x400ABC 0x9000 .data, .tagged 0x800000 0x3000 2, .plain 0x400000 0x1FFF .code,
    .tagged 0x800000000000 0x1000 0, .plain 0xFFFFF80000000FFF 0x7000 .data]

/-- The same mappings by a straight way. -/
def Insertion.straight : List Insertion :=
  [.plain 0xFFFFF80000000000 0x7123 .data, .tagged 0x400000 0x1000 0]

theorem tables_follow_mappings_detour :
    (Layout.ofInsertions Insertion.detour).mappings = (Layout.ofInsertions Insertion.straight).mappings ∧
      (({} : Space).commit (Layout.ofInsertions Insertion.detour) 0x100000).isOk ∧
      (({} : Space).commit (Layout.ofInsertions Insertion.detour) 0x100000).map (fun (image, _, _) => image) =
        (({} : Space).commit (Layout.ofInsertions Insertion.straight) 0x100000).map (fun (image, _, _) => image) := by
  have same : (Layout.ofInsertions Insertion.detour).mappings = (Layout.ofInsertions Insertion.straight).mappings := by
    decide +kernel
  exact ⟨same, by decide +kernel, tables_follow_mappings Insertion.detour Insertion.straight same 0x100000 {} {}⟩

end GuestResume
