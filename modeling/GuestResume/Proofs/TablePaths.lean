import GuestResume.Proofs.LayoutShape
import GuestResume.Proofs.TableBinding
import Mathlib.Data.List.Nodup

/-! What stands in the tables of a layout. There is one table for the root and one for every beginning of a path
to a mapped page, down to the last level. A table is found by the entry for the last index of its path, and no
other entry leads to it; an entry that no mapped page goes through is zero. -/

namespace GuestResume

namespace Tree

variable {height : Nat} {base : Address}

/-- Some leaf lies behind the path. -/
def Reaches (tree : Tree height) (path : List Nat) : Prop :=
  ∃ rest leaf, (path ++ rest, leaf) ∈ tree.leaves

/-- The tables of a tree, each with the path that leads to it. -/
def tables (base : Address) : {height : Nat} → Tree height → List (List Nat × TablePage)
  | 0, _ => []
  | _ + 1, tree =>
    ([], ⟨base, Page.ofWords (words base tree)⟩) ::
      (place (pagesAfter base 1) tree.children).flatMap fun (index, child, address) =>
        (child.tables address).map fun (path, table) => (index :: path, table)

theorem map_snd_tables (base : Address) (tree : Tree height) :
    (tree.tables base).map Prod.snd = tree.image base := by
  induction height generalizing base with
  | zero => rfl
  | succ height ih =>
    simp only [tables, image, words, List.map_cons, List.map_flatMap, List.map_map, Function.comp_def, ← ih]

theorem mem_tables_nil {tree : Tree (height + 1)} {table : TablePage} :
    ([], table) ∈ tree.tables base ↔ table = ⟨base, Page.ofWords (words base tree)⟩ := by
  simp [tables]

theorem mem_tables_cons {tree : Tree (height + 1)} {index : Nat} {path : List Nat} {table : TablePage} :
    (index :: path, table) ∈ tree.tables base ↔ ∃ child address,
      (index, child, address) ∈ place (pagesAfter base 1) tree.children ∧ (path, table) ∈ child.tables address := by
  constructor
  · intro member
    obtain first | later := List.mem_cons.mp member
    · cases first
    · obtain ⟨⟨_, child, address⟩, placed, inside⟩ := List.mem_flatMap.mp later
      obtain ⟨⟨_, _⟩, below, same⟩ := List.mem_map.mp inside
      cases same
      exact ⟨child, address, placed, below⟩
  · rintro ⟨child, address, placed, below⟩
    exact List.mem_cons_of_mem _ (List.mem_flatMap.mpr ⟨_, placed, List.mem_map.mpr ⟨_, below, rfl⟩⟩)

theorem reaches_cons {tree : Tree (height + 1)} {index : Nat} {path : List Nat} :
    tree.Reaches (index :: path) ↔ ∃ child, tree.child? index = some child ∧ child.Reaches path := by
  constructor
  · rintro ⟨rest, leaf, member⟩
    obtain ⟨_, child, _, present, below, same⟩ := mem_leaves.mp member
    cases same
    exact ⟨child, present, rest, leaf, below⟩
  · rintro ⟨child, present, rest, leaf, below⟩
    exact ⟨rest, leaf, mem_leaves.mpr ⟨index, child, path ++ rest, present, below, rfl⟩⟩

theorem reaches_nil {tree : Tree height} (filled : tree.leaves ≠ []) : tree.Reaches [] := by
  obtain ⟨⟨path, leaf⟩, member⟩ := List.exists_mem_of_ne_nil _ filled
  exact ⟨path, leaf, member⟩

/-- There is a table at the root and wherever a path to a leaf goes on. -/
theorem exists_table_iff {tree : Tree height} (populated : tree.Populated) {path : List Nat} :
    (∃ table, (path, table) ∈ tree.tables base) ↔ path.length < height ∧ (path = [] ∨ tree.Reaches path) := by
  induction height generalizing base path with
  | zero => exact iff_of_false (fun ⟨_, member⟩ => nomatch member) fun ⟨short, _⟩ => nomatch short
  | succ height ih =>
    cases path with
    | nil => exact iff_of_true ⟨_, mem_tables_nil.mpr rfl⟩ ⟨Nat.succ_pos _, .inl rfl⟩
    | cons index path =>
      constructor
      · rintro ⟨table, member⟩
        obtain ⟨child, address, placed, below⟩ := mem_tables_cons.mp member
        have present := child?_placed placed
        obtain ⟨filled, lower⟩ := populated index child present
        obtain ⟨short, reaches⟩ := (ih lower).mp ⟨table, below⟩
        refine ⟨Nat.succ_lt_succ short, .inr (reaches_cons.mpr ⟨child, present, ?_⟩)⟩
        obtain rfl | reaches := reaches
        · exact reaches_nil filled
        · exact reaches
      · rintro ⟨short, reaches⟩
        obtain ⟨child, present, further⟩ := reaches_cons.mp (reaches.resolve_left (List.cons_ne_nil _ _))
        obtain ⟨address, placed⟩ := exists_mem_place (pagesAfter base 1) (mem_children.mpr present)
        have lower : ∃ table, (path, table) ∈ child.tables address :=
          (ih (populated index child present).2).mpr ⟨Nat.lt_of_succ_lt_succ short, .inr further⟩
        obtain ⟨table, below⟩ := lower
        exact ⟨table, mem_tables_cons.mpr ⟨child, address, placed, below⟩⟩

/-- No path leads to two tables. -/
theorem nodup_paths (base : Address) (tree : Tree height) : ((tree.tables base).map Prod.fst).Nodup := by
  induction height generalizing base with
  | zero => exact List.nodup_nil
  | succ height ih =>
    rw [tables, List.map_cons, List.nodup_cons]
    constructor
    · intro member
      obtain ⟨⟨path, table⟩, listed, empty⟩ := List.mem_map.mp member
      obtain ⟨_, _, inside⟩ := List.mem_flatMap.mp listed
      obtain ⟨_, _, same⟩ := List.mem_map.mp inside
      cases same
      cases empty
    · rw [List.map_flatMap, List.nodup_flatMap]
      constructor
      · rintro ⟨index, child, address⟩ _
        have lower := (ih address child).map (List.cons_injective (a := index))
        rwa [List.map_map] at lower ⊢
      · have keys := tree.sorted_children
        rw [← map_fst_place (pagesAfter base 1)] at keys
        refine (List.pairwise_map.mp keys).imp fun {a b} before path left right => ?_
        simp only [List.map_map, List.mem_map, Function.comp_apply] at left right
        obtain ⟨_, _, rfl⟩ := left
        obtain ⟨_, _, same⟩ := right
        exact Nat.ne_of_gt before (List.cons.inj same).1

/-- What the entry for an index holds in the table at the end of a path. -/
inductive Slot (tree : Tree height) (base : Address) (path : List Nat) : Entry → Prop where
  | table {lower} (member : (path, lower) ∈ tree.tables base) :
      Slot tree base path (Entry.make lower.address Entry.nodeFlags)
  | leaf {leaf} (member : (path, leaf) ∈ tree.leaves) :
      Slot tree base path (Entry.make leaf.frame leaf.permission.flags)
  | absent (absent : ¬tree.Reaches path) : Slot tree base path 0

theorem Slot.below {tree : Tree (height + 1)} {index : Nat} {child : Tree height} {address : Address}
    (placed : (index, child, address) ∈ place (pagesAfter base 1) tree.children) {path : List Nat} {entry : Entry}
    (slot : child.Slot address path entry) : tree.Slot base (index :: path) entry := by
  have present := child?_placed placed
  cases slot with
  | table member => exact .table (mem_tables_cons.mpr ⟨child, address, placed, member⟩)
  | leaf member => exact .leaf (mem_leaves.mpr ⟨index, child, path, present, member, rfl⟩)
  | absent absent =>
    refine .absent fun reaches => absent ?_
    obtain ⟨other, found, further⟩ := reaches_cons.mp reaches
    rw [present] at found
    cases found
    exact further

/-- An entry leads to the table at the end of the longer path, or it maps the page there, or it is zero. -/
theorem slot_word {tree : Tree height} {path : List Nat} {table : TablePage}
    (member : (path, table) ∈ tree.tables base) {index : Nat} (inside : index < Address.entriesPerTable) :
    tree.Slot base (path ++ [index]) (table.page.word index) := by
  induction height generalizing base path with
  | zero => cases member
  | succ height ih =>
    cases path with
    | cons first path =>
      obtain ⟨child, address, placed, below⟩ := mem_tables_cons.mp member
      exact (ih below).below placed
    | nil =>
      cases mem_tables_nil.mp member
      cases present : tree.child? index with
      | none =>
        rw [word_absent inside present]
        refine .absent fun reaches => ?_
        obtain ⟨child, found, -⟩ := reaches_cons.mp reaches
        rw [present] at found
        cases found
      | some child =>
        obtain ⟨address, placed⟩ := exists_mem_place (pagesAfter base 1) (mem_children.mpr present)
        rw [word_placed inside placed]
        apply Slot.below placed
        -- The subtree is a leaf itself, or its first table is the one that the entry leads to.
        cases height with
        | zero => exact .leaf (List.mem_singleton.mpr rfl)
        | succ height => exact .table (mem_tables_nil.mpr rfl)

end Tree

/-- The entry is present, and its frame is the place of the other table. -/
def TablePage.RefersTo (table : TablePage) (index : Nat) (lower : TablePage) : Prop :=
  Entry.isPresent (table.page.word index) ∧ Entry.frame (table.page.word index) = lower.address

/-- The table that entries lead to from the root on, one for each index of a path. -/
inductive TableImage.Leads (image : TableImage) : List Nat → TablePage → Prop where
  | root {table} (member : table ∈ image.pages) (place : table.address = image.root) : Leads image [] table
  | entry {path table index lower} (above : Leads image path table) (inside : index < Address.entriesPerTable)
      (refers : table.RefersTo index lower) (member : lower ∈ image.pages) : Leads image (path ++ [index]) lower

namespace Layout

variable {layout : Layout} {base : Address}

/-- The path is the beginning of that to a mapped page, or all of it. -/
def Maps (layout : Layout) (path : List Nat) : Prop :=
  ∃ mapping ∈ layout.mappings, path <+: mapping.page.indices

/-- The different beginnings of the paths to mapped pages that have so many indices. -/
def prefixes (layout : Layout) (count : Nat) : List (List Nat) :=
  (layout.mappings.map fun mapping => mapping.page.indices.take count).dedup

theorem Valid.maps_iff (valid : layout.Valid) (path : List Nat) : layout.Maps path ↔ layout.tree.Reaches path := by
  simp only [Maps, Tree.Reaches, valid.leaves_eq, List.mem_map, Prod.mk.injEq]
  constructor
  · rintro ⟨mapping, listed, rest, same⟩
    exact ⟨rest, _, mapping, listed, same.symm, rfl⟩
  · rintro ⟨rest, leaf, mapping, listed, same, -⟩
    exact ⟨mapping, listed, rest, same.symm⟩

theorem Places.eq_of_address (places : layout.Places base) {table other : TablePage}
    (member : table ∈ layout.tree.image base) (also : other ∈ layout.tree.image base)
    (same : table.address = other.address) : table = other :=
  List.inj_on_of_nodup_map (Tree.nodup_addresses_image _ places.fits) member also same

theorem mem_image {path : List Nat} {table : TablePage} (member : (path, table) ∈ layout.tree.tables base) :
    table ∈ layout.tree.image base := by
  rw [← Tree.map_snd_tables]
  exact List.mem_map_of_mem member

theorem exists_path {table : TablePage} (member : table ∈ layout.tree.image base) :
    ∃ path, (path, table) ∈ layout.tree.tables base := by
  rw [← Tree.map_snd_tables] at member
  obtain ⟨⟨path, _⟩, listed, rfl⟩ := List.mem_map.mp member
  exact ⟨path, listed⟩

theorem table_unique {path : List Nat} {table other : TablePage} (member : (path, table) ∈ layout.tree.tables base)
    (also : (path, other) ∈ layout.tree.tables base) : table = other :=
  congrArg Prod.snd (List.inj_on_of_nodup_map (Tree.nodup_paths base layout.tree) member also rfl)

theorem Places.path_unique (places : layout.Places base) {path way : List Nat} {table : TablePage}
    (member : (path, table) ∈ layout.tree.tables base) (also : (way, table) ∈ layout.tree.tables base) : path = way := by
  have nodup : ((layout.tree.tables base).map fun (_, table) => table.address).Nodup := by
    have addresses := Tree.nodup_addresses_image _ places.fits
    rwa [← Tree.map_snd_tables, List.map_map] at addresses
  exact congrArg Prod.fst (List.inj_on_of_nodup_map nodup member also rfl)

/-- The root comes first. -/
theorem Places.root_iff (places : layout.Places base) {path : List Nat} {table : TablePage}
    (member : (path, table) ∈ layout.tree.tables base) : table.address = base ↔ path = [] := by
  have root : ([], ⟨base, _⟩) ∈ layout.tree.tables base := Tree.mem_tables_nil.mpr rfl
  constructor
  · intro first
    cases places.eq_of_address (mem_image member) (mem_image root) first
    exact places.path_unique member root
  · rintro rfl
    rw [table_unique member root]

/-- Below the root, a table leads on to some leaf. -/
theorem Reached.table_below (reached : layout.Reached) {path : List Nat} {index : Nat} {table : TablePage}
    (member : (path ++ [index], table) ∈ layout.tree.tables base) :
    (path ++ [index]).length < 4 ∧ layout.tree.Reaches (path ++ [index]) := by
  obtain ⟨short, reaches⟩ := (Tree.exists_table_iff reached.populated).mp ⟨table, member⟩
  exact ⟨short, reaches.resolve_left (List.append_ne_nil_of_right_ne_nil _ (List.cons_ne_nil _ _))⟩

/-- A table refers to another one by the entry that continues its path to the path of the other. -/
theorem Places.refersTo_iff (places : layout.Places base) (reached : layout.Reached) {path : List Nat}
    {table lower : TablePage} (member : (path, table) ∈ layout.tree.tables base)
    (also : lower ∈ layout.tree.image base) {index : Nat} (inside : index < Address.entriesPerTable) :
    table.RefersTo index lower ↔ (path ++ [index], lower) ∈ layout.tree.tables base := by
  have slot := Tree.slot_word member inside
  generalize held : table.page.word index = entry at slot
  rw [TablePage.RefersTo, held]
  cases slot with
  | @table other listed =>
    have below := Nat.lt_of_lt_of_le (places.within (List.mem_map_of_mem (mem_image listed))).2 places.fits
    rw [Entry.frame_make (places.aligned_image _ (mem_image listed)) below (by decide), Entry.isPresent_make]
    constructor
    · rintro ⟨-, same⟩
      cases places.eq_of_address (mem_image listed) also same
      exact listed
    · intro found
      rw [table_unique listed found]
      exact ⟨by decide, rfl⟩
  | @leaf leaf mapped =>
    apply iff_of_false
    · rintro ⟨-, same⟩
      have valid := Tree.Valid.leaf reached.valid mapped
      rw [Entry.frame_make valid.aligned valid.below leaf.permission.flags_outside] at same
      exact places.frame_apart (mem_frames mapped) (same ▸ List.mem_map_of_mem also)
    · intro found
      exact absurd (Tree.Valid.path_leaf reached.valid mapped).1 (Nat.ne_of_lt (reached.table_below found).1)
  | absent absent =>
    apply iff_of_false
    · rintro ⟨present, -⟩
      exact absurd present (by decide)
    · intro found
      exact absent (reached.table_below found).2

/-- Every table below the root continues the path of another one. -/
theorem exists_parent (reached : layout.Reached) {path : List Nat} {index : Nat} {lower : TablePage}
    (member : (path ++ [index], lower) ∈ layout.tree.tables base) :
    index < Address.entriesPerTable ∧ ∃ upper, (path, upper) ∈ layout.tree.tables base := by
  obtain ⟨short, rest, leaf, mapped⟩ := reached.table_below member
  rw [List.append_assoc] at mapped
  rw [List.length_append] at short
  constructor
  · exact (Tree.Valid.path_leaf reached.valid mapped).2 index (by simp)
  · exact (Tree.exists_table_iff reached.populated).mpr ⟨Nat.lt_of_succ_lt short, .inr ⟨_, leaf, mapped⟩⟩

/-- Following entries from the root, one comes to the tables by their paths. -/
theorem Places.leads_iff (places : layout.Places base) (reached : layout.Reached) {path : List Nat}
    {table : TablePage} : (TableImage.mk base (layout.tree.image base)).Leads path table ↔
      (path, table) ∈ layout.tree.tables base := by
  constructor
  · intro leads
    induction leads with
    | root member place =>
      obtain ⟨path, listed⟩ := exists_path member
      exact (places.root_iff listed).mp place ▸ listed
    | entry _ inside refers member ih => exact (places.refersTo_iff reached ih member inside).mp refers
  · intro member
    induction path using List.reverseRecOn generalizing table with
    | nil => exact .root (mem_image member) ((places.root_iff member).mpr rfl)
    | append_singleton path index ih =>
      obtain ⟨inside, upper, above⟩ := exists_parent reached member
      exact .entry (ih above) inside ((places.refersTo_iff reached above (mem_image member) inside).mpr member)
        (mem_image member)

end Layout

end GuestResume
