import GuestResume.Proofs.AddressBlocks
import GuestResume.Proofs.LayoutHistory

/-! The mappings of a layout. They are listed in ascending order of their pages, the upper half of the address
space included, and each is what the last insertion for its page asked for. -/

namespace GuestResume

namespace Address

variable {a b : Address}

theorem pathNumber_cons (index : Nat) (path : List Nat) :
    pathNumber (index :: path) = entriesPerTable ^ path.length * index + pathNumber path := by
  induction path using List.reverseRecOn with
  | nil => simp [pathNumber]
  | append_singleton path last ih =>
    rw [← List.cons_append, pathNumber_append, pathNumber_append, ih, List.length_append, List.length_singleton,
      Nat.pow_succ', Nat.mul_add, Nat.mul_assoc, Nat.add_assoc]

/-- Of two paths of one length, the one with the smaller first index has the smaller number. -/
theorem pathNumber_lt_first {first second : List Nat} {i j : Nat} (length : first.length = second.length)
    (inside : ∀ index ∈ first, index < entriesPerTable) (before : i < j) :
    pathNumber (i :: first) < pathNumber (j :: second) := by
  rw [pathNumber_cons, pathNumber_cons, ← length]
  calc entriesPerTable ^ first.length * i + pathNumber first
    _ < entriesPerTable ^ first.length * (i + 1) := Nat.add_lt_add_left (pathNumber_lt inside) _
    _ ≤ entriesPerTable ^ first.length * j := Nat.mul_le_mul_left _ before
    _ ≤ _ := Nat.le_add_right _ _

theorem pathNumber_lt_rest {first second : List Nat} (index : Nat) (length : first.length = second.length)
    (before : pathNumber first < pathNumber second) : pathNumber (index :: first) < pathNumber (index :: second) := by
  rw [pathNumber_cons, pathNumber_cons, ← length]
  exact Nat.add_lt_add_left before _

theorem blockStart_lt {level first second : Nat} (before : first < second)
    (below : second * blockSize level < 0x1000000000000) : blockStart level first < blockStart level second := by
  have positive : 0 < blockSize level := Nat.mul_pos (by decide) (Nat.pow_pos (by decide))
  have ordered := Nat.mul_lt_mul_of_pos_right before positive
  rw [UInt64.lt_iff_toNat_lt, toNat_blockStart below, toNat_blockStart (Nat.lt_trans ordered below)]
  split <;> split <;> omega

/-- A path to a leaf leads to the page with its number. -/
theorem ofIndices_path {path : List Nat} (inside : ∀ index ∈ path, index < entriesPerTable) :
    ofIndices path = blockStart 0 (pathNumber path) := by
  have start := @ofIndices_eq path 0 inside
  rwa [List.replicate_zero, List.append_nil] at start

/-- Canonical addresses that select the same entries on all levels lie in one page. -/
theorem samePath_iff (first : a.IsCanonical) (second : b.IsCanonical) :
    Tree.SamePath 4 a b ↔ a.pageStart = b.pageStart := by
  refine ⟨fun path => ?_, fun page level _ => index_of_page page level⟩
  have step : ∀ level < 4, a.block (level + 1) = b.block (level + 1) → a.block level = b.block level := by
    intro level inside above
    rw [block_eq (Nat.le_of_lt_succ inside) a, block_eq (Nat.le_of_lt_succ inside) b, above, path level inside]
  have top : a.block 4 = b.block 4 := a.block_root.trans b.block_root.symm
  have same : a.block 0 = b.block 0 :=
    step 0 (by decide) (step 1 (by decide) (step 2 (by decide) (step 3 (by decide) top)))
  apply UInt64.toNat_inj.mp
  rw [toNat_pageStart, toNat_pageStart]
  rw [isCanonical_iff] at first second
  have bound := a.toNat_lt
  have limit := b.toNat_lt
  simp only [block, blockSize, pageSize, Nat.pow_zero, Nat.mul_one] at same ⊢
  omega

theorem block_div (level : Nat) (a : Address) : a.block level = a.block 0 / entriesPerTable ^ level := by
  induction level with
  | zero => rw [Nat.pow_zero, Nat.div_one]
  | succ level ih => rw [block_succ, ih, Nat.div_div_eq_div_mul, Nat.pow_succ]

/-- The last indices of a path that an address takes, one after the other. -/
theorem selects_cons {level index rest : Nat} (inside : level ≤ 3) (below : rest < entriesPerTable ^ level)
    (selects : a.block 0 % entriesPerTable ^ (level + 1) = entriesPerTable ^ level * index + rest) :
    a.index level = index ∧ a.block 0 % entriesPerTable ^ level = rest := by
  have positive : 0 < entriesPerTable ^ level := Nat.pow_pos (by decide)
  constructor
  · rw [← block_mod inside, block_div, ← Nat.mod_mul_right_div_self, ← Nat.pow_succ, selects,
      Nat.mul_add_div positive, Nat.div_eq_of_lt below, Nat.add_zero]
  · rw [← Nat.mod_mod_of_dvd _ (Nat.pow_dvd_pow _ (Nat.le_succ level)), selects, Nat.mul_add_mod,
      Nat.mod_eq_of_lt below]

end Address

namespace Tree

variable {height : Nat} {tree : Tree height}

/-- The path to a leaf has one index for every level. -/
theorem Valid.path_leaf (valid : tree.Valid) {path : List Nat} {leaf : Leaf} (member : (path, leaf) ∈ tree.leaves) :
    path.length = height ∧ ∀ index ∈ path, index < Address.entriesPerTable := by
  induction height generalizing path with
  | zero =>
    cases List.mem_singleton.mp member
    exact ⟨rfl, fun _ none => nomatch none⟩
  | succ height ih =>
    obtain ⟨index, child, rest, present, inside, rfl⟩ := mem_leaves.mp member
    obtain ⟨bound, below⟩ := valid index child present
    obtain ⟨length, indices⟩ := ih below inside
    exact ⟨congrArg Nat.succ length, List.forall_mem_cons.mpr ⟨bound, indices⟩⟩

theorem Valid.leaf (valid : tree.Valid) {path : List Nat} {leaf : Leaf} (member : (path, leaf) ∈ tree.leaves) :
    leaf.Valid := by
  induction height generalizing path with
  | zero =>
    cases List.mem_singleton.mp member
    exact valid
  | succ height ih =>
    obtain ⟨index, child, rest, present, inside, rfl⟩ := mem_leaves.mp member
    exact ih (valid index child present).2 inside

theorem Valid.sorted_leaves (valid : tree.Valid) :
    tree.leaves.Pairwise fun a b => Address.pathNumber a.1 < Address.pathNumber b.1 := by
  induction height with
  | zero => exact List.pairwise_singleton ..
  | succ height ih =>
    have below : ∀ {index child}, (index, child) ∈ tree.children → child.Valid := fun present =>
      (valid _ _ (mem_children.mp present)).2
    refine List.pairwise_flatMap.mpr ⟨?_, (List.pairwise_map.mp tree.sorted_children).imp_of_mem ?_⟩
    · rintro ⟨index, child⟩ present
      refine List.pairwise_map.mpr ((ih (below present)).imp_of_mem ?_)
      rintro ⟨first, _⟩ ⟨second, _⟩ here there before
      have length := ((below present).path_leaf here).1.trans ((below present).path_leaf there).1.symm
      exact Address.pathNumber_lt_rest index length before
    · rintro ⟨i, first⟩ ⟨j, second⟩ present other before _ left _ right
      obtain ⟨⟨a, _⟩, here, rfl⟩ := List.mem_map.mp left
      obtain ⟨⟨b, _⟩, there, rfl⟩ := List.mem_map.mp right
      obtain ⟨length, inside⟩ := (below present).path_leaf here
      have same := length.trans ((below other).path_leaf there).1.symm
      exact Address.pathNumber_lt_first same inside before

/-- A leaf is found at the addresses that take its path. -/
theorem Valid.find?_leaf (valid : tree.Valid) (levels : height ≤ 4) {path : List Nat} {leaf : Leaf}
    (member : (path, leaf) ∈ tree.leaves) {gva : Address}
    (selects : gva.block 0 % Address.entriesPerTable ^ height = Address.pathNumber path) :
    tree.find? gva = some leaf := by
  induction height generalizing path with
  | zero =>
    cases List.mem_singleton.mp member
    rfl
  | succ height ih =>
    obtain ⟨index, child, rest, present, inside, rfl⟩ := mem_leaves.mp member
    have below := (valid index child present).2
    obtain ⟨length, indices⟩ := below.path_leaf inside
    have bound := length ▸ Address.pathNumber_lt indices
    rw [Address.pathNumber_cons, length] at selects
    obtain ⟨here, further⟩ := Address.selects_cons (Nat.le_of_succ_le_succ levels) bound selects
    rw [Tree.find?, here, present]
    exact ih below (Nat.le_of_succ_le levels) inside further

end Tree

namespace Mapping

/-- The mapping that a call asks for, unless the call is refused. -/
def of? (gva gpa : Address) (permission : Permission) : Option Mapping :=
  if gva.IsCanonical ∧ gpa.toNat < Address.physicalLimit then some ⟨gva.pageStart, gpa.pageStart, permission⟩
  else none

end Mapping

namespace Insertion

def mapping? : Insertion → Option Mapping
  | plain gva gpa permission => Mapping.of? gva gpa permission
  | tagged gva gpa tag => (Permission.ofTag tag).toOption.bind (Mapping.of? gva gpa)

/-- The last mapping of a page that was asked for. -/
def last? (insertions : List Insertion) (page : Address) : Option Mapping :=
  ((insertions.filterMap mapping?).filter (·.page = page)).getLast?

theorem last?_refused {insertion : Insertion} (refused : insertion.mapping? = none) (earlier : List Insertion)
    (page : Address) : last? (earlier ++ [insertion]) page = last? earlier page := by
  simp [last?, refused]

theorem last?_accepted {insertion : Insertion} {mapping : Mapping} (accepted : insertion.mapping? = some mapping)
    (earlier : List Insertion) (page : Address) :
    last? (earlier ++ [insertion]) page = if mapping.page = page then some mapping else last? earlier page := by
  by_cases same : mapping.page = page
  · simp [last?, accepted, same]
  · simp [last?, accepted, same]

end Insertion

namespace Layout

variable {layout : Layout} {mapping : Mapping}

/-- A listed page is that of a path to a leaf. -/
theorem Valid.mapping_path (valid : layout.Valid) (member : mapping ∈ layout.mappings) :
    ∃ path, (path, ⟨mapping.frame, mapping.permission⟩) ∈ layout.tree.leaves ∧
      mapping.page = Address.blockStart 0 (Address.pathNumber path) ∧
      Address.pathNumber path < Address.entriesPerTable ^ 4 := by
  obtain ⟨⟨path, leaf⟩, inside, rfl⟩ := List.mem_map.mp member
  obtain ⟨length, indices⟩ := Tree.Valid.path_leaf valid inside
  have number := Address.pathNumber_lt indices
  rw [length] at number
  refine ⟨path, inside, ?_, ?_⟩
  · dsimp only
    exact Address.ofIndices_path indices
  · exact number

theorem Valid.sorted_mappings (valid : layout.Valid) : layout.mappings.Pairwise fun a b => a.page < b.page := by
  refine List.pairwise_map.mpr ((Tree.Valid.sorted_leaves valid).imp_of_mem ?_)
  rintro ⟨first, _⟩ ⟨second, _⟩ here there before
  obtain ⟨-, earlier⟩ := Tree.Valid.path_leaf valid here
  obtain ⟨length, later⟩ := Tree.Valid.path_leaf valid there
  have number := Address.pathNumber_lt later
  rw [length] at number
  simp only [Address.ofIndices_path earlier, Address.ofIndices_path later]
  exact Address.blockStart_lt before (Address.block_inside number rfl)

/-- What is listed for a page is what the layout holds for it. -/
theorem Valid.leaf?_page (valid : layout.Valid) (member : mapping ∈ layout.mappings) :
    mapping.page.IsCanonical ∧ mapping.page.IsAligned ∧
      layout.leaf? mapping.page = some ⟨mapping.frame, mapping.permission⟩ := by
  obtain ⟨path, inside, page, number⟩ := valid.mapping_path member
  have below := Address.block_inside number (show 4 + 0 = 4 from rfl)
  obtain ⟨canonical, block⟩ := (Address.mem_block (by decide) below _).mp
    ⟨Nat.le_refl _, Nat.lt_add_of_pos_right (by decide)⟩
  rw [page]
  refine ⟨canonical, ?_, ?_⟩
  · rw [Address.isAligned_iff, Address.toNat_blockStart below]
    simp only [Address.blockSize, Address.pageSize, Nat.pow_zero, Nat.mul_one]
    split <;> omega
  · apply Tree.Valid.find?_leaf valid (Nat.le_refl 4) inside
    rw [block, Nat.mod_eq_of_lt number]

/-- A call maps the page it asks for, or it is refused. -/
inductive Performs (layout : Layout) (insertion : Insertion) : Prop where
  | refused (none : insertion.mapping? = none) (kept : layout.perform insertion = layout)
  | accepted {gva gpa : Address} {permission : Permission} (canonical : gva.IsCanonical)
      (some : insertion.mapping? = some ⟨gva.pageStart, gpa.pageStart, permission⟩)
      (tree : (layout.perform insertion).tree = layout.tree.insert gva ⟨gpa.pageStart, permission⟩)

/-- A page with a canonical address is mapped to any frame below the limit, until the layout is written out. -/
theorem insert_fitting (melted : layout.frozen = false) {gva gpa : Address} (canonical : gva.IsCanonical)
    (below : gpa.toNat < Address.physicalLimit) (permission : Permission) :
    ∃ changed, layout.insert gva gpa permission = .ok changed ∧
      changed.tree = layout.tree.insert gva ⟨gpa.pageStart, permission⟩ := by
  have unlocked : ¬layout.frozen = true := Bool.eq_false_iff.mp melted
  rw [insert, if_neg unlocked, if_neg (not_not_intro canonical), if_neg (Nat.not_le_of_lt below)]
  exact ⟨_, rfl, rfl⟩

theorem performs_plain (melted : layout.frozen = false) (gva gpa : Address) (permission : Permission) :
    layout.Performs (.plain gva gpa permission) := by
  have unlocked : ¬layout.frozen = true := Bool.eq_false_iff.mp melted
  by_cases fits : gva.IsCanonical ∧ gpa.toNat < Address.physicalLimit
  · obtain ⟨canonical, below⟩ := fits
    obtain ⟨changed, inserted, tree⟩ := insert_fitting melted canonical below permission
    have performed : layout.perform (.plain gva gpa permission) = changed := by rw [perform, apply, inserted]
    rw [← performed] at tree
    exact .accepted canonical (if_pos ⟨canonical, below⟩) tree
  · have refused : ∃ error, layout.insert gva gpa permission = .error error := by
      rw [insert, if_neg unlocked]
      by_cases canonical : gva.IsCanonical
      · rw [if_neg (not_not_intro canonical), if_pos (Nat.le_of_not_lt fun below => fits ⟨canonical, below⟩)]
        exact ⟨_, rfl⟩
      · rw [if_pos canonical]
        exact ⟨_, rfl⟩
    obtain ⟨error, same⟩ := refused
    have none : (Insertion.plain gva gpa permission).mapping? = none := if_neg fits
    apply Performs.refused none
    rw [perform, apply, same]

theorem performs (melted : layout.frozen = false) (insertion : Insertion) : layout.Performs insertion := by
  cases insertion with
  | plain gva gpa permission => exact performs_plain melted gva gpa permission
  | tagged gva gpa tag =>
    cases known : Permission.ofTag tag with
    | error error =>
      apply Performs.refused
      · rw [Insertion.mapping?, known]
        rfl
      · rw [perform, apply, insertByTag, known]
        rfl
    | ok permission =>
      have asks : (Insertion.tagged gva gpa tag).mapping? = (Insertion.plain gva gpa permission).mapping? := by
        simp only [Insertion.mapping?, known]
        rfl
      have same : layout.perform (.tagged gva gpa tag) = layout.perform (.plain gva gpa permission) := by
        rw [perform, perform, apply, apply, insertByTag, known]
        rfl
      cases performs_plain melted gva gpa permission with
      | refused none kept => exact .refused (asks.trans none) (same.trans kept)
      | accepted canonical some tree => exact .accepted canonical (asks.trans some) (same ▸ tree)

/-- A layout holds what was asked for last. -/
theorem leaf?_ofInsertions (insertions : List Insertion) {gva : Address} (canonical : gva.IsCanonical) :
    (ofInsertions insertions).leaf? gva =
      (Insertion.last? insertions gva.pageStart).map fun mapping => ⟨mapping.frame, mapping.permission⟩ := by
  induction insertions using List.reverseRecOn with
  | nil => rfl
  | append_singleton earlier insertion ih =>
    rw [ofInsertions_append]
    cases performs (melted_ofInsertions earlier) insertion with
    | refused none kept => rw [kept, Insertion.last?_refused none, ih]
    | accepted valid some tree =>
      have path := Address.samePath_iff valid canonical
      rw [leaf?, tree, Tree.find?_insert, Insertion.last?_accepted some]
      split
      next same => rw [if_pos (path.mp same), Option.map_some]
      next other =>
        rw [if_neg fun page => other (path.mpr page)]
        exact ih

/-- What a layout lists for a page is what was asked for last. -/
theorem last?_of_mem {insertions : List Insertion} (listed : mapping ∈ (ofInsertions insertions).mappings) :
    Insertion.last? insertions mapping.page = some mapping := by
  obtain ⟨canonical, aligned, held⟩ := (valid_ofInsertions insertions).leaf?_page listed
  rw [leaf?_ofInsertions insertions canonical, aligned.pageStart] at held
  obtain ⟨last, asked, same⟩ := Option.map_eq_some_iff.mp held
  have page : last.page = mapping.page :=
    of_decide_eq_true (List.mem_filter.mp (List.mem_of_getLast? asked)).2
  cases last
  cases page
  cases same
  exact asked

end Layout

end GuestResume
