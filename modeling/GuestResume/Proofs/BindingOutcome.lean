import GuestResume.Proofs.TableInUse

/-! Binding a table is all or nothing. Its places are looked at before the first page is bound, and since they are
different page addresses, none of them can turn out to be taken later on. So a table is refused whole, or
bound whole. -/

namespace GuestResume

/-- In ascending order, what is found first is the lowest that can be found. -/
theorem find?_lowest {items : List Address} (sorted : items.Pairwise (· < ·)) {wanted : Address → Bool}
    {first : Address} (found : items.find? wanted = some first) {other : Address} (member : other ∈ items)
    (also : wanted other) : first ≤ other := by
  obtain ⟨-, before, after, rfl, unwanted⟩ := List.find?_eq_some_iff_append.mp found
  obtain early | late := List.mem_append.mp member
  · have passed := unwanted other early
    rw [also] at passed
    cases passed
  · obtain rfl | later := List.mem_cons.mp late
    · exact UInt64.le_refl _
    · have ordered := (List.pairwise_append.mp sorted).2.1
      exact UInt64.le_of_lt (List.rel_of_pairwise_cons ordered later)

theorem Tree.length_image {height : Nat} (base : Address) (tree : Tree height) :
    (tree.image base).length = tree.tableCount := by
  have addresses := congrArg List.length (addresses_image base tree)
  rwa [List.length_map, List.length_map, List.length_range] at addresses

namespace Space

variable {space after : Space} {pages : List TablePage}

/-- How many of the tables come to lie where a page is bound. -/
def displaced (space : Space) (pages : List TablePage) : Nat :=
  pages.countP fun table => space.isBound table.address

theorem contains_eq_isBound {gpa : Address} (aligned : gpa.IsAligned) (space : Space) :
    space.bound.contains gpa = space.isBound gpa := by
  rw [isBound, aligned.pageStart]

/-- The space with a table bound, whatever page was there before. -/
def withTable (space : Space) (table : TablePage) : Space :=
  { space with bound := space.bound.insert table.address table.page }

/-- The space after a table was bound and the page that it displaced was taken back. -/
def replacing (space : Space) (table : TablePage) : Space :=
  if space.isBound table.address then (space.withTable table).release else space.withTable table

theorem insertTables_cons {table : TablePage} {rest : List TablePage} (aligned : table.address.IsAligned)
    (free : space.policy = .reject → space.isBound table.address = false) :
    insertTables (table :: rest) space = insertTables rest (space.replacing table) := by
  have fits : ¬(space.policy = .reject ∧ space.bound.contains table.address) := by
    rintro ⟨reject, taken⟩
    rw [contains_eq_isBound aligned, free reject] at taken
    cases taken
  have placed : insert table.address table.page space =
      .ok space.bound[table.address]? (space.withTable table) := by
    rw [insert, if_neg (not_not_intro aligned), if_neg fits, withTable]
  have held : space.isBound table.address = (space.bound[table.address]?).isSome := by
    rw [isBound_eq, page?, aligned.pageStart]
  cases old : space.bound[table.address]? <;> simp [insertTables, placed, replacing, held, old]

theorem replacing_counts (space : Space) (table : TablePage) :
    (space.replacing table).policy = space.policy ∧ (space.replacing table).allocated = space.allocated ∧
      (space.replacing table).released = space.released + if space.isBound table.address then 1 else 0 := by
  unfold replacing
  split <;> exact ⟨rfl, rfl, rfl⟩

theorem isBound_replacing {table : TablePage} {other : Address} (aligned : other.IsAligned)
    (apart : table.address ≠ other) : (space.replacing table).isBound other = space.isBound other := by
  have bound : (space.replacing table).bound = space.bound.insert table.address table.page := by
    unfold replacing
    split <;> rfl
  rw [isBound, isBound, bound, aligned.pageStart, Std.TreeMap.contains_insert]
  simp [apart]

/-- Tables at different page addresses can all be bound, where pages are replaced or their places are free. -/
theorem insertTables_fits (aligned : ∀ table ∈ pages, table.address.IsAligned)
    (distinct : (pages.map TablePage.address).Nodup)
    (free : space.policy = .reject → ∀ table ∈ pages, space.isBound table.address = false) :
    ∃ after, insertTables pages space = .ok () after ∧ after.policy = space.policy ∧
      after.allocated = space.allocated ∧ after.released = space.released + space.displaced pages := by
  induction pages generalizing space with
  | nil => exact ⟨space, rfl, rfl, rfl, rfl⟩
  | cons table rest ih =>
    rw [List.map_cons, List.nodup_cons] at distinct
    -- The table leaves the places of the others as they are.
    have same : ∀ other ∈ rest, (space.replacing table).isBound other.address = space.isBound other.address := by
      intro other member
      apply isBound_replacing (aligned other (List.mem_cons_of_mem _ member))
      intro equal
      exact distinct.1 (equal ▸ List.mem_map_of_mem member)
    have count : (space.replacing table).displaced rest = space.displaced rest :=
      List.countP_congr fun other member => by rw [same other member]
    obtain ⟨policy, allocated, released⟩ := space.replacing_counts table
    obtain ⟨after, inserted, later⟩ := @ih (space.replacing table)
      (fun other member => aligned other (List.mem_cons_of_mem _ member)) distinct.2
      (fun reject other member => (same other member).trans
        (free (policy.symm.trans reject) other (List.mem_cons_of_mem _ member)))
    refine ⟨after, ?_, later.1.trans policy, later.2.1.trans allocated, ?_⟩
    · rw [insertTables_cons (aligned table List.mem_cons_self) fun reject => free reject table List.mem_cons_self]
      exact inserted
    · rw [later.2.2, count, released, displaced, displaced, List.countP_cons]
      omega

/-- A table image is refused whole, for the lowest of its places that is taken, or bound. -/
theorem bindImage_cases (image : TableImage) (aligned : ∀ table ∈ image.pages, table.address.IsAligned)
    (sorted : (image.pages.map TablePage.address).Pairwise (· < ·)) (space : Space) :
    (∃ table ∈ image.pages, space.policy = .reject ∧ space.isBound table.address ∧
      (∀ other ∈ image.pages, space.isBound other.address → table.address ≤ other.address) ∧
      bindImage image space = .error (.alreadyBound table.address) (space.release image.pages.length)) ∨
    (space.policy = .reject → space.displaced image.pages = 0) ∧
      ∃ after, bindImage image space = .ok image.root after ∧ after.policy = space.policy ∧
        after.allocated = space.allocated ∧ after.released = space.released + space.displaced image.pages := by
  cases taken : (if space.policy = .reject then
    (image.pages.map TablePage.address).find? space.bound.contains else none) with
  | some gpa =>
    left
    have refused : bindImage image space = .error (.alreadyBound gpa) (space.release image.pages.length) := by
      simp only [bindImage, taken]
    split at taken
    next reject =>
      obtain ⟨table, member, rfl⟩ := List.mem_map.mp (List.mem_of_find?_eq_some taken)
      have bound := List.find?_some taken
      rw [contains_eq_isBound (aligned table member)] at bound
      refine ⟨table, member, reject, bound, ?_, refused⟩
      intro other listed also
      rw [← contains_eq_isBound (aligned other listed)] at also
      exact find?_lowest sorted taken (List.mem_map_of_mem listed) also
    · cases taken
  | none =>
    right
    have free : space.policy = .reject → ∀ table ∈ image.pages, space.isBound table.address = false := by
      intro reject table member
      rw [if_pos reject, List.find?_eq_none] at taken
      have absent := taken table.address (List.mem_map_of_mem member)
      rwa [contains_eq_isBound (aligned table member), Bool.not_eq_true] at absent
    obtain ⟨after, inserted, counts⟩ := insertTables_fits aligned (sorted.imp UInt64.ne_of_lt) free
    refine ⟨fun reject => ?_, after, ?_, counts⟩
    · apply List.countP_eq_zero.mpr
      intro table member
      rw [free reject table member]
      exact Bool.false_ne_true
    · simp only [bindImage, taken]
      exact Access.bind_ok inserted

/-- A table is refused for its lowest place that is taken. All of its pages are taken back, and the space differs
in nothing else. -/
structure Refuses (space : Space) (image : TableImage) (taken : Address) (later : Space) : Prop where
  rejects : space.policy = .reject
  place : taken ∈ image.pages.map TablePage.address
  bound : space.isBound taken
  lowest : ∀ table ∈ image.pages, space.isBound table.address → taken ≤ table.address
  bindings : later.bound = space.bound
  policy : later.policy = space.policy
  allocated : later.allocated = space.allocated
  released : later.released = space.released + image.pages.length

/-- A table is bound. The pages that it displaces are taken back, and all others stay. -/
structure Binds (space : Space) (image : TableImage) (later : Space) : Prop where
  tables : ∀ table ∈ image.pages, later.page? table.address = some table.page
  others : ∀ gpa : Address, gpa.pageStart ∉ image.pages.map TablePage.address →
    later.page? gpa = space.page? gpa
  policy : later.policy = space.policy
  allocated : later.allocated = space.allocated
  released : later.released = space.released + space.displaced image.pages
  rejects : space.policy = .reject → space.displaced image.pages = 0

end Space

/-- A table that was written out for a layout can be bound in any space. The space refuses it exactly if it does not
replace pages and one of the places is taken; then nothing is bound, and all pages of the table are taken back. Else
all of them are bound where they belong. -/
theorem bind_all_or_nothing {layout frozen : Layout} {base : Address} {image : TableImage}
    {allocator allocated : Space} (committed : allocator.commit layout base = .ok (image, frozen, allocated))
    (space : Space) :
    (¬Access.succeeds (Space.bindImage image) space ↔
      space.policy = .reject ∧ ∃ table ∈ image.pages, space.isBound table.address) ∧
    match Space.bindImage image space with
    | .error error later => ∃ taken, error = .alreadyBound taken ∧ space.Refuses image taken later
    | .ok root later => root = base ∧ space.Binds image later := by
  obtain ⟨places, rfl⟩ := Layout.image_ok (Space.commit_ok committed).1
  obtain ⟨table, member, reject, bound, lowest, refused⟩ | ⟨free, after, done, policy, allocated, released⟩ :=
    Space.bindImage_cases ⟨base, layout.tree.image base⟩ places.aligned_image
      (Tree.sorted_addresses_image _ places.fits) space
  · rw [Access.succeeds, refused]
    refine ⟨iff_of_true Bool.false_ne_true ⟨reject, table, member, bound⟩, table.address, rfl, ?_⟩
    exact {
      rejects := reject
      place := List.mem_map_of_mem member
      bound := bound
      lowest := lowest
      bindings := rfl
      policy := rfl
      allocated := rfl
      released := rfl }
  · have untaken : ¬(space.policy = .reject ∧ ∃ table ∈ layout.tree.image base, space.isBound table.address) := by
      rintro ⟨reject, table, member, bound⟩
      exact List.countP_eq_zero.mp (free reject) table member bound
    obtain ⟨-, -, -, tables, others⟩ := Space.bound_image committed done
    rw [Access.succeeds, done]
    exact ⟨iff_of_false (fun failed => failed rfl) untaken, rfl, tables, others, policy, allocated, released, free⟩

/-- A space with pages where the fourth and the sixth table of two mapped pages belong. -/
def Space.inTheWay : Space :=
  { bound := (∅ : Std.TreeMap Address Page).insert 0x105000 .zero |>.insert 0x103000 .zero, allocated := 9 }

/-- It refuses the seven tables for the fourth of them. -/
theorem bind_all_or_nothing_inTheWay :
    ∃ later, Space.bindImage ⟨0x100000, (Layout.ofInsertions Insertion.twoHalves).tree.image 0x100000⟩
        Space.inTheWay = .error (.alreadyBound 0x103000) later ∧
      later.bound = Space.inTheWay.bound ∧ later.released = 7 := by
  have committed : ({} : Space).commit (Layout.ofInsertions Insertion.twoHalves) 0x100000 = .ok (_, _, _) := rfl
  obtain ⟨refuses, outcome⟩ := bind_all_or_nothing committed Space.inTheWay
  have failed := refuses.mpr (by decide +kernel)
  cases done : Space.bindImage ⟨0x100000, (Layout.ofInsertions Insertion.twoHalves).tree.image 0x100000⟩
    Space.inTheWay with
  | ok root later => exact absurd (Access.succeeds_iff.mpr ⟨root, later, done⟩) failed
  | error error later =>
    simp only [done] at outcome
    obtain ⟨taken, rfl, refused⟩ := outcome
    obtain ⟨table, member, place, bound⟩ : ∃ table ∈ (Layout.ofInsertions Insertion.twoHalves).tree.image 0x100000,
        table.address = 0x103000 ∧ Space.inTheWay.isBound table.address := by decide +kernel
    have others : ∀ other ∈ (Layout.ofInsertions Insertion.twoHalves).tree.image 0x100000,
        Space.inTheWay.isBound other.address → 0x103000 ≤ other.address := by decide +kernel
    obtain ⟨first, listed, rfl⟩ := List.mem_map.mp refused.place
    have same : first.address = 0x103000 :=
      UInt64.le_antisymm (place ▸ refused.lowest table member bound) (others first listed refused.bound)
    exact ⟨later, by rw [same], refused.bindings, refused.released.trans (by decide +kernel)⟩

end GuestResume
