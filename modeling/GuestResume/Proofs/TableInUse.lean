import GuestResume.Proofs.TableBinding

/-! A bound table means what its layout means, and goes on doing so. Memory may be written through
the table at will, and pages outside the table may be written, bound and unbound by their physical
addresses; none of this changes a translation. -/

namespace GuestResume

/-- What may happen to memory while a table is in use. -/
inductive Change where
  | writeVirtual (gva : Address) (data : List UInt8)
  | write (gpa : Address) (data : List UInt8)
  | writeWord (gpa : Address) (word : UInt64)
  | insert (gpa : Address) (page : Page)
  | remove (gpa : Address)

namespace Change

/-- The page that a change names by its physical address. -/
def place? : Change → Option Address
  | writeVirtual .. => none
  | write gpa _ | writeWord gpa _ | remove gpa => some gpa.pageStart
  | insert gpa _ => some gpa

def run (root : Address) : Change → Access Space Unit
  | writeVirtual gva data => Space.bus.writeVirtual root gva data
  | write gpa data => Space.bus.write gpa data
  | writeWord gpa word => Space.bus.writeWord gpa word
  | insert gpa page => do let _ ← Space.insert gpa page
  | remove gpa => do let _ ← Space.remove gpa

end Change

/-- Memory after changes of any kind, failed ones included. -/
def Space.changed (root : Address) (changes : List Change) (space : Space) : Space :=
  Access.afterAll (Change.run root) changes space

namespace Layout

variable {layout : Layout} {base : Address} {space : Space}

theorem held_change (valid : layout.Valid) (places : layout.Places base) (change : Change)
    (apart : ∀ place ∈ change.place?, place ∉ (layout.tree.image base).map TablePage.address)
    (held : space.Holds (layout.tree.image base)) :
    (Access.after (change.run base) space).Holds (layout.tree.image base) := by
  have aligned := places.aligned_image
  cases change with
  | writeVirtual gva data => exact (settled valid places).kept_writeVirtual held gva data
  | write gpa data => exact held.touched aligned (Space.touches_write gpa data) (apart _ rfl)
  | writeWord gpa word =>
    exact held.touched aligned (Space.touches_write gpa (Word.toBytes word)) (apart _ rfl)
  | insert gpa page =>
    rw [Change.run, Access.after_map]
    exact held.touched aligned (Space.touches_insert gpa page) (apart _ rfl)
  | remove gpa =>
    rw [Change.run, Access.after_map]
    exact held.touched aligned (Space.touches_remove gpa) (apart _ rfl)

theorem held_changed (valid : layout.Valid) (places : layout.Places base) (changes : List Change)
    (apart : ∀ change ∈ changes, ∀ place ∈ change.place?,
      place ∉ (layout.tree.image base).map TablePage.address)
    (held : space.Holds (layout.tree.image base)) :
    (space.changed base changes).Holds (layout.tree.image base) :=
  Access.afterAll_keeps (fun space : Space => space.Holds (layout.tree.image base))
    (fun change member _ held => held_change valid places change (apart change member) held) held

end Layout

theorem Space.bound_image {layout frozen : Layout} {base root : Address} {image : TableImage}
    {allocator allocated before after : Space}
    (committed : allocator.commit layout base = .ok (image, frozen, allocated))
    (bound : bindImage image before = .ok root after) :
    layout.Places base ∧ image = ⟨base, layout.tree.image base⟩ ∧ root = base ∧
      after.Holds (layout.tree.image base) ∧
      ∀ other, other.pageStart ∉ (layout.tree.image base).map TablePage.address →
        after.page? other = before.page? other := by
  obtain ⟨places, rfl⟩ := Layout.image_ok (commit_ok committed).1
  obtain ⟨rfl, inserted⟩ := bindImage_ok bound
  exact ⟨places, rfl, rfl, insertTables_ok (Tree.nodup_addresses_image _ places.fits) inserted⟩

/-- A layout made by any insertions, written out with pages of one space and bound in another or the
same, is what a walk through the bound table finds, for every address and after any changes that do
not name a page of the table. -/
theorem bound_table_translates (insertions : List Insertion) (base root : Address) (image : TableImage)
    (frozen : Layout) (allocator allocated before after : Space)
    (committed : allocator.commit (Layout.ofInsertions insertions) base = .ok (image, frozen, allocated))
    (bound : Space.bindImage image before = .ok root after) (changes : List Change)
    (apart : ∀ change ∈ changes, ∀ place ∈ change.place?, place ∉ image.pages.map TablePage.address)
    (gva : Address) :
    Space.bus.physical root gva (after.changed root changes) =
        Access.ofExcept ((Layout.ofInsertions insertions).physical gva) (after.changed root changes) ∧
      ∀ target later, Space.bus.lookup root gva (after.changed root changes) = .ok target later →
        target.size = .size4K := by
  obtain ⟨places, rfl, rfl, held, -⟩ := Space.bound_image committed bound
  have valid := Layout.valid_ofInsertions insertions
  have kept := Layout.held_changed valid places changes apart held
  refine ⟨Layout.physical_eq valid places kept gva, ?_⟩
  intro target later found
  rw [Layout.lookup_eq valid places kept] at found
  cases mapped : (Layout.ofInsertions insertions).physical gva <;> rw [mapped] at found <;> cases found
  rfl

/-- A code page in the lower half of the address space and a data page in the upper half. -/
def Insertion.twoHalves : List Insertion :=
  [.plain 0xFFFFF80000000000 0x7123 .data, .tagged 0x400000 0x1000 0, .tagged 0x400000 0x2000 7]

/-- A write that runs into an unmapped page, frames that come and go, and a page at no page address. -/
def Change.around : List Change :=
  [.insert 0x1000 .zero, .writeVirtual 0x400FFE [1, 2, 3, 4], .insert 0x7000 .zero, .write 0x7FF8 [5],
    .remove 0x7000, .insert 0x100001 .zero]

theorem bound_table_translates_twoHalves :
    ∃ root after,
      Space.bindImage ⟨0x100000, (Layout.ofInsertions Insertion.twoHalves).tree.image 0x100000⟩
        { policy := .replace } = .ok root after ∧
      Space.bus.physical root 0xFFFFF80000000123 (after.changed root Change.around) =
        .ok 0x7123 (after.changed root Change.around) := by
  obtain ⟨root, after, bound⟩ := Access.succeeds_iff.mp (show Access.succeeds (Space.bindImage
    ⟨0x100000, (Layout.ofInsertions Insertion.twoHalves).tree.image 0x100000⟩) { policy := .replace } by
      decide +kernel)
  have apart : ∀ change ∈ Change.around, ∀ place ∈ change.place?,
      place ∉ ((Layout.ofInsertions Insertion.twoHalves).tree.image 0x100000).map TablePage.address := by
    intro change member place named
    -- Only the listed places can be looked through.
    have separate : (Change.around.filterMap Change.place?).all fun place =>
        place ∉ ((Layout.ofInsertions Insertion.twoHalves).tree.image 0x100000).map TablePage.address := by
      decide +kernel
    exact of_decide_eq_true (List.all_eq_true.mp separate place (List.mem_filterMap.mpr ⟨change, member, named⟩))
  have translated := bound_table_translates Insertion.twoHalves 0x100000 root _ _ {} _ _ after rfl bound
    Change.around apart 0xFFFFF80000000123
  exact ⟨root, after, bound, translated.1⟩

end GuestResume
