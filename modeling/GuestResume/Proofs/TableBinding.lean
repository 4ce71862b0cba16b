import GuestResume.Proofs.TableWalk
import GuestResume.Proofs.VirtualWrites

/-! Binding a written table puts every one of its pages in place, and nothing but an access to one of
these pages by its own address takes them away again. The frames that the table maps are none of
these pages. -/

namespace GuestResume

namespace Space

variable {space after : Space} {pages : List TablePage}

theorem insert_ok {gpa : Address} {page : Page} {old : Option Page}
    (inserted : insert gpa page space = .ok old after) :
    gpa.IsAligned ∧ old = space.bound[gpa]? ∧
      after = { space with bound := space.bound.insert gpa page } := by
  simp only [insert] at inserted
  split at inserted
  · cases inserted
  next aligned =>
    split at inserted
    · cases inserted
    · cases inserted
      exact ⟨Decidable.not_not.mp aligned, rfl, rfl⟩

theorem insert_error {gpa : Address} {page : Page} {error : MemoryError}
    (refused : insert gpa page space = .error error after) : after = space.release := by
  simp only [insert] at refused
  split at refused
  · cases refused; rfl
  · split at refused <;> cases refused
    rfl

theorem page?_insert {gpa : Address} {page : Page} {old : Option Page}
    (inserted : insert gpa page space = .ok old after) (other : Address) :
    after.page? other = if gpa = other.pageStart then some page else space.page? other := by
  obtain ⟨-, -, rfl⟩ := insert_ok inserted
  exact page?_bind space gpa other page

theorem page?_remove {gpa : Address} {page : Page} (removed : remove gpa space = .ok page after)
    (other : Address) :
    after.page? other = if gpa.pageStart = other.pageStart then none else space.page? other := by
  simp only [remove] at removed
  cases held : space.page? gpa with
  | none => simp [held] at removed
  | some found =>
    simp only [held] at removed
    cases removed
    simp [page?, Std.TreeMap.getElem?_erase]

theorem remove_error {gpa : Address} {error : MemoryError}
    (refused : remove gpa space = .error error after) : after = space := by
  simp only [remove] at refused
  cases held : space.page? gpa <;> simp only [held] at refused <;> cases refused
  rfl

/-- Tables at different addresses do not displace each other. -/
theorem insertTables_ok (distinct : (pages.map TablePage.address).Nodup)
    (inserted : insertTables pages space = .ok () after) :
    after.Holds pages ∧
      ∀ other, other.pageStart ∉ pages.map TablePage.address → after.page? other = space.page? other := by
  induction pages generalizing space with
  | nil =>
    cases inserted
    exact ⟨fun _ member => (List.not_mem_nil member).elim, fun _ _ => rfl⟩
  | cons table rest ih =>
    rw [List.map_cons, List.nodup_cons] at distinct
    obtain ⟨bound, middle, place, further, unchanged⟩ :
        ∃ old middle, insert table.address table.page space = .ok old middle ∧
          ∃ released, insertTables rest released = .ok () after ∧ released.bound = middle.bound := by
      simp only [insertTables] at inserted
      split at inserted
      next old middle place => exact ⟨_, middle, place, middle.release, inserted, rfl⟩
      next middle place => exact ⟨_, middle, place, middle, inserted, rfl⟩
      next => cases inserted
    obtain ⟨continued, unchanged⟩ := unchanged
    obtain ⟨held, apart⟩ := ih distinct.2 continued
    have aligned := (insert_ok place).1
    have same (other : Address) : further.page? other = middle.page? other := by rw [page?, unchanged, page?]
    refine ⟨?_, ?_⟩
    · intro found member
      rcases List.mem_cons.mp member with rfl | later
      · rw [apart _ (aligned.pageStart.symm ▸ distinct.1), same, page?_insert place, if_pos aligned.pageStart.symm]
      · exact held found later
    · intro other absent
      rw [List.map_cons, List.mem_cons, not_or] at absent
      rw [apart other absent.2, same, page?_insert place, if_neg (Ne.symm absent.1)]

theorem commit_ok {layout frozen : Layout} {base : Address} {image : TableImage}
    (committed : space.commit layout base = .ok (image, frozen, after)) :
    layout.image base = .ok image ∧ frozen = layout.freeze ∧ after = space.allocate image.pages.length := by
  simp only [commit] at committed
  cases written : layout.image base with
  | error error =>
    rw [written] at committed
    cases committed
  | ok found =>
    rw [written] at committed
    cases committed
    exact ⟨rfl, rfl, rfl⟩

theorem bindImage_ok {image : TableImage} {root : Address}
    (bound : bindImage image space = .ok root after) :
    root = image.root ∧ insertTables image.pages space = .ok () after := by
  simp only [bindImage] at bound
  split at bound
  · cases bound
  · cases inserted : insertTables image.pages space with
    | ok _ middle =>
      rw [Access.bind_ok inserted] at bound
      cases bound
      exact ⟨rfl, rfl⟩
    | error error middle =>
      rw [Access.bind_error inserted] at bound
      cases bound

/-- The operation leaves every page but the one at the given address as it is. -/
def Touches {α : Type} (place : Address) (operation : Access Space α) : Prop :=
  ∀ space other, other.pageStart ≠ place → (Access.after operation space).page? other = space.page? other

theorem touches_write (gpa : Address) (data : List UInt8) :
    Touches gpa.pageStart (bus.write gpa data) := by
  intro space other elsewhere
  cases done : bus.write gpa data space with
  | ok _ later => rw [Access.after_ok done, page?_write done, if_neg (Ne.symm elsewhere)]
  | error error later => rw [Access.after_error done, write_error done]

theorem touches_insert (gpa : Address) (page : Page) : Touches gpa (insert gpa page) := by
  intro space other elsewhere
  cases done : insert gpa page space with
  | ok old later => rw [Access.after_ok done, page?_insert done, if_neg (Ne.symm elsewhere)]
  | error error later =>
    rw [Access.after_error done, insert_error done]
    rfl

theorem touches_remove (gpa : Address) : Touches gpa.pageStart (remove gpa) := by
  intro space other elsewhere
  cases done : remove gpa space with
  | ok page later => rw [Access.after_ok done, page?_remove done, if_neg (Ne.symm elsewhere)]
  | error error later => rw [Access.after_error done, remove_error done]

theorem Holds.touched {α : Type} (held : space.Holds pages)
    (aligned : ∀ table ∈ pages, table.address.IsAligned) {place : Address} {operation : Access Space α}
    (touches : Touches place operation) (apart : place ∉ pages.map TablePage.address) :
    (Access.after operation space).Holds pages := by
  intro table member
  rw [touches space table.address, held table member]
  rw [(aligned table member).pageStart]
  exact fun same => apart (same ▸ List.mem_map_of_mem member)

end Space

namespace Layout

variable {layout : Layout} {base gva gpa : Address} {space : Space}

theorem physical_ok (mapped : layout.physical gva = .ok gpa) :
    gva.IsCanonical ∧ ∃ leaf, layout.leaf? gva = some leaf ∧ gpa = leaf.frame + UInt64.ofNat gva.offset := by
  simp only [physical] at mapped
  split at mapped
  · cases mapped
  next canonical =>
    cases found : layout.leaf? gva with
    | none => simp [found] at mapped
    | some leaf =>
      simp only [found] at mapped
      cases mapped
      exact ⟨Decidable.not_not.mp canonical, leaf, rfl, rfl⟩

theorem steady_physical (valid : layout.Valid) : Steady layout.physical where
  canonical mapped := (physical_ok mapped).1
  offset := by
    intro gva gpa mapped
    obtain ⟨-, leaf, found, rfl⟩ := physical_ok mapped
    have frame : leaf.Valid := Tree.Valid.find? valid found
    exact frame.aligned.offset_add (Address.offset_lt gva)
  next := by
    intro gva gpa mapped inside
    obtain ⟨canonical, leaf, found, rfl⟩ := physical_ok mapped
    have page := (Address.pageStart_next inside).symm
    have path : Tree.SamePath 4 gva (gva + 1) := fun level _ => Address.index_of_page page level
    rw [leaf?, Tree.find?_samePath path] at found
    rw [physical, if_neg (not_not_intro (Address.isCanonical_of_page page canonical)), leaf?, found,
      Address.offset_next inside, UInt64.ofNat_add]
    exact congrArg Except.ok (UInt64.add_assoc ..).symm

theorem Places.physical_apart (valid : layout.Valid) (places : layout.Places base)
    (mapped : layout.physical gva = .ok gpa) :
    gpa.pageStart ∉ (layout.tree.image base).map TablePage.address := by
  obtain ⟨-, leaf, found, rfl⟩ := physical_ok mapped
  have frame : leaf.Valid := Tree.Valid.find? valid found
  rw [frame.aligned.pageStart_add (Address.offset_lt gva)]
  exact places.frame_apart (frame_mem found)

theorem Places.aligned_image (places : layout.Places base) :
    ∀ table ∈ layout.tree.image base, table.address.IsAligned := by
  intro table member
  obtain ⟨number, -, same⟩ := Tree.mem_addresses_image.mp (List.mem_map_of_mem (f := TablePage.address) member)
  exact same ▸ Tree.isAligned_pagesAfter places.aligned number

/-- While its tables are bound, a layout cannot be changed by writes through them. -/
theorem settled (valid : layout.Valid) (places : layout.Places base) :
    Settled base layout.physical (fun space => space.Holds (layout.tree.image base)) where
  steady := steady_physical valid
  walks := physical_eq valid places
  writes := by
    intro space later gva gpa data held mapped written
    have kept := held.touched places.aligned_image (Space.touches_write gpa data)
      (places.physical_apart valid mapped)
    rwa [Access.after_ok written] at kept

end Layout

end GuestResume
