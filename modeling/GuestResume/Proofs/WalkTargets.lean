import GuestResume.Memory.Command
import GuestResume.Proofs.TableEntries
import GuestResume.Proofs.TableReads

/-! Where a walk can end. Whatever the tables hold and however large the page is that an entry maps, the
physical address lies in physical memory, as far from the start of its page as the virtual address is from
the start of its own. Inside one virtual page all walks end at the same entry. -/

namespace GuestResume

namespace Entry

/-- The frame of a leaf and the distance into it add up without a carry. -/
theorem toNat_target (entry : Entry) (size : PageSize) (gva : Address) :
    (entry.target size gva).address.toNat = (entry.frame size).toNat + gva.toNat % size.bytes := by
  rw [target, UInt64.toNat_add, UInt64.toNat_ofNat', toNat_frame_size]
  cases size <;> simp only [PageSize.bytes, Address.physicalLimit, Nat.reduceShiftLeft, Nat.reduceDiv] <;> omega

theorem target_below (entry : Entry) (size : PageSize) (gva : Address) :
    (entry.target size gva).address.toNat < Address.physicalLimit := by
  rw [toNat_target, toNat_frame_size]
  cases size <;> simp only [PageSize.bytes, Address.physicalLimit, Nat.reduceShiftLeft, Nat.reduceDiv] <;> omega

theorem offset_target (entry : Entry) (size : PageSize) (gva : Address) :
    (entry.target size gva).address.offset = gva.offset := by
  rw [Address.offset, toNat_target, toNat_frame_size, Address.offset]
  cases size <;> simp only [PageSize.bytes, Address.physicalLimit, Address.pageSize, Nat.reduceShiftLeft,
    Nat.reduceDiv] <;> omega

/-- Up to the end of the page, the next virtual address leads to the next physical one. -/
theorem target_next (entry : Entry) (size : PageSize) {gva : Address} (inside : gva.offset + 1 < Address.pageSize) :
    (entry.target size (gva + 1)).address = (entry.target size gva).address + 1 := by
  have below := entry.target_below size gva
  have bound := gva.toNat_lt
  have follows : (gva + 1).toNat % size.bytes = gva.toNat % size.bytes + 1 := by
    rw [UInt64.toNat_add]
    simp only [Address.offset, Address.pageSize] at inside
    cases size <;> simp only [PageSize.bytes, Nat.reduceShiftLeft, UInt64.reduceToNat] <;> omega
  apply UInt64.toNat_inj.mp
  rw [UInt64.toNat_add, toNat_target, follows, toNat_target]
  rw [toNat_target] at below
  simp only [Address.physicalLimit, Nat.reduceShiftLeft, UInt64.reduceToNat] at below ⊢
  omega

end Entry

namespace Bus

variable {σ : Type} {bus : Bus σ} {state later : σ} {gva other : Address}

/-- Addresses of one page select the same entries. -/
theorem presentEntry_page (page : gva.pageStart = other.pageStart) {level : Nat} {table : Address} {entry : Entry}
    (done : bus.presentEntry gva level table state = .ok entry later) :
    bus.presentEntry other level table state = .ok entry later := by
  obtain ⟨read, middle, asked, checked⟩ := Access.exists_of_bind_ok done
  rw [presentEntry, ← Address.index_of_page page, Access.bind_ok asked]
  cases present : read.isPresent with
  | true =>
    rw [present] at checked
    exact checked
  | false =>
    rw [present] at checked
    cases checked

/-- A walk that succeeds ends at an entry that maps the whole page. -/
theorem walk_page {level : Nat} {table : Address} {target : Target}
    (done : bus.walk gva level table state = .ok target later) :
    ∃ (entry : Entry) (size : PageSize), target = entry.target size gva ∧ ∀ other : Address,
      gva.pageStart = other.pageStart → bus.walk other level table state = .ok (entry.target size other) later := by
  induction level generalizing table state with
  | zero =>
    obtain ⟨entry, middle, present, finished⟩ := Access.exists_of_bind_ok done
    cases finished
    refine ⟨entry, .size4K, rfl, fun other page => ?_⟩
    exact Access.bind_ok (presentEntry_page page present)
  | succ level ih =>
    obtain ⟨entry, middle, present, further⟩ := Access.exists_of_bind_ok done
    cases leaf : entry.leafSize? (level + 1) with
    | some size =>
      rw [leaf] at further
      cases further
      refine ⟨entry, size, rfl, fun other page => ?_⟩
      rw [walk, Access.bind_ok (presentEntry_page page present), leaf]
      rfl
    | none =>
      rw [leaf] at further
      obtain ⟨last, size, same, walks⟩ := ih further
      refine ⟨last, size, same, fun other page => ?_⟩
      rw [walk, Access.bind_ok (presentEntry_page page present), leaf]
      exact walks other page

theorem canonical_physical {cr3 gpa : Address} (done : bus.physical cr3 gva state = .ok gpa later) :
    gva.IsCanonical := by
  obtain ⟨target, middle, found, -⟩ := Access.exists_of_bind_ok done
  by_cases canonical : gva.IsCanonical
  · exact canonical
  · rw [lookup, if_neg canonical] at found
    cases found

theorem physical_page {cr3 gpa : Address} (done : bus.physical cr3 gva state = .ok gpa later) :
    ∃ (entry : Entry) (size : PageSize), gpa = (entry.target size gva).address ∧ ∀ other : Address,
      gva.pageStart = other.pageStart → bus.physical cr3 other state = .ok (entry.target size other).address later := by
  have canonical := canonical_physical done
  obtain ⟨target, middle, found, finished⟩ := Access.exists_of_bind_ok done
  cases finished
  rw [lookup, if_pos canonical] at found
  obtain ⟨entry, size, same, walks⟩ := walk_page found
  refine ⟨entry, size, congrArg Target.address same, fun other page => ?_⟩
  have looked : bus.lookup cr3 other state = .ok (entry.target size other) later := by
    rw [lookup, if_pos (Address.isCanonical_of_page page canonical)]
    exact walks other page
  exact Access.bind_ok looked

theorem offset_physical {cr3 gpa : Address} (done : bus.physical cr3 gva state = .ok gpa later) :
    gpa.offset = gva.offset := by
  obtain ⟨entry, size, rfl, -⟩ := physical_page done
  exact entry.offset_target size gva

theorem physical_next {cr3 gpa : Address} (done : bus.physical cr3 gva state = .ok gpa later)
    (inside : gva.offset + 1 < Address.pageSize) : bus.physical cr3 (gva + 1) state = .ok (gpa + 1) later := by
  obtain ⟨entry, size, rfl, walks⟩ := physical_page done
  rw [← entry.target_next size inside]
  exact walks _ (Address.pageStart_next inside).symm

end Bus

end GuestResume
