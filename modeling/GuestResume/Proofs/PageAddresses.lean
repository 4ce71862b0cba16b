import GuestResume.Memory.Table

/-! Addresses split into the page they lie in and the distance into it. Nearly every fact about
memory starts from an aligned page address and a distance below the page size. -/

namespace GuestResume

namespace Address

variable {page a b : Address}

theorem toNat_pageStart (a : Address) : a.pageStart.toNat = a.toNat / pageSize * pageSize := by
  have bound := a.toNat_lt
  simp only [pageStart, offset, pageSize, UInt64.toNat_sub, UInt64.toNat_ofNat']
  omega

theorem isAligned_iff : a.IsAligned ↔ a.toNat % pageSize = 0 := Iff.rfl

theorem isAligned_pageStart (a : Address) : a.pageStart.IsAligned := by
  rw [isAligned_iff, toNat_pageStart, Nat.mul_mod_left]

theorem IsAligned.pageStart (aligned : page.IsAligned) : page.pageStart = page := by
  have distance : page.offset = 0 := aligned
  simp [Address.pageStart, distance]

@[simp]
theorem pageStart_pageStart (a : Address) : a.pageStart.pageStart = a.pageStart :=
  (isAligned_pageStart a).pageStart

theorem IsAligned.toNat_add (aligned : page.IsAligned) {distance : Nat} (inside : distance < pageSize) :
    (page + UInt64.ofNat distance).toNat = page.toNat + distance := by
  have bound := page.toNat_lt
  rw [isAligned_iff] at aligned
  simp only [pageSize] at aligned inside
  simp only [UInt64.toNat_add, UInt64.toNat_ofNat']
  omega

theorem IsAligned.offset_add (aligned : page.IsAligned) {distance : Nat} (inside : distance < pageSize) :
    (page + UInt64.ofNat distance).offset = distance := by
  rw [offset, aligned.toNat_add inside]
  rw [isAligned_iff] at aligned
  simp only [pageSize] at aligned inside ⊢
  omega

theorem IsAligned.pageStart_add (aligned : page.IsAligned) {distance : Nat} (inside : distance < pageSize) :
    (page + UInt64.ofNat distance).pageStart = page := by
  apply UInt64.toNat_inj.mp
  rw [toNat_pageStart, aligned.toNat_add inside]
  rw [isAligned_iff] at aligned
  simp only [pageSize] at aligned inside ⊢
  omega

theorem pageStart_add_offset (a : Address) : a.pageStart + UInt64.ofNat a.offset = a := by
  simp [pageStart]

theorem index_lt (level : Nat) (a : Address) : a.index level < entriesPerTable :=
  Nat.mod_lt _ (by decide)

private theorem add_eq (a : Address) (distance : Nat) :
    a + UInt64.ofNat distance = a.pageStart + UInt64.ofNat (a.offset + distance) := by
  rw [UInt64.ofNat_add, ← UInt64.add_assoc, pageStart_add_offset]

/-- Up to the end of the page, addresses lie in the same page. -/
theorem pageStart_add {distance : Nat} (inside : a.offset + distance < pageSize) :
    (a + UInt64.ofNat distance).pageStart = a.pageStart := by
  rw [add_eq, (isAligned_pageStart a).pageStart_add inside]

theorem pageStart_next (inside : a.offset + 1 < pageSize) : (a + 1).pageStart = a.pageStart :=
  pageStart_add inside

theorem offset_next (inside : a.offset + 1 < pageSize) : (a + 1).offset = a.offset + 1 :=
  (congrArg offset (add_eq a 1)).trans ((isAligned_pageStart a).offset_add inside)

theorem ext_page (page : a.pageStart = b.pageStart) (offset : a.offset = b.offset) : a = b := by
  rw [← a.pageStart_add_offset, ← b.pageStart_add_offset, page, offset]

private theorem toNat_div_of_page (page : a.pageStart = b.pageStart) :
    a.toNat / pageSize = b.toNat / pageSize := by
  have starts := congrArg UInt64.toNat page
  rw [toNat_pageStart, toNat_pageStart] at starts
  exact Nat.eq_of_mul_eq_mul_right (by decide) starts

theorem index_of_page (page : a.pageStart = b.pageStart) (level : Nat) : a.index level = b.index level := by
  have same : a.toNat >>> pageBits = b.toNat >>> pageBits := by
    rw [Nat.shiftRight_eq_div_pow, Nat.shiftRight_eq_div_pow]
    exact toNat_div_of_page page
  rw [index, index, Nat.shiftRight_add, Nat.shiftRight_add, same]

theorem isCanonical_of_page (page : a.pageStart = b.pageStart) (canonical : a.IsCanonical) :
    b.IsCanonical := by
  have same := toNat_div_of_page page
  simp only [IsCanonical, UInt64.lt_iff_toNat_lt, UInt64.le_iff_toNat_le, pageSize] at canonical same ⊢
  simp only [UInt64.reduceToNat] at canonical ⊢
  omega

end Address

end GuestResume
