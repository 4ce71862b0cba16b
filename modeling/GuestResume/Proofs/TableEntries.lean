import GuestResume.Proofs.PageAddresses
import Mathlib.Algebra.GroupWithZero.Nat

/-! The bits of table entries. An entry made of a frame and flags gives back the frame, and it is
present or large as its flags are. -/

namespace GuestResume

namespace Entry

/-- A mask of adjacent bits cuts a number at both ends. -/
private theorem and_bits (value low width : Nat) :
    value &&& ((2 ^ width - 1) <<< low) = value / 2 ^ low % 2 ^ width * 2 ^ low := by
  apply Nat.eq_of_testBit_eq
  intro bit
  rw [Nat.testBit_and, Nat.testBit_shiftLeft, Nat.testBit_two_pow_sub_one, Nat.testBit_mul_two_pow,
    Nat.testBit_mod_two_pow, Nat.testBit_div_two_pow]
  by_cases above : low ≤ bit
  · simp only [above, decide_true, Bool.true_and, Nat.sub_add_cancel]
    rw [Bool.and_comm]
  · simp only [ge_iff_le, above, decide_false, Bool.false_and, Bool.and_false]

/-- The frame of an entry is a page of physical memory of any size, whatever the entry is. -/
theorem toNat_frame_size (entry : Entry) (size : PageSize) :
    (entry.frame size).toNat = entry.toNat / size.bytes % (Address.physicalLimit / size.bytes) * size.bytes := by
  rw [frame, UInt64.toNat_and]
  cases size with
  | size4K => exact and_bits entry.toNat 12 40
  | size2M => exact and_bits entry.toNat 21 31
  | size1G => exact and_bits entry.toNat 30 22

theorem toNat_frame (entry : Entry) : entry.frame.toNat = entry.toNat / 0x1000 % 0x10000000000 * 0x1000 :=
  toNat_frame_size entry .size4K

theorem isAligned_frame (entry : Entry) : entry.frame.IsAligned := by
  rw [Address.isAligned_iff, toNat_frame]
  exact Nat.mul_mod_left _ _

theorem frame_below (entry : Entry) : entry.frame.toNat < Address.physicalLimit := by
  rw [toNat_frame]
  simp only [Address.physicalLimit, Nat.reduceShiftLeft]
  omega

theorem frame_eq_self {frame : Address} (aligned : frame.IsAligned)
    (below : frame.toNat < Address.physicalLimit) : Entry.frame frame = frame := by
  apply UInt64.toNat_inj.mp
  rw [toNat_frame]
  rw [Address.isAligned_iff] at aligned
  simp only [Address.pageSize, Address.physicalLimit] at aligned below
  omega

private theorem or_and (a b mask : Entry) : (a ||| b) &&& mask = (a &&& mask) ||| (b &&& mask) := by
  apply UInt64.toBitVec_inj.mp
  ext bit inside
  simp [Bool.and_or_distrib_right]

theorem frame_make {frame : Address} {flags : Entry} (aligned : frame.IsAligned)
    (below : frame.toNat < Address.physicalLimit) (outside : flags &&& frameMask .size4K = 0) :
    (make frame flags).frame = frame := by
  have own : frame &&& frameMask .size4K = frame := frame_eq_self aligned below
  rw [make, own, Entry.frame, or_and, own, outside, UInt64.or_zero]

private theorem make_and (frame : Address) (flags mask : Entry) (apart : frameMask .size4K &&& mask = 0) :
    make frame flags &&& mask = flags &&& mask := by
  rw [make, or_and, UInt64.and_assoc, apart, UInt64.and_zero, UInt64.zero_or]

theorem isPresent_make (frame : Address) (flags : Entry) : (make frame flags).isPresent = flags.isPresent := by
  rw [isPresent, make_and _ _ _ (by decide), isPresent]

theorem isLarge_make (frame : Address) (flags : Entry) : (make frame flags).isLarge = flags.isLarge := by
  rw [isLarge, make_and _ _ _ (by decide), isLarge]

theorem flags_make (frame : Address) (flags : Entry) : (make frame flags).flags = flags.flags := by
  rw [Entry.flags, make_and _ _ _ (by decide), Entry.flags]

end Entry

theorem Permission.flags_outside (permission : Permission) :
    permission.flags &&& Entry.frameMask .size4K = 0 := by cases permission <;> decide

theorem Permission.isPresent_flags (permission : Permission) :
    Entry.isPresent permission.flags := by cases permission <;> decide

theorem Permission.flags_named (permission : Permission) :
    Entry.flags permission.flags = permission.flags := by cases permission <;> decide

theorem Permission.writable_flags {permission : Permission} :
    permission.flags &&& Entry.writable ≠ 0 ↔ permission = .data := by cases permission <;> decide

end GuestResume
