import GuestResume.Proofs.RegisterBits

/-! Which mode the registers describe. The four descriptions are told apart by three bits: whether the code segment
is a 64-bit one, whether protection is on, and whether the virtual-8086 flag is set. So at most one of them fits,
and the order in which they are tried does not matter. Whatever the selectors are, the registers of an entry with
the code segment made for it fit the mode of the entry. -/

namespace GuestResume

namespace AccessRights

theorem isLong_eq (a : AccessRights) : a.isLong = a.bits.toNat.testBit 9 := by
  have masked : (a.bits &&& 0x200).toNat = (a.bits.toNat.testBit 9).toNat * 2 ^ 9 := by
    rw [UInt16.toNat_and, show (0x200 : UInt16).toNat = 2 ^ 9 from rfl, Nat.and_two_pow]
  rw [isLong, contains, long, Bool.eq_iff_iff, decide_eq_true_iff, ← UInt16.toNat_inj, masked]
  cases a.bits.toNat.testBit 9 <;> decide

/-- The privilege level lies in other bits. -/
theorem isLong_withPrivilege (a : AccessRights) (level : UInt16) : (a.withPrivilege level).isLong = a.isLong := by
  rw [isLong_eq, isLong_eq, withPrivilege, UInt16.toNat_or, Nat.testBit_or, UInt16.toNat_and, Nat.testBit_and]
  have kept : (~~~(0x60 : UInt16)).toNat.testBit 9 = true := by decide
  -- The level has two bits, which are shifted to the places five and six.
  have apart : ((level &&& 3) <<< 5).toNat.testBit 9 = false := by
    have beyond : (level &&& 3).toNat.testBit 4 = false := by
      rw [UInt16.toNat_and, Nat.testBit_and, show (3 : UInt16).toNat.testBit 4 = false from by decide, Bool.and_false]
    rw [UInt16.toNat_shiftLeft, Nat.testBit_mod_two_pow, Nat.testBit_shiftLeft]
    exact (congrArg _ beyond).trans (by decide)
  rw [kept, apart, Bool.and_true, Bool.or_false]

end AccessRights

theorem Descriptor.paragraph_rights (mode : Mode) (selector : UInt16) (kind : AccessRights) :
    (paragraph mode selector kind).rights = (paragraph mode 0 kind).rights :=
  rfl

/-- The code segment of a mode is a 64-bit one exactly in long mode, whoever asks for it. -/
theorem Descriptor.isLong_code (mode : Mode) (selector : UInt16) :
    (code mode selector).rights.isLong = decide (mode = .longMode) := by
  cases mode with
  | longMode => exact (AccessRights.isLong_withPrivilege .longCode selector).trans (by decide)
  | protectedMode => exact (AccessRights.isLong_withPrivilege .flatCode selector).trans (by decide)
  | realMode | virtual8086 | invalid =>
    exact (congrArg AccessRights.isLong (paragraph_rights _ selector .executable)).trans (by decide)

namespace ModeBasis

variable {r : ModeBasis} {mode other : Mode}

/-- The registers fit the description of the mode. Nothing describes the invalid one. -/
def fits (r : ModeBasis) : Mode → Bool
  | .longMode => r.isLong
  | .protectedMode => r.isProtected
  | .virtual8086 => r.isVirtual8086
  | .realMode => r.isReal
  | .invalid => false

/-- All modes that the registers fit. -/
def fitting (r : ModeBasis) : List Mode :=
  [.longMode, .protectedMode, .virtual8086, .realMode].filter r.fits

/-- The only mode that can fit. -/
theorem eq_of_fits (fit : r.fits mode) :
    mode = if r.codeRights.isLong then .longMode else if !r.cr0.get Cr0.pe then .realMode
      else if r.rflags.get Rflags.vm then .virtual8086 else .protectedMode := by
  cases mode <;>
    simp only [fits, isLong, isProtected, isVirtual8086, isLegacyProtected, isReal, Bool.and_eq_true,
      Bool.not_eq_true', Bool.false_eq_true] at fit <;>
    simp [fit]

/-- The mode that is found fits, unless none does. -/
theorem mode_cases (r : ModeBasis) : r.fits r.mode ∨ r.mode = .invalid ∧ ∀ mode, r.fits mode = false := by
  unfold ModeBasis.mode
  split
  next fit => exact .inl fit
  next notLong =>
    split
    next fit => exact .inl fit
    next notProtected =>
      split
      next fit => exact .inl fit
      next notVirtual =>
        split
        next fit => exact .inl fit
        next notReal =>
          refine .inr ⟨rfl, fun mode => ?_⟩
          cases mode with
          | longMode => exact Bool.eq_false_iff.mpr notLong
          | protectedMode => exact Bool.eq_false_iff.mpr notProtected
          | virtual8086 => exact Bool.eq_false_iff.mpr notVirtual
          | realMode => exact Bool.eq_false_iff.mpr notReal
          | invalid => rfl

theorem fits_iff : r.fits mode ↔ mode ≠ .invalid ∧ r.mode = mode := by
  constructor
  · intro fit
    refine ⟨?_, ?_⟩
    · rintro rfl
      cases fit
    · obtain found | ⟨-, nothing⟩ := r.mode_cases
      · exact (eq_of_fits found).trans (eq_of_fits fit).symm
      · rw [nothing] at fit
        cases fit
  · rintro ⟨valid, rfl⟩
    obtain found | ⟨invalid, -⟩ := r.mode_cases
    · exact found
    · exact absurd invalid valid

theorem fitting_eq (r : ModeBasis) : r.fitting = if r.mode = .invalid then [] else [r.mode] := by
  have same : r.fits = fun mode => decide (mode ≠ .invalid ∧ r.mode = mode) :=
    funext fun mode => Bool.eq_iff_iff.mpr (fits_iff.trans decide_eq_true_iff.symm)
  rw [fitting, same]
  cases r.mode <;> rfl

theorem mode_eq_longMode : r.mode = .longMode ↔ r.isLong :=
  (fits_iff.trans (and_iff_right (by decide))).symm

end ModeBasis

/-- An entry's registers and a code segment of the right kind fit the mode of the entry. -/
theorem ModeEntry.fits_registers {entry : ModeEntry} (listed : entry ∈ all) {rights : AccessRights}
    (kind : rights.isLong = decide (entry.mode = .longMode)) : (entry.registers rights).fits entry.mode := by
  obtain rfl | rfl | rfl | rfl := mem_all.mp listed
  · simp only [real, ModeBasis.fits, ModeBasis.isReal, registers, kind]
    decide
  · simp only [flat, ModeBasis.fits, ModeBasis.isProtected, ModeBasis.isLegacyProtected, registers, kind]
    decide
  · simp only [virtual8086, ModeBasis.fits, ModeBasis.isVirtual8086, ModeBasis.isLegacyProtected, registers, kind]
    decide
  · simp only [long, ModeBasis.fits, ModeBasis.isLong, registers, kind]
    decide

end GuestResume
