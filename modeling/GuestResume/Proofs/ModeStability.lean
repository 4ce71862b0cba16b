import GuestResume.Proofs.ModeDetection
import GuestResume.Proofs.RegisterReach

/-! The mode that was entered stays. The mode depends on six flags and on the kind of the code segment, and on
nothing else, so an operation that spares these does not change it. Whatever state a processor was in, an entry
brings it into the mode of the entry, and there it remains until one of the seven is changed. -/

namespace GuestResume

instance {table : FlagTable} (index : Nat) : (command : RegisterCommand table) → Decidable (command.Reaches index)
  | .set .. | .merge _ => inferInstanceAs (Decidable (_ ∧ _))
  | .write .. => inferInstanceAs (Decidable (∃ flag ∈ table.flags, _))
  | .load _ | .reset => .isTrue trivial
  | .get _ | .read _ | .value | .name | .render | .renderFull | .equals _ | .find _ | .describe _ | .mask _
  | .writableBits | .flags => .isFalse id

/-- The bits that the mode depends on. -/
def ControlName.modeBits : ControlName → List Nat
  | cr0 => [Cr0.pe.val.bit, Cr0.pg.val.bit]
  | cr4 => [Cr4.pae.val.bit, Cr4.pge.val.bit]
  | efer => [Efer.lme.val.bit]
  | rflags => [Rflags.vm.val.bit]
  | xcr0 => []

/-- The command changes nothing that the mode depends on. -/
def CpuCommand.SparesMode : CpuCommand → Prop
  | .register name command => ∀ index ∈ name.modeBits, ¬command.Reaches index
  | .setSegment name _ => name ≠ .cs
  | .enter .. | .resume _ | .reset | .restore => False
  | _ => True

instance : (command : CpuCommand) → Decidable command.SparesMode
  | .register name command => inferInstanceAs (Decidable (∀ index ∈ name.modeBits, ¬command.Reaches index))
  | .setSegment name _ => inferInstanceAs (Decidable (name ≠ .cs))
  | .enter .. | .resume _ | .reset | .restore => .isFalse id
  | .gpr _ | .withGpr .. | .setRip _ | .setCr3 _ | .setGdtr _ | .setIdtr _ | .enableVectors | .mode | .validMode
  | .modeBasis | .dump | .dumpFull | .save | .same => .isTrue trivial

namespace Cpu

/-- Everything that the mode depends on is the same. -/
structure Alike (before after : Cpu) : Prop where
  bits : ∀ name, ∀ index ∈ ControlName.modeBits name,
    (after.register name).bit index = (before.register name).bit index
  rights : after.segments.cs.rights = before.segments.cs.rights

variable {before middle after : Cpu}

theorem Alike.refl (cpu : Cpu) : Alike cpu cpu :=
  ⟨fun _ _ _ => rfl, rfl⟩

theorem Alike.trans (first : Alike before middle) (second : Alike middle after) : Alike before after :=
  ⟨fun name index member => (second.bits name index member).trans (first.bits name index member),
    second.rights.trans first.rights⟩

theorem Alike.get (alike : Alike before after) (name : ControlName) (flag : name.table.Member)
    (decides : flag.val.bit ∈ name.modeBits) : (after.register name).get flag = (before.register name).get flag := by
  have distinct := FlagTable.distinct name
  rw [Register.get_eq distinct, Register.get_eq distinct, alike.bits name _ decides]

theorem Alike.fits (alike : Alike before after) : after.modeBasis.fits = before.modeBasis.fits := by
  have pe : after.cr0.get Cr0.pe = before.cr0.get Cr0.pe := alike.get .cr0 Cr0.pe (by decide)
  have pg : after.cr0.get Cr0.pg = before.cr0.get Cr0.pg := alike.get .cr0 Cr0.pg (by decide)
  have pae : after.cr4.get Cr4.pae = before.cr4.get Cr4.pae := alike.get .cr4 Cr4.pae (by decide)
  have pge : after.cr4.get Cr4.pge = before.cr4.get Cr4.pge := alike.get .cr4 Cr4.pge (by decide)
  have lme : after.efer.get Efer.lme = before.efer.get Efer.lme := alike.get .efer Efer.lme (by decide)
  have vm : after.rflags.get Rflags.vm = before.rflags.get Rflags.vm := alike.get .rflags Rflags.vm (by decide)
  funext mode
  cases mode with
  | longMode => simp only [ModeBasis.fits, ModeBasis.isLong, modeBasis, lme, pae, pe, alike.rights]
  | protectedMode =>
    simp only [ModeBasis.fits, ModeBasis.isProtected, ModeBasis.isLegacyProtected, modeBasis, pe, lme, pae, vm,
      alike.rights]
  | virtual8086 =>
    simp only [ModeBasis.fits, ModeBasis.isVirtual8086, ModeBasis.isLegacyProtected, modeBasis, pe, lme, pae, vm,
      alike.rights]
  | realMode => simp only [ModeBasis.fits, ModeBasis.isReal, modeBasis, pe, pg, pae, pge, alike.rights]
  | invalid => rfl

/-- Switching on the vector registers sets flags that the mode does not depend on. -/
theorem alike_enableVectors (cpu : Cpu) : Alike cpu cpu.enableVectors := by
  refine ⟨?_, rfl⟩
  intro name index member
  have spared {table : FlagTable} (distinct : table.Distinct) (register : Register table) {a b : table.Member}
      {on off : Bool} (apart : index ≠ a.val.bit ∧ index ≠ b.val.bit) :
      ((register.set a on).set b off).bit index = register.bit index :=
    (Register.bit_set_spared distinct _ fun same => apart.2 same.2.symm).trans
      (Register.bit_set_spared distinct _ fun same => apart.1 same.2.symm)
  cases name with
  | rflags | efer => rfl
  | xcr0 => cases member
  | cr0 =>
    have apart : ∀ index ∈ ControlName.cr0.modeBits, index ≠ Cr0.mp.val.bit ∧ index ≠ Cr0.em.val.bit := by decide
    exact spared (FlagTable.distinct .cr0) cpu.cr0 (apart index member)
  | cr4 =>
    have apart : ∀ index ∈ ControlName.cr4.modeBits,
        index ≠ Cr4.osfxsr.val.bit ∧ index ≠ Cr4.osxsave.val.bit := by decide
    exact spared (FlagTable.distinct .cr4) cpu.cr4 (apart index member)

/-- Whatever the state was and whatever the selectors are, an entry brings about its mode. -/
theorem fits_enter (cpu : Cpu) {entry : ModeEntry} (listed : entry ∈ ModeEntry.all) (code data : UInt16) :
    (cpu.enter entry code data).modeBasis.fits entry.mode :=
  ModeEntry.fits_registers listed (Descriptor.isLong_code entry.mode code)

end Cpu

namespace CpuDesk

variable {desk : CpuDesk}

theorem alike_after {command : CpuCommand} (spared : command.SparesMode) :
    Cpu.Alike desk.cpu (desk.after command).cpu := by
  cases command with
  | register name command =>
    refine ⟨fun other index member => bit_after_register desk other ?_, ?_⟩
    · rintro rfl
      exact spared index member
    · rw [after_register]
      cases name <;> rfl
  | setSegment name descriptor =>
    refine ⟨fun other _ _ => by cases other <;> rfl, ?_⟩
    cases name with
    | cs => exact absurd rfl spared
    | es | ss | ds | fs | gs => rfl
  | enableVectors => exact desk.cpu.alike_enableVectors
  | enter | resume | reset | restore => exact spared.elim
  | withGpr | setRip | setCr3 | setGdtr | setIdtr => exact ⟨fun other _ _ => by cases other <;> rfl, rfl⟩
  | validMode =>
    rw [after_validMode]
    exact .refl _
  | gpr | mode | modeBasis | dump | dumpFull | save | same => exact .refl _

theorem alike_afterAll (desk : CpuDesk) {commands : List CpuCommand}
    (spared : ∀ command ∈ commands, command.SparesMode) : Cpu.Alike desk.cpu (desk.afterAll commands).cpu := by
  induction commands generalizing desk with
  | nil => exact .refl _
  | cons command rest ih =>
    have first : Cpu.Alike desk.cpu (desk.after command).cpu := alike_after (spared command List.mem_cons_self)
    exact first.trans (ih _ fun later member => spared later (List.mem_cons_of_mem _ member))

end CpuDesk

/-- A processor that entered a mode is in that mode and in no other, whatever its state was before, and through any
operations that spare what the mode depends on. Of the four modes at most one fits any registers at all, and the
mode is invalid exactly if none fits. -/
theorem entered_mode_stays (desk : CpuDesk) {entry : ModeEntry} (listed : entry ∈ ModeEntry.all)
    (code data : UInt16) {commands : List CpuCommand} (spared : ∀ command ∈ commands, command.SparesMode) :
    let cpu := ((desk.after (.enter entry code data)).afterAll commands).cpu
    cpu.mode = entry.mode ∧ cpu.modeBasis.fitting = [entry.mode] ∧
    ∀ registers : ModeBasis, registers.fitting.length ≤ 1 ∧ (registers.mode = .invalid ↔ registers.fitting = []) := by
  intro cpu
  have alike : Cpu.Alike (desk.cpu.enter entry code data) cpu :=
    (desk.after (.enter entry code data)).alike_afterAll spared
  have fit : cpu.modeBasis.fits entry.mode := by
    rw [alike.fits]
    exact desk.cpu.fits_enter listed code data
  obtain ⟨valid, found⟩ := ModeBasis.fits_iff.mp fit
  refine ⟨found, ?_, ?_⟩
  · rw [ModeBasis.fitting_eq, found, if_neg valid]
  · intro registers
    rw [ModeBasis.fitting_eq]
    by_cases invalid : registers.mode = .invalid
    · simp [invalid]
    · simp [invalid]

/-- Operations of every kind that spare the mode, close to the flags that decide it. -/
def CpuCommand.sparing : List CpuCommand :=
  [.enableVectors, .register .cr0 (.merge 0x7FFFFFFE), .register .cr0 (.set Cr0.wp false),
    .register .cr4 (.write "VME" true), .register .cr4 (.write "PG" true), .register .xcr0 (.load 0),
    .register .rflags (.set Rflags.overflow true), .setSegment .fs { rights := .flatCode }, .setCr3 0x1000, .save]

/-- A thread of a user enters long mode from a state that fits no mode. -/
theorem entered_mode_stays_sparing :
    let desk : CpuDesk := { cpu := { cr0 := { value := 0x80000000 } } }
    desk.cpu.mode = .invalid ∧ ModeEntry.long ∈ ModeEntry.all ∧
    (∀ command ∈ CpuCommand.sparing, command.SparesMode) ∧
    ((desk.after (.enter .long 0x33 0x2B)).afterAll CpuCommand.sparing).cpu.mode = .longMode := by
  intro desk
  have spared : ∀ command ∈ CpuCommand.sparing, command.SparesMode := by decide
  have listed : ModeEntry.long ∈ ModeEntry.all := by decide
  exact ⟨by decide, listed, spared, (entered_mode_stays desk listed 0x33 0x2B spared).1⟩

end GuestResume
