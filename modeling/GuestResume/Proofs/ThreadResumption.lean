import GuestResume.Proofs.AddressAliases
import GuestResume.Proofs.ModeDetection

/-! A processor after a captured thread was loaded. The code segment made for the thread is a 64-bit one whatever
its selector, so the control registers alone decide whether they stay or give way to those of an entry to long
mode, and in both cases the processor is in long mode. Nothing of this depends on the flags or the bases in the
dump. Loading the same thread again finds everything in place. -/

namespace GuestResume

namespace Cpu

/-- The control registers are those of a processor that can run 64-bit code. -/
def isPrepared (cpu : Cpu) : Bool :=
  cpu.cr0.get Cr0.pe && cpu.cr4.get Cr4.pae && cpu.efer.get Efer.lme

theorem isPrepared_iff {cpu : Cpu} :
    cpu.isPrepared ↔ cpu.cr0.get Cr0.pe ∧ cpu.cr4.get Cr4.pae ∧ cpu.efer.get Efer.lme := by
  simp only [isPrepared, Bool.and_eq_true, and_assoc]

theorem mode_eq_longMode (cpu : Cpu) (kind : cpu.segments.cs.rights.isLong) :
    cpu.mode = .longMode ↔ cpu.isPrepared := by
  rw [Cpu.mode, ModeBasis.mode_eq_longMode]
  simp only [ModeBasis.isLong, modeBasis, isPrepared, kind, Bool.and_true, Bool.and_eq_true]
  tauto

theorem ensureLong_eq (cpu : Cpu) (kind : cpu.segments.cs.rights.isLong) :
    cpu.ensureLong =
      { cpu with
        cr0 := if cpu.isPrepared then cpu.cr0 else ModeEntry.long.cr0
        cr4 := if cpu.isPrepared then cpu.cr4 else ModeEntry.long.cr4
        efer := if cpu.isPrepared then cpu.efer else ModeEntry.long.efer } := by
  have decides := cpu.mode_eq_longMode kind
  by_cases prepared : cpu.isPrepared
  · rw [ensureLong, if_pos (decides.mpr prepared)]
    simp only [prepared, if_true]
  · rw [ensureLong, if_neg (mt decides.mp prepared)]
    simp only [prepared, if_false, Bool.false_eq_true]

theorem isLong_ofThread (thread : Thread) : (Segments.ofThread thread).cs.rights.isLong :=
  (Descriptor.isLong_code .longMode thread.cs).trans (by decide)

/-- What becomes of each register when a thread is loaded. -/
theorem resume_eq (cpu : Cpu) (thread : Thread) :
    cpu.resume thread =
      { gprs := thread.gprs
        rip := thread.rip
        rflags := { value := FlagTable.rflags.reset ||| thread.rflags }
        segments := .ofThread thread
        gdtr := thread.gdtr.getD cpu.gdtr
        idtr := thread.idtr.getD cpu.idtr
        cr0 := if cpu.isPrepared then cpu.cr0 else ModeEntry.long.cr0
        cr3 := thread.cr3.getD cpu.cr3
        cr4 := if cpu.isPrepared then cpu.cr4 else ModeEntry.long.cr4
        efer := if cpu.isPrepared then cpu.efer else ModeEntry.long.efer
        xcr0 := cpu.xcr0 } := by
  unfold resume
  dsimp only
  rw [ensureLong_eq _ (isLong_ofThread thread)]
  rfl

theorem isPrepared_resume (cpu : Cpu) (thread : Thread) : (cpu.resume thread).isPrepared := by
  rw [resume_eq]
  by_cases prepared : cpu.isPrepared
  · simp only [prepared, if_true]
    exact prepared
  · have entered : (ModeEntry.long.cr0.get Cr0.pe && ModeEntry.long.cr4.get Cr4.pae &&
        ModeEntry.long.efer.get Efer.lme) = true := by decide
    simp only [prepared, if_false, Bool.false_eq_true]
    exact entered

theorem mode_resume (cpu : Cpu) (thread : Thread) : (cpu.resume thread).mode = .longMode := by
  have kind : (cpu.resume thread).segments.cs.rights.isLong := by
    rw [resume_eq]
    exact isLong_ofThread thread
  exact (mode_eq_longMode _ kind).mpr (cpu.isPrepared_resume thread)

/-- Once a thread is loaded nothing that it decides is left to change, and the rest does not change twice. -/
theorem resume_resume (cpu : Cpu) (thread : Thread) :
    (cpu.resume thread).resume thread = cpu.resume thread := by
  have prepared := cpu.isPrepared_resume thread
  have again : ∀ {α : Type} (carried : Option α) (old : α), carried.getD (carried.getD old) = carried.getD old := by
    intro α carried old
    cases carried <;> rfl
  -- The outer call first: what it asks is about the state that the inner one leaves.
  rw [resume_eq (cpu.resume thread)]
  simp only [prepared, if_true]
  rw [resume_eq cpu]
  simp only [again]

end Cpu

/-- The base of the segment is the captured one in canonical form, or zero if none was captured. -/
structure Descriptor.HoldsBase (segment : Descriptor) (captured : Option Address) : Prop where
  canonical : Address.IsCanonical segment.base
  low : segment.base.toNat % 0x1000000000000 = (captured.getD 0).toNat % 0x1000000000000
  unchanged : Address.IsCanonical (captured.getD 0) → segment.base = captured.getD 0

theorem Descriptor.holdsBase {segment : Descriptor} {captured : Option Address}
    (extended : segment.base = Address.signExtend (captured.getD 0)) : segment.HoldsBase captured := by
  refine ⟨?_, ?_, ?_⟩
  · rw [extended]
    exact Address.isCanonical_signExtend _
  · rw [extended, Address.toNat_signExtend_mod]
  · intro canonical
    rw [extended]
    exact (Address.signExtend_eq_self_iff _).mpr canonical

/-- Whatever the state and the thread, loading the thread brings the processor into long mode. Control registers
that are good for it stay, others are those of an entry. The bases of FS and GS are the captured ones in canonical
form. The root of the page table and the descriptor tables are those of the thread where it carries them and stay
otherwise, and the extended states stay. Loading the thread again changes nothing. -/
theorem resume_reaches_long_mode (cpu : Cpu) (thread : Thread) :
    let after := cpu.resume thread
    after.mode = .longMode ∧ after.validMode = .ok .longMode ∧
    (if cpu.cr0.get Cr0.pe ∧ cpu.cr4.get Cr4.pae ∧ cpu.efer.get Efer.lme then
      after.cr0 = cpu.cr0 ∧ after.cr4 = cpu.cr4 ∧ after.efer = cpu.efer
    else
      after.cr0 = ModeEntry.long.cr0 ∧ after.cr4 = ModeEntry.long.cr4 ∧ after.efer = ModeEntry.long.efer) ∧
    after.segments.fs.HoldsBase thread.fsBase ∧ after.segments.gs.HoldsBase thread.gsBase ∧
    after.cr3 = thread.cr3.getD cpu.cr3 ∧ after.gdtr = thread.gdtr.getD cpu.gdtr ∧
    after.idtr = thread.idtr.getD cpu.idtr ∧ after.xcr0 = cpu.xcr0 ∧ after.resume thread = after := by
  intro after
  have found : after.mode = .longMode := cpu.mode_resume thread
  have same : after = _ := cpu.resume_eq thread
  refine ⟨found, ?_, ?_, ?_, ?_, ?_, ?_, ?_, ?_, cpu.resume_resume thread⟩
  · rw [Cpu.validMode, ModeBasis.validMode, show after.modeBasis.mode = .longMode from found]
    rfl
  · rw [same]
    by_cases prepared : cpu.isPrepared
    · rw [if_pos (Cpu.isPrepared_iff.mp prepared)]
      simp only [prepared, if_true, and_self]
    · rw [if_neg (mt Cpu.isPrepared_iff.mpr prepared)]
      simp only [prepared, if_false, Bool.false_eq_true, and_self]
  · rw [same]
    exact Descriptor.holdsBase rfl
  · rw [same]
    exact Descriptor.holdsBase rfl
  all_goals rw [same]

end GuestResume
