import GuestResume.Proofs.RegisterReach
import GuestResume.Proofs.ThreadResumption

/-! Bits that no operation on a processor can change. Software sets, writes and merges flags; entering a mode and
resuming a thread replace whole registers, the flags even by a word that was never checked. The fixed bits are
the same through all of them, so switching on the vector registers always leaves all three of their states
enabled, although it can set only two of them itself. -/

namespace GuestResume

namespace Register

variable {table : FlagTable}

/-- No bit is set that the table has no name for. -/
def IsNamed (register : Register table) : Prop :=
  ∀ index, (∀ flag ∈ table.flags, flag.bit ≠ index) → register.bit index = false

theorem isNamed_zero : ({ value := 0 } : Register table).IsNamed :=
  fun index _ => Nat.zero_testBit index

theorem isNamed_mask (distinct : table.Distinct) (flag : table.Member) :
    ({ value := flag.val.mask } : Register table).IsNamed := by
  intro index nameless
  rw [bit, Flag.bit_mask (distinct.inside _ flag.property)]
  exact decide_eq_false (nameless _ flag.property)

theorem IsNamed.enable {register : Register table} (named : register.IsNamed) (distinct : table.Distinct)
    (flags : List table.Member) : (register.enable flags).IsNamed := by
  intro index nameless
  rw [bit_enable_fixed distinct (FlagTable.not_isWritable nameless)]
  exact named index nameless

end Register

namespace ControlName

/-- The bits that hardware fixes, with their values. The flags of a thread come from its dump as they are, so
RFLAGS may have bits without a name. -/
inductive Fixes : ControlName → Nat → Bool → Prop
  | reserved : Fixes rflags 1 true
  | x87 : Fixes xcr0 0 true
  | expansion : Fixes xcr0 63 false
  | unlisted {name : ControlName} {index : Nat} (system : name ≠ rflags)
      (nameless : ∀ flag ∈ name.table.flags, flag.bit ≠ index) : Fixes name index false

variable {index : Nat} {name : ControlName} {value : Bool}

theorem Fixes.not_writable (fixed : name.Fixes index value) : ¬name.table.IsWritable index := by
  cases fixed with
  | reserved | x87 | expansion => decide
  | unlisted _ nameless => exact FlagTable.not_isWritable nameless

end ControlName

/-- Every bit that hardware fixes has its value. -/
def Cpu.KeepsFixed (cpu : Cpu) : Prop :=
  ∀ name index value, ControlName.Fixes name index value → (cpu.register name).bit index = value

namespace ModeEntry

variable {entry : ModeEntry}

/-- Nothing but flags is set in the registers of an entry. CR0's extension type, which cannot be set, is loaded. -/
theorem isNamed (listed : entry ∈ all) : entry.cr0.IsNamed ∧ entry.cr4.IsNamed ∧ entry.efer.IsNamed := by
  have zero {table : FlagTable} := @Register.isNamed_zero table
  have extension := Register.isNamed_mask (FlagTable.distinct .cr0) Cr0.et
  obtain rfl | rfl | rfl | rfl := mem_all.mp listed
  · exact ⟨zero, zero, zero⟩
  · exact ⟨zero.enable (FlagTable.distinct .cr0) [Cr0.pe], zero, zero⟩
  · exact ⟨zero.enable (FlagTable.distinct .cr0) [Cr0.pe], zero, zero⟩
  · exact ⟨extension.enable (FlagTable.distinct .cr0) _, zero.enable (FlagTable.distinct .cr4) [Cr4.pae],
      zero.enable (FlagTable.distinct .efer) _⟩

theorem rflags_reserved (listed : entry ∈ all) : entry.rflags.bit 1 = true := by
  obtain rfl | rfl | rfl | rfl := mem_all.mp listed <;> decide

end ModeEntry

namespace Cpu

variable {cpu changed : Cpu}

theorem keepsFixed_fresh : ({} : Cpu).KeepsFixed := by
  intro name index value fixed
  cases fixed with
  | reserved | x87 | expansion => decide
  | unlisted system nameless =>
    cases name with
    | rflags => exact absurd rfl system
    | xcr0 => exact Register.isNamed_mask (FlagTable.distinct .xcr0) (FlagTable.xcr0.atBit 0) index nameless
    | cr0 | cr4 | efer => exact Register.isNamed_zero index nameless

theorem KeepsFixed.of_same (keeps : cpu.KeepsFixed) (same : ∀ name, changed.register name = cpu.register name) :
    changed.KeepsFixed := by
  intro name index value fixed
  rw [same]
  exact keeps name index value fixed

theorem KeepsFixed.enter (keeps : cpu.KeepsFixed) {entry : ModeEntry} (listed : entry ∈ ModeEntry.all)
    (code data : UInt16) : (cpu.enter entry code data).KeepsFixed := by
  intro name index value fixed
  cases name with
  | xcr0 => exact keeps .xcr0 index value fixed
  | rflags =>
    cases fixed with
    | reserved => exact ModeEntry.rflags_reserved listed
    | unlisted system => exact absurd rfl system
  | cr0 =>
    cases fixed with
    | unlisted _ nameless => exact (ModeEntry.isNamed listed).1 index nameless
  | cr4 =>
    cases fixed with
    | unlisted _ nameless => exact (ModeEntry.isNamed listed).2.1 index nameless
  | efer =>
    cases fixed with
    | unlisted _ nameless => exact (ModeEntry.isNamed listed).2.2 index nameless

/-- The control registers of a thread that was resumed are those from before, or those of an entry to long mode. -/
theorem register_resume (cpu : Cpu) (thread : Thread) (name : ControlName) (system : name ≠ .rflags) :
    (cpu.resume thread).register name = cpu.register name ∨
      (cpu.resume thread).register name = (cpu.enter .long thread.cs thread.ds).register name := by
  rw [resume_eq]
  by_cases prepared : cpu.isPrepared
  · cases name with
    | rflags => exact absurd rfl system
    | xcr0 => exact .inl rfl
    | cr0 | cr4 | efer => exact .inl (if_pos prepared)
  · cases name with
    | rflags => exact absurd rfl system
    | xcr0 => exact .inl rfl
    | cr0 | cr4 | efer => exact .inr (if_neg prepared)

theorem KeepsFixed.resume (keeps : cpu.KeepsFixed) (thread : Thread) : (cpu.resume thread).KeepsFixed := by
  intro name index value fixed
  by_cases system : name = .rflags
  · subst system
    cases fixed with
    | reserved =>
      rw [resume_eq]
      refine (Word.bit_or _ _ _).trans ?_
      rw [show Word.bit FlagTable.rflags.reset 1 = true from rfl, Bool.true_or]
    | unlisted system => exact absurd rfl system
  · obtain kept | entered := cpu.register_resume thread name system
    · rw [kept]
      exact keeps name index value fixed
    · rw [entered]
      exact keeps.enter (by decide) thread.cs thread.ds name index value fixed

theorem bit_enableVectors (cpu : Cpu) {name : ControlName} {index : Nat} (fixed : ¬name.table.IsWritable index) :
    (cpu.enableVectors.register name).bit index = (cpu.register name).bit index := by
  have distinct := FlagTable.distinct name
  cases name with
  | rflags | efer => rfl
  | cr0 | cr4 | xcr0 =>
    exact (Register.bit_set_fixed distinct fixed _ _ _).trans (Register.bit_set_fixed distinct fixed _ _ _)

theorem KeepsFixed.enableVectors (keeps : cpu.KeepsFixed) : cpu.enableVectors.KeepsFixed := by
  intro name index value fixed
  rw [bit_enableVectors cpu fixed.not_writable]
  exact keeps name index value fixed

/-- The x87 state cannot be switched on, and need not be. -/
theorem KeepsFixed.vectors_enabled (keeps : cpu.KeepsFixed) :
    ∀ state ∈ ["x87", "SSE", "YMM"], cpu.enableVectors.xcr0.read state = .ok true := by
  have distinct : FlagTable.xcr0.Distinct := FlagTable.distinct .xcr0
  have x87 := Register.read_of_bit distinct (FlagTable.xcr0.atBit 0)
    (keeps.enableVectors .xcr0 0 true .x87)
  have states : cpu.enableVectors.xcr0 = (cpu.xcr0.set Xcr0.sse true).set Xcr0.ymm true := rfl
  have sse : cpu.enableVectors.xcr0.bit 1 = true := by
    rw [states, Register.bit_set distinct, Register.bit_set distinct]
    rfl
  have ymm : cpu.enableVectors.xcr0.bit 2 = true := by
    rw [states, Register.bit_set distinct]
    rfl
  intro state member
  simp only [List.mem_cons, List.not_mem_nil, or_false] at member
  obtain rfl | rfl | rfl := member
  · exact x87
  · exact Register.read_of_bit distinct Xcr0.sse sse
  · exact Register.read_of_bit distinct Xcr0.ymm ymm

end Cpu

/-- Only modes that have an entry are entered, and no register is replaced as a whole. -/
def CpuCommand.isOrdinary : CpuCommand → Bool
  | .enter entry _ _ => entry ∈ ModeEntry.all
  | .register _ command => !command.isReplacing
  | _ => true

namespace CpuDesk

variable {desk : CpuDesk}

/-- The state at work keeps the fixed bits, and so does the one that was put aside. -/
structure KeepsFixed (desk : CpuDesk) : Prop where
  cpu : desk.cpu.KeepsFixed
  saved : desk.saved.KeepsFixed

theorem KeepsFixed.after (keeps : desk.KeepsFixed) {command : CpuCommand} (ordinary : command.isOrdinary) :
    (desk.after command).KeepsFixed := by
  cases command with
  | withGpr | setRip | setCr3 | setGdtr | setIdtr | setSegment =>
    exact ⟨keeps.cpu.of_same fun name => by cases name <;> rfl, keeps.saved⟩
  | register name command =>
    refine ⟨?_, by rw [after_register]; exact keeps.saved⟩
    intro other index value fixed
    rw [bit_after_register]
    · exact keeps.cpu other index value fixed
    · rintro rfl
      exact RegisterCommand.not_reaches fixed.not_writable (by simpa [CpuCommand.isOrdinary] using ordinary)
  | enter entry code data => exact ⟨keeps.cpu.enter (of_decide_eq_true ordinary) code data, keeps.saved⟩
  | resume thread => exact ⟨keeps.cpu.resume thread, keeps.saved⟩
  | enableVectors => exact ⟨keeps.cpu.enableVectors, keeps.saved⟩
  | reset => exact ⟨Cpu.keepsFixed_fresh, keeps.saved⟩
  | save => exact ⟨keeps.cpu, keeps.cpu⟩
  | restore => exact ⟨keeps.saved, keeps.saved⟩
  | validMode =>
    rw [after_validMode]
    exact keeps
  | gpr | mode | modeBasis | dump | dumpFull | same => exact keeps

theorem KeepsFixed.afterAll (keeps : desk.KeepsFixed) {commands : List CpuCommand}
    (ordinary : ∀ command ∈ commands, command.isOrdinary) : (desk.afterAll commands).KeepsFixed := by
  induction commands generalizing desk with
  | nil => exact keeps
  | cons command rest ih =>
    exact ih (keeps.after (ordinary command List.mem_cons_self))
      fun later member => ordinary later (List.mem_cons_of_mem _ member)

end CpuDesk

/-- Whatever is done to a fresh processor without replacing a register as a whole, with threads of any kind
resumed on the way: the reserved bit of RFLAGS is one, the x87 state is enabled, XCR0 is not extended, and the
other registers have no bits without a name. So the vector registers can be switched on at any time, and then
all their states are enabled. -/
theorem fixed_bits_survive {commands : List CpuCommand} (ordinary : ∀ command ∈ commands, command.isOrdinary) :
    let cpu := (CpuDesk.afterAll {} commands).cpu
    cpu.rflags.bit 1 = true ∧ cpu.xcr0.read "x87" = .ok true ∧ cpu.xcr0.read "X" = .ok false ∧
    (∀ name ≠ ControlName.rflags, (cpu.register name).IsNamed) ∧
    ∀ state ∈ ["x87", "SSE", "YMM"], cpu.enableVectors.xcr0.read state = .ok true := by
  intro cpu
  have fresh : CpuDesk.KeepsFixed {} := ⟨Cpu.keepsFixed_fresh, Cpu.keepsFixed_fresh⟩
  have keeps : cpu.KeepsFixed := (fresh.afterAll ordinary).cpu
  have distinct : FlagTable.xcr0.Distinct := FlagTable.distinct .xcr0
  refine ⟨keeps .rflags 1 true .reserved, ?_, ?_, ?_, keeps.vectors_enabled⟩
  · exact Register.read_of_bit distinct (FlagTable.xcr0.atBit 0) (keeps .xcr0 0 true .x87)
  · exact Register.read_of_bit distinct (FlagTable.xcr0.atBit 63) (keeps .xcr0 63 false .expansion)
  · intro name system index nameless
    exact keeps name index false (.unlisted system nameless)

/-- Commands that try to change what is fixed, by name, by merging, and with the flags of a thread. -/
def CpuCommand.hostile : List CpuCommand :=
  [.enter .long 0x10 0x18, .register .xcr0 (.write "x87" false), .register .cr4 (.merge 0xFFFFFFFFFFFFFFFF),
    .resume { rflags := 0xFFFFFFFFFFFFFFFD }, .register .rflags (.write "Reserved1" false),
    .register .xcr0 (.merge 0xFFFFFFFFFFFFFFFF), .register .efer (.write "X" true)]

theorem fixed_bits_survive_hostile :
    (∀ command ∈ CpuCommand.hostile, command.isOrdinary) ∧
    let cpu := (CpuDesk.afterAll {} CpuCommand.hostile).cpu
    cpu.rflags.bit 1 = true ∧ cpu.cr4.bit 63 = false ∧ cpu.xcr0.read "X" = .ok false ∧
      cpu.enableVectors.xcr0.read "x87" = .ok true := by
  have ordinary : ∀ command ∈ CpuCommand.hostile, command.isOrdinary := by decide
  obtain ⟨reserved, -, expansion, named, enabled⟩ := fixed_bits_survive ordinary
  exact ⟨ordinary, reserved, named .cr4 (by decide) 63 (by decide), expansion, enabled "x87" (by decide)⟩

end GuestResume
