import GuestResume.Proofs.RegisterHistory

/-! Which bits of a processor's control registers an operation can reach. An operation on one register reaches the
writable flags it names, or everything if it replaces the register, and it leaves all other bits, of this register
and of the others. So what depends on bits out of reach stays as it is through any number of operations. -/

namespace GuestResume

variable {table : FlagTable} {index : Nat}

theorem FlagTable.not_isWritable (nameless : ∀ flag ∈ table.flags, flag.bit ≠ index) : ¬table.IsWritable index := by
  rintro ⟨flag, member, -, same⟩
  exact nameless flag member same

/-- The operation may decide this bit, or it replaces the whole register. -/
def RegisterCommand.Reaches (index : Nat) : RegisterCommand table → Prop
  | set flag _ => flag.val.writable ∧ flag.val.bit = index
  | write target _ => ∃ flag ∈ table.flags, flag.name = target ∧ flag.writable ∧ flag.bit = index
  | merge raw => table.IsWritable index ∧ Word.bit raw index
  | load _ | reset => True
  | _ => False

def RegisterCommand.isReplacing : RegisterCommand table → Bool
  | load _ | reset => true
  | _ => false

/-- A bit that software may not write is reached only together with all others. -/
theorem RegisterCommand.not_reaches {command : RegisterCommand table} (fixed : ¬table.IsWritable index)
    (partly : command.isReplacing = false) : ¬command.Reaches index := by
  intro reached
  cases command with
  | set flag on =>
    obtain ⟨writable, same⟩ := reached
    exact fixed ⟨flag.val, flag.property, writable, same⟩
  | write name on =>
    obtain ⟨flag, member, -, writable, same⟩ := reached
    exact fixed ⟨flag, member, writable, same⟩
  | merge raw => exact fixed reached.1
  | load | reset => cases partly
  | _ => exact reached

namespace Register

/-- A command that fails changes nothing. -/
def after (register : Register table) (command : RegisterCommand table) : Register table :=
  match register.run command with
  | .ok (_, changed) => changed
  | .error _ => register

theorem bit_enable_fixed (distinct : table.Distinct) (fixed : ¬table.IsWritable index) (register : Register table)
    (flags : List table.Member) : (register.enable flags).bit index = register.bit index := by
  induction flags generalizing register with
  | nil => rfl
  | cons flag rest ih => exact (ih _).trans (bit_set_fixed distinct fixed register flag true)

theorem read_of_bit (distinct : table.Distinct) {register : Register table} (flag : table.Member) {value : Bool}
    (same : register.bit flag.val.bit = value) : register.read flag.val.name = .ok value := by
  rw [read_name distinct, get_eq distinct, same]

theorem after_looking (register : Register table) (command : RegisterCommand table)
    (looks : register.run command = (register.inspect command).map fun reply => (reply, register)) :
    register.after command = register := by
  rw [after, looks]
  cases register.inspect command <;> rfl

theorem bit_after (distinct : table.Distinct) (register : Register table) {command : RegisterCommand table}
    (spared : ¬command.Reaches index) : (register.after command).bit index = register.bit index := by
  cases command with
  | set flag on => exact bit_set_spared distinct register spared
  | write name on =>
    obtain ⟨flag, rfl⟩ | unknown := table.named_or_unknown name
    · have written : register.after (.write flag.val.name on) = register.set flag on := by
        rw [after, run, write_name distinct]
        rfl
      rw [written]
      exact bit_set_spared distinct register fun same => spared ⟨flag.val, flag.property, rfl, same⟩
    · rw [after, run_write_unknown unknown]
  | merge raw =>
    refine (bit_merge distinct register raw index).trans ?_
    by_cases writable : table.IsWritable index
    · rw [Bool.eq_false_iff.mpr fun set => spared ⟨writable, set⟩, Bool.false_and, Bool.or_false]
    · rw [decide_eq_false writable, Bool.and_false, Bool.or_false]
  | load | reset => exact absurd trivial spared
  | _ =>
    rw [after_looking]
    rfl

end Register

namespace Cpu

variable {name : ControlName}

theorem register_setRegister (cpu : Cpu) (value : Register name.table) :
    (cpu.setRegister name value).register name = value := by
  cases name <;> rfl

theorem register_setRegister_other (cpu : Cpu) (value : Register name.table) {other : ControlName}
    (different : other ≠ name) : (cpu.setRegister name value).register other = cpu.register other := by
  cases name <;> cases other <;> first | rfl | exact absurd rfl different

theorem setRegister_register (cpu : Cpu) (name : ControlName) : cpu.setRegister name (cpu.register name) = cpu := by
  cases name <;> rfl

end Cpu

namespace CpuDesk

/-- A command that fails changes nothing. -/
def after (desk : CpuDesk) (command : CpuCommand) : CpuDesk :=
  match desk.run command with
  | .ok (_, changed) => changed
  | .error _ => desk

def afterAll (desk : CpuDesk) (commands : List CpuCommand) : CpuDesk :=
  commands.foldl after desk

theorem after_register (desk : CpuDesk) (name : ControlName) (command : RegisterCommand name.table) :
    desk.after (.register name command) =
      { desk with cpu := desk.cpu.setRegister name ((desk.cpu.register name).after command) } := by
  rw [after, run, Register.after]
  cases (desk.cpu.register name).run command with
  | ok => rfl
  | error => rw [Cpu.setRegister_register]

theorem after_validMode (desk : CpuDesk) : desk.after .validMode = desk := by
  change (match desk.cpu.validMode.map fun mode => (CpuReply.mode mode, desk) with
    | .ok (_, changed) => changed
    | .error _ => desk) = desk
  cases desk.cpu.validMode <;> rfl

/-- An operation on one register leaves the bits that it does not reach, and all other registers. -/
theorem bit_after_register (desk : CpuDesk) {name : ControlName} {command : RegisterCommand name.table}
    (other : ControlName) (spared : other = name → ¬command.Reaches index) :
    ((desk.after (.register name command)).cpu.register other).bit index = (desk.cpu.register other).bit index := by
  rw [after_register]
  by_cases same : other = name
  · subst same
    rw [Cpu.register_setRegister]
    exact Register.bit_after (FlagTable.distinct other) _ (spared rfl)
  · rw [Cpu.register_setRegister_other _ _ same]

end CpuDesk

end GuestResume
