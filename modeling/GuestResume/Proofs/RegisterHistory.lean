import GuestResume.Proofs.RegisterBits
import Mathlib.Data.List.Induction

/-! What becomes of a register over any number of updates. A bit that software may write is what the last update
that affected it made of it; every other bit is what it was when the register was loaded. Setting can clear a
flag and merging cannot, so the two do not commute, and only the order of the updates decides. -/

namespace GuestResume

/-- What software does to a register that was loaded. -/
inductive RegisterUpdate (table : FlagTable) where
  | set (flag : table.Member) (on : Bool)
  | write (name : String) (on : Bool)
  | merge (raw : UInt64)

variable {table : FlagTable}

namespace RegisterUpdate

def command : RegisterUpdate table → RegisterCommand table
  | set flag on => .set flag on
  | write name on => .write name on
  | merge raw => .merge raw

/-- What an update makes of a flag that software may write, if it affects that flag at all. -/
def effect? (flag : Flag) : RegisterUpdate table → Option Bool
  | set target on => if target.val = flag then some on else none
  | write name on => if name = flag.name then some on else none
  | merge raw => if Word.bit raw flag.bit then some true else none

/-- What the last of the updates that affect a flag makes of it. -/
def latest? (updates : List (RegisterUpdate table)) (flag : Flag) : Option Bool :=
  updates.reverse.findSome? (effect? flag)

theorem latest?_append (updates : List (RegisterUpdate table)) (update : RegisterUpdate table) (flag : Flag) :
    latest? (updates ++ [update]) flag = (update.effect? flag).or (latest? updates flag) := by
  rw [latest?, List.reverse_append, List.reverse_singleton, List.singleton_append, List.findSome?_cons]
  cases update.effect? flag <;> rfl

end RegisterUpdate

namespace Register

/-- An update that fails changes nothing. -/
def update (register : Register table) (update : RegisterUpdate table) : Register table :=
  match register.run update.command with
  | .ok (_, changed) => changed
  | .error _ => register

def ofUpdates (initial : UInt64) (updates : List (RegisterUpdate table)) : Register table :=
  updates.foldl update { value := initial }

variable {index : Nat}

theorem run_write_unknown {name : String} (unknown : ∀ flag ∈ table.flags, flag.name ≠ name)
    (register : Register table) (on : Bool) : register.run (.write name on) = .error ⟨table.name, name⟩ := by
  rw [run, write, lookup_unknown unknown]
  rfl

theorem update_unknown {name : String} (unknown : ∀ flag ∈ table.flags, flag.name ≠ name)
    (register : Register table) (on : Bool) : register.update (.write name on) = register := by
  rw [update, RegisterUpdate.command, run_write_unknown unknown]

theorem update_name (distinct : table.Distinct) (register : Register table) (flag : table.Member) (on : Bool) :
    register.update (.write flag.val.name on) = register.set flag on := by
  rw [update, RegisterUpdate.command, run, write_name distinct]
  rfl

/-- A bit that software may not write survives every update. -/
theorem bit_update_fixed (distinct : table.Distinct) (fixed : ¬table.IsWritable index) (register : Register table)
    (update : RegisterUpdate table) : (register.update update).bit index = register.bit index := by
  cases update with
  | set flag on => exact bit_set_fixed distinct fixed register flag on
  | write name on =>
    obtain ⟨flag, rfl⟩ | unknown := table.named_or_unknown name
    · rw [update_name distinct]
      exact bit_set_fixed distinct fixed register flag on
    · rw [update_unknown unknown]
  | merge raw =>
    have merged := bit_merge distinct register raw index
    rwa [decide_eq_false fixed, Bool.and_false, Bool.or_false] at merged

/-- A writable flag is what an update makes of it, or what it was. -/
theorem bit_update (distinct : table.Distinct) {flag : Flag} (member : flag ∈ table.flags)
    (writable : flag.writable) (register : Register table) (update : RegisterUpdate table) :
    (register.update update).bit flag.bit = (update.effect? flag).getD (register.bit flag.bit) := by
  have changed : ∀ (target : table.Member) on, (register.set target on).bit flag.bit =
      if target.val = flag then on else register.bit flag.bit := by
    intro target on
    rw [bit_set distinct]
    by_cases same : target.val = flag
    · rw [if_pos ⟨same ▸ writable, congrArg Flag.bit same⟩, if_pos same]
    · rw [if_neg same, if_neg]
      rintro ⟨-, equal⟩
      exact same (distinct.eq_of_bit target.property member equal)
  cases update with
  | set target on =>
    refine (changed target on).trans ?_
    rw [RegisterUpdate.effect?]
    split <;> rfl
  | write name on =>
    obtain ⟨target, rfl⟩ | unknown := table.named_or_unknown name
    · rw [update_name distinct, changed, RegisterUpdate.effect?]
      by_cases same : target.val = flag
      · rw [if_pos same, if_pos (congrArg Flag.name same)]
        rfl
      · rw [if_neg same, if_neg fun equal => same (distinct.eq_of_name target.property member equal)]
        rfl
    · rw [update_unknown unknown, RegisterUpdate.effect?, if_neg (unknown flag member).symm]
      rfl
  | merge raw =>
    have merged := bit_merge distinct register raw flag.bit
    rw [decide_eq_true ((distinct.isWritable_iff member).mpr writable), Bool.and_true] at merged
    refine merged.trans ?_
    rw [RegisterUpdate.effect?]
    cases Word.bit raw flag.bit
    · exact Bool.or_false _
    · exact Bool.or_true _

theorem ofUpdates_append (initial : UInt64) (updates : List (RegisterUpdate table))
    (update : RegisterUpdate table) :
    ofUpdates initial (updates ++ [update]) = (ofUpdates initial updates).update update :=
  List.foldl_append

theorem bit_ofUpdates_fixed (distinct : table.Distinct) (fixed : ¬table.IsWritable index) (initial : UInt64)
    (updates : List (RegisterUpdate table)) : (ofUpdates initial updates).bit index = Word.bit initial index := by
  induction updates using List.reverseRecOn with
  | nil => rfl
  | append_singleton updates update ih => rw [ofUpdates_append, bit_update_fixed distinct fixed, ih]

theorem bit_ofUpdates (distinct : table.Distinct) {flag : Flag} (member : flag ∈ table.flags)
    (writable : flag.writable) (initial : UInt64) (updates : List (RegisterUpdate table)) :
    (ofUpdates initial updates).bit flag.bit =
      (RegisterUpdate.latest? updates flag).getD (Word.bit initial flag.bit) := by
  induction updates using List.reverseRecOn with
  | nil => rfl
  | append_singleton updates update ih =>
    rw [ofUpdates_append, bit_update distinct member writable, ih, RegisterUpdate.latest?_append]
    cases update.effect? flag <;> rfl

end Register

/-- After any updates of a register, a bit that is no writable flag of its table is what it was at first, and a
writable flag is what the last update that affected it made of it, or what it was at first if there was none. A
name that is not in the table is refused and changes nothing; a flag of the table is read and written by its
name as it is directly, and what is read is its bit in the register's value. -/
theorem updates_decide_bits (name : ControlName) (initial : UInt64) (updates : List (RegisterUpdate name.table)) :
    let register := Register.ofUpdates initial updates
    (∀ index, ¬name.table.IsWritable index → Word.bit register.value index = Word.bit initial index) ∧
    (∀ flag ∈ name.table.flags, flag.writable →
      Word.bit register.value flag.bit =
        (RegisterUpdate.latest? updates flag).getD (Word.bit initial flag.bit)) ∧
    (∀ unlisted, (∀ flag ∈ name.table.flags, flag.name ≠ unlisted) →
      register.read unlisted = .error ⟨name.table.name, unlisted⟩ ∧
      ∀ on, register.write unlisted on = .error ⟨name.table.name, unlisted⟩ ∧
        register.update (.write unlisted on) = register) ∧
    ∀ flag : name.table.Member,
      register.get flag = Word.bit register.value flag.val.bit ∧
      register.read flag.val.name = .ok (Word.bit register.value flag.val.bit) ∧
      ∀ on, register.write flag.val.name on = .ok (register.set flag on) := by
  intro register
  have distinct := FlagTable.distinct name
  refine ⟨?_, ?_, ?_, ?_⟩
  · intro index fixed
    exact Register.bit_ofUpdates_fixed distinct fixed initial updates
  · intro flag member writable
    exact Register.bit_ofUpdates distinct member writable initial updates
  · intro unlisted unknown
    refine ⟨?_, fun on => ⟨?_, Register.update_unknown unknown register on⟩⟩
    · rw [Register.read, Register.lookup_unknown unknown]
      rfl
    · rw [Register.write, Register.lookup_unknown unknown]
      rfl
  · intro flag
    have got := Register.get_eq distinct register flag
    have read := Register.read_name distinct register flag
    exact ⟨got, read.trans (congrArg _ got), Register.write_name distinct register flag⟩

/-- Updates of all kinds, of which one has a name that no flag has. -/
def RegisterUpdate.mixed : List (RegisterUpdate ControlName.cr0.table) :=
  [.merge 0x80000091, .set Cr0.wp true, .write "PG" false, .write "ET" true, .write "XX" true, .merge 0x10000]

/-- The extension type and the bit without a name are not merged, and what was cleared stays so. -/
theorem updates_decide_bits_mixed :
    let register := Register.ofUpdates 0 RegisterUpdate.mixed
    Word.bit register.value 4 = false ∧ Word.bit register.value 7 = false ∧
    Word.bit register.value 0 = true ∧ Word.bit register.value 16 = true ∧ Word.bit register.value 31 = false ∧
    register.read "XX" = .error ⟨"CR0", "XX"⟩ := by
  obtain ⟨fixed, decided, unknown, -⟩ := updates_decide_bits .cr0 0 RegisterUpdate.mixed
  refine ⟨fixed 4 (by decide), fixed 7 (by decide), ?_, ?_, ?_, (unknown "XX" (by decide)).1⟩
  · exact (decided Cr0.pe.val Cr0.pe.property rfl).trans (by decide)
  · exact (decided Cr0.wp.val Cr0.wp.property rfl).trans (by decide)
  · exact (decided Cr0.pg.val Cr0.pg.property rfl).trans (by decide)

end GuestResume
