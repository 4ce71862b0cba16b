import GuestResume.Cpu.Command
import Mathlib.Data.List.Nodup
import Mathlib.Data.Nat.Bitwise

/-! The bits of a control register. Every operation is told by what it does to each bit: setting a flag decides
the flag's bit if software may write it, merging raises the writable bits that are one in the other word, and no
operation reaches any other bit. Reading a flag is reading its bit. -/

namespace GuestResume

/-- A bit of a word. -/
def Word.bit (word : UInt64) (index : Nat) : Bool :=
  word.toNat.testBit index

namespace Word

variable (a b : UInt64) (index : Nat)

theorem bit_or : bit (a ||| b) index = (bit a index || bit b index) := by
  rw [bit, UInt64.toNat_or, Nat.testBit_or]
  rfl

theorem bit_and : bit (a &&& b) index = (bit a index && bit b index) := by
  rw [bit, UInt64.toNat_and, Nat.testBit_and]
  rfl

theorem bit_not : bit (~~~a) index = (decide (index < 64) && !bit a index) := by
  change (~~~a).toBitVec.getLsbD index = (decide (index < 64) && !a.toBitVec.getLsbD index)
  rw [UInt64.toBitVec_not, BitVec.getLsbD_not]

theorem bit_beyond (beyond : 64 ≤ index) : bit a index = false :=
  Nat.testBit_lt_two_pow (Nat.lt_of_lt_of_le a.toNat_lt (Nat.pow_le_pow_right (by decide) beyond))

end Word

theorem Flag.toNat_mask {flag : Flag} (inside : flag.bit < 64) : flag.mask.toNat = 2 ^ flag.bit := by
  have below : 2 ^ flag.bit < 2 ^ 64 := Nat.pow_lt_pow_right (by decide) inside
  rw [Flag.mask, Nat.one_shiftLeft, UInt64.toNat_ofNat', Nat.mod_eq_of_lt below]

theorem Flag.bit_mask {flag : Flag} (inside : flag.bit < 64) (index : Nat) :
    Word.bit flag.mask index = decide (flag.bit = index) := by
  rw [Word.bit, toNat_mask inside, Nat.testBit_two_pow]

namespace FlagTable

/-- Software may write the flag at this bit. -/
def IsWritable (table : FlagTable) (index : Nat) : Prop :=
  ∃ flag ∈ table.flags, flag.writable ∧ flag.bit = index

instance (table : FlagTable) (index : Nat) : Decidable (table.IsWritable index) :=
  inferInstanceAs (Decidable (∃ flag ∈ table.flags, _))

/-- No two flags of a table share a bit or a name. -/
structure Distinct (table : FlagTable) : Prop where
  inside : ∀ flag ∈ table.flags, flag.bit < 64
  bits : (table.flags.map Flag.bit).Nodup
  names : (table.flags.map Flag.name).Nodup

theorem distinct (name : ControlName) : name.table.Distinct := by
  cases name <;> exact ⟨by decide, by decide, by decide⟩

variable {table : FlagTable}

theorem Distinct.eq_of_bit (distinct : table.Distinct) {a b : Flag} (first : a ∈ table.flags)
    (second : b ∈ table.flags) (same : a.bit = b.bit) : a = b :=
  List.inj_on_of_nodup_map distinct.bits first second same

theorem Distinct.eq_of_name (distinct : table.Distinct) {a b : Flag} (first : a ∈ table.flags)
    (second : b ∈ table.flags) (same : a.name = b.name) : a = b :=
  List.inj_on_of_nodup_map distinct.names first second same

theorem Distinct.isWritable_iff (distinct : table.Distinct) {flag : Flag} (member : flag ∈ table.flags) :
    table.IsWritable flag.bit ↔ flag.writable := by
  constructor
  · rintro ⟨other, listed, writable, same⟩
    exact distinct.eq_of_bit listed member same ▸ writable
  · intro writable
    exact ⟨flag, member, writable, rfl⟩

/-- A name is that of one flag, or unknown to the table. -/
theorem named_or_unknown (table : FlagTable) (name : String) :
    (∃ flag : table.Member, flag.val.name = name) ∨ ∀ flag ∈ table.flags, flag.name ≠ name := by
  by_cases known : ∃ flag ∈ table.flags, flag.name = name
  · obtain ⟨flag, member, named⟩ := known
    exact .inl ⟨⟨flag, member⟩, named⟩
  · exact .inr fun flag member named => known ⟨flag, member, named⟩

theorem find?_eq_none {name : String} : table.find? name = none ↔ ∀ flag ∈ table.flags, flag.name ≠ name := by
  simp [find?, List.find?_eq_none]

/-- Every flag is found by its name. -/
theorem Distinct.find?_name (distinct : table.Distinct) (flag : table.Member) :
    table.find? flag.val.name = some flag := by
  cases found : table.find? flag.val.name with
  | none => exact absurd rfl (find?_eq_none.mp found flag.val flag.property)
  | some other =>
    have named : other.val.name = flag.val.name := by simpa using List.find?_some found
    exact congrArg some (Subtype.ext (distinct.eq_of_name other.property flag.property named))

private theorem bit_foldl (flags : List Flag) (inside : ∀ flag ∈ flags, flag.bit < 64) (mask : UInt64)
    (index : Nat) :
    Word.bit (flags.foldl (fun mask flag => if flag.writable then mask ||| flag.mask else mask) mask) index =
      (Word.bit mask index || decide (∃ flag ∈ flags, flag.writable ∧ flag.bit = index)) := by
  induction flags generalizing mask with
  | nil => simp
  | cons flag rest ih =>
    rw [List.foldl_cons, ih fun other member => inside other (List.mem_cons_of_mem _ member)]
    by_cases writable : flag.writable
    · rw [if_pos writable, Word.bit_or, Flag.bit_mask (inside flag List.mem_cons_self), Bool.or_assoc]
      simp [writable]
    · rw [if_neg writable]
      simp [writable]

theorem Distinct.bit_writableBits (distinct : table.Distinct) (index : Nat) :
    Word.bit table.writableBits index = decide (table.IsWritable index) := by
  rw [writableBits, bit_foldl table.flags distinct.inside]
  have zero : Word.bit 0 index = false := Nat.zero_testBit index
  rw [zero, Bool.false_or]
  rfl

end FlagTable

namespace Register

variable {table : FlagTable}

def bit (register : Register table) (index : Nat) : Bool :=
  Word.bit register.value index

theorem get_eq (distinct : table.Distinct) (register : Register table) (flag : table.Member) :
    register.get flag = register.bit flag.val.bit := by
  have masked : (register.value &&& flag.val.mask).toNat = (register.bit flag.val.bit).toNat * 2 ^ flag.val.bit := by
    rw [UInt64.toNat_and, Flag.toNat_mask (distinct.inside _ flag.property), Nat.and_two_pow]
    rfl
  rw [get, Bool.eq_iff_iff, decide_eq_true_iff, ne_eq, ← UInt64.toNat_inj, masked]
  cases register.bit flag.val.bit <;> simp

theorem bit_set (distinct : table.Distinct) (register : Register table) (flag : table.Member) (on : Bool)
    (index : Nat) :
    (register.set flag on).bit index =
      if flag.val.writable ∧ flag.val.bit = index then on else register.bit index := by
  have inside := distinct.inside _ flag.property
  have mask := Flag.bit_mask inside index
  by_cases writable : flag.val.writable
  · simp only [set, writable, Bool.not_true, Bool.false_eq_true, if_false, true_and]
    cases on with
    | true =>
      rw [if_pos rfl, bit, Word.bit_or, mask]
      by_cases same : flag.val.bit = index <;> simp [same, bit]
    | false =>
      rw [if_neg Bool.false_ne_true, bit, Word.bit_and, Word.bit_not, mask]
      by_cases same : flag.val.bit = index
      · simp [same]
      · by_cases below : index < 64
        · simp [same, below, bit]
        · simp [same, bit, Word.bit_beyond _ _ (Nat.le_of_not_lt below)]
  · simp [set, writable]

theorem bit_set_spared (distinct : table.Distinct) (register : Register table) {flag : table.Member} {on : Bool}
    {index : Nat} (spared : ¬(flag.val.writable ∧ flag.val.bit = index)) :
    (register.set flag on).bit index = register.bit index := by
  rw [bit_set distinct, if_neg spared]

/-- A bit that software may not write cannot be set or cleared. -/
theorem bit_set_fixed (distinct : table.Distinct) {index : Nat} (fixed : ¬table.IsWritable index)
    (register : Register table) (flag : table.Member) (on : Bool) :
    (register.set flag on).bit index = register.bit index := by
  refine bit_set_spared distinct register ?_
  rintro ⟨writable, same⟩
  exact fixed ⟨flag.val, flag.property, writable, same⟩

theorem bit_merge (distinct : table.Distinct) (register : Register table) (raw : UInt64) (index : Nat) :
    (register.merge raw).bit index =
      (register.bit index || (Word.bit raw index && decide (table.IsWritable index))) := by
  rw [bit, merge, Word.bit_or, Word.bit_and, distinct.bit_writableBits]
  rfl

theorem lookup_name (distinct : table.Distinct) (register : Register table) (flag : table.Member) :
    register.lookup flag.val.name = .ok flag := by
  rw [lookup, distinct.find?_name flag]

/-- Reading and writing by name is reading and writing the flag of that name. -/
theorem read_name (distinct : table.Distinct) (register : Register table) (flag : table.Member) :
    register.read flag.val.name = .ok (register.get flag) := by
  rw [read, lookup_name distinct]
  rfl

theorem write_name (distinct : table.Distinct) (register : Register table) (flag : table.Member) (on : Bool) :
    register.write flag.val.name on = .ok (register.set flag on) := by
  rw [write, lookup_name distinct]
  rfl

theorem lookup_unknown {name : String} (unknown : ∀ flag ∈ table.flags, flag.name ≠ name)
    (register : Register table) : register.lookup name = .error ⟨table.name, name⟩ := by
  rw [lookup, FlagTable.find?_eq_none.mpr unknown]

end Register

end GuestResume
