import GuestResume.Memory.Records
import Mathlib.Algebra.GroupWithZero.Nat
import Mathlib.Data.List.Induction

/-! Blocks of virtual addresses. The canonical addresses that select the same entries down to some level
are one block, as long as a leaf on that level maps. Blocks of one level are numbered through, and the
number of a block continues the number of the table that it is an entry of. -/

namespace GuestResume

namespace Address

/-- The length of a block: what one leaf entry on the level maps. -/
def blockSize (level : Nat) : Nat :=
  pageSize * entriesPerTable ^ level

/-- The number of the block of an address. -/
def block (level : Nat) (a : Address) : Nat :=
  a.toNat % 0x1000000000000 / blockSize level

/-- The number that the indices on a path make together. -/
def pathNumber (path : List Nat) : Nat :=
  path.foldl (fun prior index => entriesPerTable * prior + index) 0

theorem blockSize_succ (level : Nat) : blockSize (level + 1) = blockSize level * entriesPerTable := by
  rw [blockSize, Nat.pow_succ, ← Nat.mul_assoc, blockSize]

theorem block_root (a : Address) : a.block 4 = 0 := by
  have size : blockSize 4 = 0x1000000000000 := by decide
  have low : a.toNat % 0x1000000000000 < 0x1000000000000 := Nat.mod_lt _ (by decide)
  rw [block, size, Nat.div_eq_of_lt low]

theorem block_succ (level : Nat) (a : Address) : a.block (level + 1) = a.block level / entriesPerTable := by
  rw [block, blockSize_succ, ← Nat.div_div_eq_div_mul, block]

theorem block_mod {level : Nat} (inside : level ≤ 3) (a : Address) :
    a.block level % entriesPerTable = a.index level := by
  rw [index, Nat.shiftRight_eq_div_pow]
  match level, inside with
  | 0, _ | 1, _ | 2, _ | 3, _ =>
    simp only [block, blockSize, pageSize, entriesPerTable, pageBits, Nat.reducePow, Nat.reduceMul, Nat.reduceAdd]
    omega

theorem block_eq {level : Nat} (inside : level ≤ 3) (a : Address) :
    a.block level = entriesPerTable * a.block (level + 1) + a.index level := by
  rw [block_succ, ← block_mod inside, Nat.div_add_mod]

theorem pathNumber_append (path : List Nat) (index : Nat) :
    pathNumber (path ++ [index]) = entriesPerTable * pathNumber path + index := by
  rw [pathNumber, List.foldl_append, ← pathNumber]
  rfl

theorem pathNumber_zeros (path : List Nat) (count : Nat) :
    pathNumber (path ++ List.replicate count 0) = pathNumber path * entriesPerTable ^ count := by
  induction count with
  | zero => rw [List.replicate_zero, List.append_nil, Nat.pow_zero, Nat.mul_one]
  | succ count ih =>
    rw [List.replicate_succ', ← List.append_assoc, pathNumber_append, ih, Nat.add_zero, Nat.pow_succ,
      Nat.mul_left_comm, Nat.mul_comm entriesPerTable]

theorem pathNumber_lt {path : List Nat} (inside : ∀ index ∈ path, index < entriesPerTable) :
    pathNumber path < entriesPerTable ^ path.length := by
  induction path using List.reverseRecOn with
  | nil => decide
  | append_singleton path index ih =>
    have last := inside index (by simp)
    have before := ih fun other member => inside other (List.mem_append_left _ member)
    rw [pathNumber_append, List.length_append, List.length_singleton, Nat.pow_succ]
    simp only [entriesPerTable] at last before ⊢
    omega

/-- Shifting nine bits in is counting on, as long as the indices fit. -/
theorem foldl_shifts {path : List Nat} (inside : ∀ index ∈ path, index < entriesPerTable) :
    path.foldl (fun prior index => prior <<< 9 ||| index) 0 = pathNumber path := by
  induction path using List.reverseRecOn with
  | nil => rfl
  | append_singleton path index ih =>
    have last : index < 2 ^ 9 := inside index (by simp)
    rw [List.foldl_append, ih fun other member => inside other (List.mem_append_left _ member)]
    rw [List.foldl_cons, List.foldl_nil, ← Nat.shiftLeft_add_eq_or_of_lt last, pathNumber_append,
      Nat.shiftLeft_eq, Nat.mul_comm]
    rfl

theorem block_inside {level number count : Nat} (below : number < entriesPerTable ^ count)
    (levels : count + level = 4) : number * blockSize level < 0x1000000000000 := by
  have all : entriesPerTable ^ count * blockSize level = 0x1000000000000 := by
    rw [blockSize, Nat.mul_left_comm, ← Nat.pow_add, levels]
    decide
  rw [← all]
  exact Nat.mul_lt_mul_of_pos_right below (Nat.mul_pos (by decide) (Nat.pow_pos (by decide)))

/-- The first address of a block. -/
def blockStart (level number : Nat) : Address :=
  signExtend (UInt64.ofNat (number * blockSize level))

theorem ofIndices_eq {path : List Nat} {level : Nat} (inside : ∀ index ∈ path, index < entriesPerTable) :
    ofIndices (path ++ List.replicate level 0) = blockStart level (pathNumber path) := by
  have all : ∀ index ∈ path ++ List.replicate level 0, index < entriesPerTable := by
    intro index member
    obtain early | late := List.mem_append.mp member
    · exact inside index early
    · rw [List.eq_of_mem_replicate late]
      decide
  rw [ofIndices, foldl_shifts all, pathNumber_zeros, blockStart, blockSize, Nat.shiftLeft_eq,
    Nat.mul_assoc, Nat.mul_comm _ (2 ^ pageBits)]
  rfl

theorem toNat_signExtend (a : Address) :
    (signExtend a).toNat =
      if a.toNat % 0x1000000000000 < 0x800000000000 then a.toNat % 0x1000000000000
      else a.toNat % 0x1000000000000 + 0xFFFF000000000000 := by
  have small : (a % 0x1000000000000).toNat = a.toNat % 0x1000000000000 := by
    rw [UInt64.toNat_mod]
    rfl
  have half : a % 0x1000000000000 < 0x800000000000 ↔ a.toNat % 0x1000000000000 < 0x800000000000 := by
    rw [UInt64.lt_iff_toNat_lt, small]
    rfl
  simp only [signExtend, half]
  split
  · exact small
  · rw [UInt64.toNat_add, small]
    simp only [UInt64.reduceToNat]
    omega

theorem toNat_blockStart {level number : Nat} (below : number * blockSize level < 0x1000000000000) :
    (blockStart level number).toNat =
      if number * blockSize level < 0x800000000000 then number * blockSize level
      else number * blockSize level + 0xFFFF000000000000 := by
  have low : (UInt64.ofNat (number * blockSize level)).toNat % 0x1000000000000 = number * blockSize level := by
    rw [UInt64.toNat_ofNat']
    omega
  rw [blockStart, toNat_signExtend, low]

theorem isCanonical_iff (a : Address) :
    a.IsCanonical ↔ a.toNat < 0x800000000000 ∨ 0xFFFF800000000000 ≤ a.toNat := by
  rw [IsCanonical, UInt64.lt_iff_toNat_lt, UInt64.le_iff_toNat_le]
  rfl

/-- The addresses of a block lie together. -/
theorem mem_block {level number : Nat} (leaf : level ≤ 2)
    (below : number * blockSize level < 0x1000000000000) (a : Address) :
    ((blockStart level number).toNat ≤ a.toNat ∧
      a.toNat < (blockStart level number).toNat + blockSize level) ↔
    a.IsCanonical ∧ a.block level = number := by
  have bound := a.toNat_lt
  rw [toNat_blockStart below, isCanonical_iff, block]
  -- A block does not reach across the middle, and on a fixed level its size is a number.
  by_cases low : number * blockSize level < 0x800000000000
  · rw [if_pos low]
    match level, leaf with
    | 0, _ | 1, _ | 2, _ =>
      simp only [blockSize, pageSize, entriesPerTable, Nat.reducePow, Nat.reduceMul] at low ⊢
      omega
  · rw [if_neg low]
    match level, leaf with
    | 0, _ | 1, _ | 2, _ =>
      simp only [blockSize, pageSize, entriesPerTable, Nat.reducePow, Nat.reduceMul] at low below ⊢
      omega

theorem blockStart_add {level number distance : Nat} (leaf : level ≤ 2)
    (below : number * blockSize level < 0x1000000000000) (inside : distance < blockSize level) :
    (blockStart level number + UInt64.ofNat distance).toNat = (blockStart level number).toNat + distance ∧
      ((blockStart level number).toNat + distance) % blockSize level = distance := by
  rw [UInt64.toNat_add, UInt64.toNat_ofNat', toNat_blockStart below]
  by_cases low : number * blockSize level < 0x800000000000
  · rw [if_pos low]
    match level, leaf with
    | 0, _ | 1, _ | 2, _ =>
      simp only [blockSize, pageSize, entriesPerTable, Nat.reducePow, Nat.reduceMul] at low inside ⊢
      omega
  · rw [if_neg low]
    match level, leaf with
    | 0, _ | 1, _ | 2, _ =>
      simp only [blockSize, pageSize, entriesPerTable, Nat.reducePow, Nat.reduceMul] at low below inside ⊢
      omega

end Address

/-- A leaf maps a block of its level. -/
theorem Entry.bytes_leafSize? {entry : Entry} {level : Nat} {size : PageSize}
    (leaf : entry.leafSize? level = some size) : level ≤ 2 ∧ size.bytes = Address.blockSize level := by
  match level with
  | 0 =>
    cases leaf
    decide
  | 1 | 2 =>
    simp only [leafSize?] at leaf
    split at leaf
    · cases leaf
      decide
    · cases leaf
  | level + 3 => cases leaf

end GuestResume
