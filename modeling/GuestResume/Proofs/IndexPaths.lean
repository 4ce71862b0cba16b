import GuestResume.Proofs.AddressAliases
import GuestResume.Proofs.LayoutShape
import Mathlib.Data.List.Lex

/-! Virtual addresses taken apart into indices and put together again. The pages of canonical addresses and the
paths of four indices belong to each other one to one, and in the same order, although the addresses leave out
the middle of the address space. -/

namespace GuestResume

namespace Address

/-- One index for each level of the table. -/
structure IsPath (path : List Nat) : Prop where
  length : path.length = 4
  inside : ∀ index ∈ path, index < entriesPerTable

instance (path : List Nat) : Decidable (IsPath path) :=
  decidable_of_iff (path.length = 4 ∧ ∀ index ∈ path, index < entriesPerTable)
    ⟨fun ⟨length, inside⟩ => ⟨length, inside⟩, fun path => ⟨path.length, path.inside⟩⟩

/-- The bits that select entries agree. -/
def SameSelection (a b : Address) : Prop :=
  ∀ bit, 12 ≤ bit → bit < 48 → a.toNat.testBit bit = b.toNat.testBit bit

variable {a b : Address} {path other : List Nat}

theorem isPath_indices (a : Address) : IsPath a.indices where
  length := rfl
  inside := by
    intro index member
    obtain ⟨level, -, rfl⟩ := List.mem_map.mp member
    exact index_lt level a

theorem testBit_block (a : Address) (bit : Nat) :
    (a.block 0).testBit bit = (decide (bit + 12 < 48) && a.toNat.testBit (bit + 12)) := by
  have number : a.block 0 = a.toNat % 2 ^ 48 / 2 ^ 12 := rfl
  rw [number, Nat.testBit_div_two_pow, Nat.testBit_mod_two_pow]

/-- Together these bits are the number of the page. -/
theorem sameSelection_iff : SameSelection a b ↔ a.block 0 = b.block 0 := by
  constructor
  · intro same
    apply Nat.eq_of_testBit_eq
    intro bit
    rw [testBit_block, testBit_block]
    by_cases inside : bit + 12 < 48
    · rw [same (bit + 12) (Nat.le_add_left 12 bit) inside]
    · simp [inside]
  · intro same bit above below
    have bits := congrArg (·.testBit (bit - 12)) same
    simp only [testBit_block, Nat.sub_add_cancel above] at bits
    simpa [below] using bits

theorem SameSelection.indices (same : SameSelection a b) : a.indices = b.indices := by
  have block : ∀ level ≤ 3, a.block level = b.block level := by
    intro level inside
    induction level with
    | zero => exact sameSelection_iff.mp same
    | succ level ih => rw [block_succ, block_succ, ih (Nat.le_of_succ_le inside)]
  refine List.map_congr_left fun level member => ?_
  have inside : level ≤ 3 := by
    simp only [List.mem_cons, List.not_mem_nil, or_false] at member
    omega
  rw [← block_mod inside, ← block_mod inside, block level inside]

/-- Any indices make a canonical address, even those that run into one another. -/
theorem isCanonical_ofIndices (path : List Nat) : (ofIndices path).IsCanonical :=
  isCanonical_signExtend _

theorem isAligned_signExtend (aligned : a.IsAligned) : a.signExtend.IsAligned := by
  rw [isAligned_iff, pageSize] at aligned ⊢
  rw [toNat_signExtend]
  by_cases low : a.toNat % 0x1000000000000 < 0x800000000000
  · rw [if_pos low]
    omega
  · rw [if_neg low]
    omega

theorem isAligned_ofIndices (path : List Nat) : (ofIndices path).IsAligned := by
  apply isAligned_signExtend
  rw [isAligned_iff, UInt64.toNat_ofNat', Nat.shiftLeft_eq, pageBits, pageSize]
  omega

theorem block_pageStart (a : Address) : a.pageStart.block 0 = a.block 0 := by
  simp only [block, blockSize, toNat_pageStart, pageSize, Nat.pow_zero, Nat.mul_one]
  omega

/-- The indices of an address lead to the page of its canonical form. -/
theorem ofIndices_indices_eq (a : Address) : ofIndices a.indices = a.signExtend.pageStart := by
  have same : SameSelection a.signExtend a := by rw [sameSelection_iff, block, block, toNat_signExtend_mod]
  rw [← same.indices, ofIndices_indices (isCanonical_signExtend a)]

theorem sameSelection_ofIndices (a : Address) : SameSelection (ofIndices a.indices) a := by
  rw [sameSelection_iff, ofIndices_indices_eq, block_pageStart, block, block, toNat_signExtend_mod]

/-- There is only one canonical page address with the same selection. -/
theorem eq_ofIndices (aligned : b.IsAligned) (canonical : b.IsCanonical) (same : SameSelection b a) :
    b = ofIndices a.indices := by
  rw [← same.indices, ofIndices_indices canonical, aligned.pageStart]

/-- Of two paths of one length, the one that comes first has the smaller number. -/
theorem pathNumber_lt_of_lt (length : path.length = other.length)
    (inside : ∀ index ∈ path, index < entriesPerTable) (before : path < other) :
    pathNumber path < pathNumber other := by
  induction path generalizing other with
  | nil =>
    obtain rfl := List.eq_nil_of_length_eq_zero length.symm
    exact absurd before (List.lt_irrefl _)
  | cons index rest ih =>
    cases other with
    | nil => cases length
    | cons next further =>
      have same := Nat.succ.inj length
      obtain ⟨-, later⟩ := List.forall_mem_cons.mp inside
      obtain first | ⟨rfl, behind⟩ := List.cons_lt_cons_iff.mp before
      · exact pathNumber_lt_first same later first
      · exact pathNumber_lt_rest index same (ih same later behind)

theorem IsPath.ofIndices_lt (first : IsPath path) (second : IsPath other) (before : path < other) :
    ofIndices path < ofIndices other := by
  have number := pathNumber_lt second.inside
  rw [second.length] at number
  rw [ofIndices_path first.inside, ofIndices_path second.inside]
  exact blockStart_lt (pathNumber_lt_of_lt (first.length.trans second.length.symm) first.inside before)
    (block_inside number rfl)

theorem IsPath.ofIndices_lt_iff (first : IsPath path) (second : IsPath other) :
    path < other ↔ ofIndices path < ofIndices other := by
  refine ⟨first.ofIndices_lt second, fun below => ?_⟩
  obtain before | rfl | after := lt_trichotomy path other
  · exact before
  · exact absurd below (UInt64.lt_irrefl _)
  · exact absurd below (UInt64.lt_asymm (second.ofIndices_lt first after))

end Address

/-- The indices of an address make the one canonical page address that selects the same entries. They are a path,
and for a canonical address the page is its own. A path of four indices is got back from the address that it makes,
and paths come in the order of their addresses. Whatever the indices are, and be they too large, the address is
canonical and that of a page. -/
theorem indices_invert_ofIndices :
    (∀ gva page : Address, page = .ofIndices gva.indices ↔
      page.IsAligned ∧ page.IsCanonical ∧ ∀ bit, 12 ≤ bit → bit < 48 →
        page.toNat.testBit bit = gva.toNat.testBit bit) ∧
    (∀ gva : Address, Address.IsPath gva.indices ∧ (gva.IsCanonical → .ofIndices gva.indices = gva.pageStart)) ∧
    (∀ path, Address.IsPath path → (Address.ofIndices path).indices = path) ∧
    (∀ path other, Address.IsPath path → Address.IsPath other →
      (path < other ↔ Address.ofIndices path < Address.ofIndices other)) ∧
    ∀ path, (Address.ofIndices path).IsCanonical ∧ (Address.ofIndices path).IsAligned := by
  refine ⟨?_, ?_, ?_, ?_, ?_⟩
  · intro gva page
    constructor
    · intro made
      rw [made]
      exact ⟨Address.isAligned_ofIndices _, Address.isCanonical_ofIndices _, Address.sameSelection_ofIndices gva⟩
    · rintro ⟨aligned, canonical, same⟩
      exact Address.eq_ofIndices aligned canonical same
  · exact fun gva => ⟨Address.isPath_indices gva, Address.ofIndices_indices⟩
  · exact fun path isPath => Address.indices_ofIndices isPath.length isPath.inside
  · exact fun path other first second => first.ofIndices_lt_iff second
  · exact fun path => ⟨Address.isCanonical_ofIndices path, Address.isAligned_ofIndices path⟩

/-- The last page of the lower half and the first of the upper half follow one another as their paths do. -/
theorem indices_invert_ofIndices_acrossMiddle :
    Address.ofIndices [255, 511, 511, 511] < Address.ofIndices [256, 0, 0, 0] ∧
      (Address.ofIndices [256, 0, 0, 0]).indices = [256, 0, 0, 0] ∧
      Address.ofIndices (Address.indices 0xFFFF800000000ABC) = 0xFFFF800000000000 := by
  obtain ⟨-, back, path, order, -⟩ := indices_invert_ofIndices
  refine ⟨(order _ _ (by decide) (by decide)).mp (by decide), path _ (by decide), ?_⟩
  exact ((back 0xFFFF800000000ABC).2 (by decide)).trans (by decide)

end GuestResume
