import GuestResume.Proofs.VirtualReads
import Mathlib.Data.Set.Card

/-! A range of bytes cut at the page boundaries. However the range lies, also across the end of the address
space, its pieces follow one another without a gap, and there is one for each page on the way. -/

namespace GuestResume

namespace Address

variable {a : Address} {length : Nat}

theorem add_ofNat_zero (a : Address) : a + UInt64.ofNat 0 = a :=
  UInt64.add_zero a

theorem add_to_end (full : a.offset + length = pageSize) :
    a + UInt64.ofNat length = a.pageStart + UInt64.ofNat pageSize := by
  rw [← full, UInt64.ofNat_add, ← UInt64.add_assoc, pageStart_add_offset]

/-- Where a page ends the next one begins. -/
theorem isAligned_end (full : a.offset + length = pageSize) : (a + UInt64.ofNat length).IsAligned := by
  rw [add_to_end full, isAligned_iff, UInt64.toNat_add, UInt64.toNat_ofNat', toNat_pageStart]
  simp only [pageSize]
  omega

theorem pageStart_end (full : a.offset + length = pageSize) :
    (a + UInt64.ofNat length).pageStart = a.pageStart + UInt64.ofNat pageSize := by
  rw [(isAligned_end full).pageStart, add_to_end full]

end Address

namespace Chunk

/-- The chunks take the bytes between two places of a range one after another. -/
def Consecutive : Nat → List Chunk → Nat → Prop
  | start, [], stop => start = stop
  | start, chunk :: rest, stop => chunk.start = start ∧ Consecutive (start + chunk.length) rest stop

/-- The places in the range that the chunk takes. -/
def places (chunk : Chunk) : List Nat :=
  List.range' chunk.start chunk.length

/-- The bytes of a range from some place on, cut at the page boundaries: nothing is left, the last piece fits into
its page, or a piece fills up its page and the others follow in the next. -/
inductive Cut (base : Address) : Nat → Nat → List Chunk → Prop where
  | nothing (start : Nat) : Cut base start 0 []
  | last {start length : Nat} (positive : 0 < length)
      (inside : (base + UInt64.ofNat start).offset + length ≤ Address.pageSize) :
      Cut base start length [⟨base + UInt64.ofNat start, start, length⟩]
  | page {start length remaining : Nat} {rest : List Chunk}
      (full : (base + UInt64.ofNat start).offset + length = Address.pageSize) (more : remaining ≠ 0)
      (further : Cut base (start + length) remaining rest) :
      Cut base start (length + remaining) (⟨base + UInt64.ofNat start, start, length⟩ :: rest)

theorem cut_splitFrom (base : Address) (start remaining : Nat) :
    Cut base start remaining (splitFrom base start remaining) := by
  induction remaining using Nat.strongRecOn generalizing start with
  | ind remaining ih =>
    rw [splitFrom]
    split
    next none =>
      subst none
      exact .nothing start
    next some =>
      have offset := Address.offset_lt (base + UInt64.ofNat start)
      dsimp only
      generalize room : Address.pageSize - (base + UInt64.ofNat start).offset = length
      by_cases fits : remaining ≤ length
      · rw [Nat.min_eq_right fits, Nat.sub_self, splitFrom_zero]
        exact .last (Nat.pos_of_ne_zero some) (by omega)
      · rw [Nat.min_eq_left (Nat.le_of_not_le fits)]
        have further := ih (remaining - length) (by omega) (start + length)
        have full : (base + UInt64.ofNat start).offset + length = Address.pageSize := by omega
        have cut := Cut.page full (by omega) further
        rwa [Nat.add_sub_of_le (Nat.le_of_not_le fits)] at cut

namespace Cut

variable {base : Address} {start remaining : Nat} {chunks : List Chunk}

theorem consecutive (cut : Cut base start remaining chunks) : Consecutive start chunks (start + remaining) := by
  induction cut with
  | nothing start => rfl
  | last => exact ⟨rfl, rfl⟩
  | page _ _ _ ih => exact ⟨rfl, Nat.add_assoc .. ▸ ih⟩

/-- Every piece is a part of its page, at the address that belongs to its place in the range. -/
theorem each (cut : Cut base start remaining chunks) :
    ∀ chunk ∈ chunks, 0 < chunk.length ∧ chunk.address = base + UInt64.ofNat chunk.start ∧
      chunk.address.offset + chunk.length ≤ Address.pageSize := by
  induction cut with
  | nothing start => simp
  | last positive inside => simpa using ⟨positive, inside⟩
  | @page start length remaining rest full more further ih =>
    have offset := Address.offset_lt (base + UInt64.ofNat start)
    exact List.forall_mem_cons.mpr ⟨⟨by simp only; omega, rfl, Nat.le_of_eq full⟩, ih⟩

theorem aligned_next {length : Nat} (full : (base + UInt64.ofNat start).offset + length = Address.pageSize) :
    (base + UInt64.ofNat (start + length)).IsAligned := by
  rw [UInt64.ofNat_add, ← UInt64.add_assoc]
  exact Address.isAligned_end full

/-- From the start of a page on, all pieces begin with their pages. -/
theorem aligned (cut : Cut base start remaining chunks) (here : (base + UInt64.ofNat start).IsAligned) :
    ∀ chunk ∈ chunks, chunk.address.IsAligned := by
  induction cut with
  | nothing start => simp
  | last => simpa using here
  | page full _ _ ih => exact List.forall_mem_cons.mpr ⟨here, ih (aligned_next full)⟩

theorem aligned_tail (cut : Cut base start remaining chunks) : ∀ chunk ∈ chunks.tail, chunk.address.IsAligned := by
  cases cut with
  | nothing start => simp
  | last => simp
  | page full _ further => exact further.aligned (aligned_next full)

theorem ne_nil (cut : Cut base start remaining chunks) (more : remaining ≠ 0) : chunks ≠ [] := by
  cases cut with
  | nothing start => exact absurd rfl more
  | last => exact List.cons_ne_nil _ _
  | page => exact List.cons_ne_nil _ _

theorem full_dropLast (cut : Cut base start remaining chunks) :
    ∀ chunk ∈ chunks.dropLast, (chunk.address + UInt64.ofNat chunk.length).IsAligned := by
  induction cut with
  | nothing start => simp
  | last => simp
  | page full more further ih =>
    rw [List.dropLast_cons_of_ne_nil (further.ne_nil more)]
    exact List.forall_mem_cons.mpr ⟨Address.isAligned_end full, ih⟩

/-- The pieces lie in one page after another. -/
theorem map_pageStart (cut : Cut base start remaining chunks) :
    chunks.map (fun chunk => chunk.address.pageStart) = (List.range chunks.length).map fun index =>
      (base + UInt64.ofNat start).pageStart + UInt64.ofNat (index * Address.pageSize) := by
  induction cut with
  | nothing start => rfl
  | last => simp
  | @page start length remaining rest full _ _ ih =>
    have step (index : Nat) :
        (base + UInt64.ofNat (start + length)).pageStart + UInt64.ofNat (index * Address.pageSize) =
          (base + UInt64.ofNat start).pageStart + UInt64.ofNat ((index + 1) * Address.pageSize) := by
      rw [UInt64.ofNat_add, ← UInt64.add_assoc, Address.pageStart_end full, UInt64.add_assoc, ← UInt64.ofNat_add,
        Nat.succ_mul, Nat.add_comm Address.pageSize]
    rw [List.map_cons, ih, List.length_cons, List.range_succ_eq_map, List.map_cons, List.map_map]
    exact congrArg₂ List.cons (by simp) (List.map_congr_left fun index _ => step index)

theorem length_eq (cut : Cut base start remaining chunks) (more : remaining ≠ 0) :
    chunks.length =
      ((base + UInt64.ofNat start).offset + remaining + (Address.pageSize - 1)) / Address.pageSize := by
  induction cut with
  | nothing start => exact absurd rfl more
  | @last start length positive inside =>
    simp only [List.length_singleton, Address.pageSize] at inside ⊢
    omega
  | @page start length remaining rest full also _ ih =>
    have next : (base + UInt64.ofNat (start + length)).offset = 0 := aligned_next full
    rw [List.length_cons, ih also, next]
    simp only [Address.pageSize] at full ⊢
    omega

end Cut

/-- Chunks that follow one another take every place once and in order. -/
theorem Consecutive.places {start stop : Nat} {chunks : List Chunk} (consecutive : Consecutive start chunks stop) :
    start ≤ stop ∧ chunks.flatMap Chunk.places = List.range' start (stop - start) := by
  induction chunks generalizing start with
  | nil =>
    obtain rfl : start = stop := consecutive
    simp
  | cons chunk rest ih =>
    obtain ⟨rfl, further⟩ := consecutive
    obtain ⟨below, later⟩ := ih further
    refine ⟨by omega, ?_⟩
    have parts : stop - chunk.start = chunk.length + (stop - (chunk.start + chunk.length)) := by omega
    rw [List.flatMap_cons, later, Chunk.places, parts, List.range'_append_1]

variable (base : Address) (length : Nat)

theorem cut_split : Cut base 0 length (split base length) :=
  cut_splitFrom base 0 length

theorem length_split (more : length ≠ 0) :
    (split base length).length = (base.offset + length + (Address.pageSize - 1)) / Address.pageSize := by
  rw [(cut_split base length).length_eq more, Address.add_ofNat_zero]

/-- The pages that a range touches are those of its pieces. -/
theorem page_of_split (page : Address) :
    page ∈ (split base length).map (fun chunk => chunk.address.pageStart) ↔
      ∃ address ∈ Address.span base length, address.pageStart = page := by
  have cut := cut_split base length
  have places : (split base length).flatMap Chunk.places = List.range' 0 length := by
    simpa using cut.consecutive.places.2
  constructor
  · intro listed
    obtain ⟨chunk, member, rfl⟩ := List.mem_map.mp listed
    obtain ⟨positive, address, -⟩ := cut.each chunk member
    have taken : chunk.start ∈ (split base length).flatMap Chunk.places :=
      List.mem_flatMap.mpr ⟨chunk, member, List.mem_range'_1.mpr ⟨Nat.le_refl _, by omega⟩⟩
    rw [places, List.mem_range'_1] at taken
    exact ⟨_, Address.mem_span.mpr ⟨chunk.start, by omega, rfl⟩, by rw [address]⟩
  · rintro ⟨address, reached, rfl⟩
    obtain ⟨index, inside, rfl⟩ := Address.mem_span.mp reached
    have taken : index ∈ (split base length).flatMap Chunk.places := by
      rw [places, List.mem_range'_1]
      omega
    obtain ⟨chunk, member, within⟩ := List.mem_flatMap.mp taken
    obtain ⟨-, address, fits⟩ := cut.each chunk member
    obtain ⟨first, last⟩ := List.mem_range'_1.mp within
    refine List.mem_map.mpr ⟨chunk, member, ?_⟩
    have distance : base + UInt64.ofNat index = chunk.address + UInt64.ofNat (index - chunk.start) := by
      rw [address, UInt64.add_assoc, ← UInt64.ofNat_add, Nat.add_sub_of_le first]
    rw [distance, Address.pageStart_add (by omega)]

/-- A range that does not come back to its first page touches each page in one piece. -/
theorem nodup_pages (short : base.offset + length ≤ UInt64.size) :
    ((split base length).map fun chunk => chunk.address.pageStart).Nodup := by
  by_cases none : length = 0
  · subst none
    rw [split, splitFrom_zero]
    exact List.nodup_nil
  · have count := length_split base length none
    rw [(cut_split base length).map_pageStart]
    refine List.Nodup.map_on ?_ List.nodup_range
    intro first inside second also same
    rw [List.mem_range] at inside also
    have distance := congrArg UInt64.toNat ((UInt64.add_right_inj _).mp same)
    rw [UInt64.toNat_ofNat', UInt64.toNat_ofNat'] at distance
    simp only [Address.pageSize, UInt64.size] at count short distance
    omega

end Chunk

/-- Whatever the start and the length, a range is cut into pieces that follow one another from its start to its
end. None is empty, each lies in one page, at the address that belongs to its place, addresses going round at the
end of the address space. All but the first begin with their page and all but the last end with it, so that the
pieces lie in one page after another, and their number is that of the pages on the way. These are different pages
unless the range is so long that it comes back to its first page. -/
theorem split_partitions (base : Address) (length : Nat) :
    let chunks := Chunk.split base length
    (∀ chunk ∈ chunks, 0 < chunk.length ∧
      chunk.address.toNat = (base.toNat + chunk.start) % UInt64.size ∧
      ∀ index < chunk.length, (chunk.address + UInt64.ofNat index).pageStart = chunk.address.pageStart) ∧
    Chunk.Consecutive 0 chunks length ∧ chunks.flatMap Chunk.places = List.range length ∧
    (∀ chunk ∈ chunks.tail, chunk.address.IsAligned) ∧
    (∀ chunk ∈ chunks.dropLast, (chunk.address + UInt64.ofNat chunk.length).IsAligned) ∧
    chunks.length =
      (if length = 0 then 0
        else (base.offset + length + (Address.pageSize - 1)) / Address.pageSize) ∧
    (chunks.map fun chunk => chunk.address.pageStart) =
      (List.range chunks.length).map (fun index => base.pageStart + UInt64.ofNat (index * Address.pageSize)) ∧
    (base.offset + length ≤ UInt64.size →
      {page | ∃ address ∈ Address.span base length, address.pageStart = page}.ncard = chunks.length) := by
  intro chunks
  have cut : Chunk.Cut base 0 length chunks := Chunk.cut_split base length
  have consecutive := cut.consecutive
  rw [Nat.zero_add] at consecutive
  refine ⟨?_, consecutive, ?_, cut.aligned_tail, cut.full_dropLast, ?_, ?_, ?_⟩
  · intro chunk member
    obtain ⟨positive, address, inside⟩ := cut.each chunk member
    refine ⟨positive, ?_, fun index within => Address.pageStart_add (by omega)⟩
    rw [address, UInt64.toNat_add, UInt64.toNat_ofNat', Nat.add_mod_mod]
  · rw [consecutive.places.2, Nat.sub_zero, List.range_eq_range']
  · split
    next none =>
      subst none
      exact congrArg List.length (Chunk.splitFrom_zero base 0)
    next more => exact Chunk.length_split base length more
  · have pages := cut.map_pageStart
    rwa [Address.add_ofNat_zero] at pages
  · intro short
    have touched : {page | ∃ address ∈ Address.span base length, address.pageStart = page} =
        ((chunks.map fun chunk => chunk.address.pageStart).toFinset : Set Address) := by
      ext page
      rw [Set.mem_ofPred_eq, List.coe_toFinset, Set.mem_ofPred_eq, Chunk.page_of_split]
    rw [touched, Set.ncard_coe_finset, List.toFinset_card_of_nodup (Chunk.nodup_pages base length short),
      List.length_map]

/-- Across the end of the address space a range touches the last page and the first two. -/
theorem split_partitions_acrossEnd :
    (Chunk.split 0xFFFFFFFFFFFFFFF8 4112).length = 3 ∧
      {page | ∃ address ∈ Address.span 0xFFFFFFFFFFFFFFF8 4112, address.pageStart = page}.ncard = 3 ∧
      ∀ chunk ∈ (Chunk.split 0xFFFFFFFFFFFFFFF8 4112).tail, chunk.address.IsAligned := by
  obtain ⟨-, -, -, aligned, -, count, -, touched⟩ := split_partitions 0xFFFFFFFFFFFFFFF8 4112
  have three := count.trans (show _ = 3 by decide)
  exact ⟨three, (touched (by decide)).trans three, aligned⟩

end GuestResume
