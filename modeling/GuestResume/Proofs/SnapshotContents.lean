import GuestResume.Proofs.VirtualWrites
import GuestResume.Memory.Paged
import Mathlib.Data.List.Induction
import Mathlib.Data.Set.Card

/-! What a snapshot holds after bytes were loaded into it. Each page that a loaded byte lies in is there and no
other, and a byte of such a page is the last one that was loaded to its address, or zero. So it does not matter
how the loads were cut into pages, where they overlap, or whether they went round at the end of the address
space. -/

namespace GuestResume

/-- Bytes for a snapshot, and the address of the first. -/
structure Load where
  start : Address
  data : List UInt8

theorem addresses_trail (start : Address) (data : List UInt8) :
    (trail .ok start data).map Prod.fst = Address.span start data.length := by
  induction data generalizing start with
  | nil => rfl
  | cons byte rest ih => rw [trail, List.map_cons, ih, List.length_cons, Address.span_succ]

theorem page_mem_trail {start page : Address} {data : List UInt8} :
    (∃ entry ∈ trail .ok start data, entry.1.pageStart = page) ↔
      ∃ address ∈ Address.span start data.length, address.pageStart = page := by
  simp only [← addresses_trail, List.mem_map, exists_exists_and_eq_and]

theorem trail_ok_append (start : Address) (first second : List UInt8) :
    trail .ok start (first ++ second) =
      trail .ok start first ++ trail .ok (start + UInt64.ofNat first.length) second := by
  obtain ⟨addresses, reached⟩ : ∃ addresses, (Address.span start first.length).mapM Except.ok =
      (.ok addresses : Except MemoryError (List Address)) :=
    exists_mapM_eq_ok.mpr fun address _ => ⟨address, rfl⟩
  rw [trail_append, reached]

namespace Load

variable {load : Load} {page : Address}

/-- The bytes with their addresses, in the order they are loaded. -/
def log (load : Load) : List (Address × UInt8) :=
  trail .ok load.start load.data

/-- The byte that a load has for an address. Only a load that is longer than the address space comes back to an
address, and has its later byte for it. -/
def byte? (load : Load) (address : Address) : Option UInt8 :=
  load.log.reverse.lookup address

/-- The byte that the latest of the loads that reach an address has for it. -/
def latest? (loads : List Load) (address : Address) : Option UInt8 :=
  loads.reverse.findSome? (·.byte? address)

/-- One of the bytes lies in the page. -/
def Touches (load : Load) (page : Address) : Prop :=
  ∃ address ∈ Address.span load.start load.data.length,
    page ≤ address ∧ address.toNat < page.toNat + Address.pageSize

instance (load : Load) (page : Address) : Decidable (load.Touches page) :=
  inferInstanceAs (Decidable (∃ address ∈ Address.span _ _, _))

theorem touches_iff (aligned : page.IsAligned) :
    load.Touches page ↔ ∃ entry ∈ load.log, entry.1.pageStart = page := by
  have inside : ∀ address : Address, page ≤ address ∧ address.toNat < page.toNat + Address.pageSize ↔
      address.pageStart = page := by
    intro address
    rw [Address.isAligned_iff] at aligned
    rw [← UInt64.toNat_inj, Address.toNat_pageStart, UInt64.le_iff_toNat_le]
    simp only [Address.pageSize] at aligned ⊢
    omega
  rw [log, page_mem_trail, Touches]
  simp only [inside]

/-- Unless a load is longer than the address space, the distance from its start tells the byte. -/
theorem byte?_eq (load : Load) (short : load.data.length ≤ UInt64.size) (address : Address) :
    load.byte? address = load.data[(address - load.start).toNat]? := by
  obtain ⟨start, data⟩ := load
  change (trail .ok start data).reverse.lookup address = data[(address - start).toNat]?
  change data.length ≤ UInt64.size at short
  induction data generalizing start with
  | nil => rfl
  | cons byte rest ih =>
    rw [List.length_cons] at short
    rw [trail, List.reverse_cons, List.lookup_append, ih (start + 1) (by omega)]
    have bound := address.toNat_lt
    have limit := start.toNat_lt
    simp only [UInt64.size] at short
    by_cases same : address = start
    · -- The byte after this one is as far from it as addresses can be apart.
      have far : rest.length ≤ (address - (start + 1)).toNat := by
        rw [same, UInt64.toNat_sub, UInt64.toNat_add, UInt64.toNat_one]
        omega
      rw [List.getElem?_eq_none far, same, UInt64.sub_self]
      simp
    · have apart : address.toNat ≠ start.toNat := fun equal => same (UInt64.toNat_inj.mp equal)
      have next : (address - start).toNat = (address - (start + 1)).toNat + 1 := by
        rw [UInt64.toNat_sub, UInt64.toNat_sub, UInt64.toNat_add, UInt64.toNat_one]
        omega
      rw [next, List.getElem?_cons_succ]
      simp [List.lookup_cons, beq_eq_false_iff_ne.mpr same]

/-- The last entry for an address comes from the latest load that reaches it. -/
theorem lookup_logs (loads : List Load) (address : Address) :
    (loads.flatMap log).reverse.lookup address = latest? loads address := by
  induction loads using List.reverseRecOn with
  | nil => rfl
  | append_singleton loads load ih =>
    rw [List.flatMap_append, List.flatMap_singleton, List.reverse_append, List.lookup_append, ih, latest?, latest?,
      List.reverse_append, List.reverse_singleton, List.singleton_append, List.findSome?_cons, byte?]
    cases load.log.reverse.lookup address <;> rfl

end Load

namespace Snapshot

variable {before middle after : Snapshot}

/-- The byte at an address, zero where no page is. -/
def byteAt (snapshot : Snapshot) (address : Address) : UInt8 :=
  (snapshot.pages[address.pageStart]?.getD Page.zero).byte address.offset

/-- The pages that bytes of the log lie in are added, and every byte is the last one logged for its address. -/
structure Takes (log : List (Address × UInt8)) (before after : Snapshot) : Prop where
  pages : ∀ page, page ∈ after.pages ↔ page ∈ before.pages ∨ ∃ entry ∈ log, entry.1.pageStart = page
  bytes : ∀ address, after.byteAt address = (log.reverse.lookup address).getD (before.byteAt address)

theorem Takes.refl (snapshot : Snapshot) : Takes [] snapshot snapshot :=
  ⟨fun page => by simp, fun address => rfl⟩

theorem Takes.append {first second : List (Address × UInt8)} (start : Takes first before middle)
    (rest : Takes second middle after) : Takes (first ++ second) before after where
  pages page := by
    simp only [rest.pages, start.pages, List.mem_append, or_and_right, exists_or, or_assoc]
  bytes address := by
    rw [rest.bytes, start.bytes, List.reverse_append, List.lookup_append]
    cases second.reverse.lookup address <;> rfl

theorem mem_put (snapshot : Snapshot) (address page : Address) (bytes : List UInt8) :
    page ∈ (snapshot.put address bytes).pages ↔ page = address.pageStart ∨ page ∈ snapshot.pages := by
  rw [put, Std.TreeMap.mem_insert, Std.LawfulEqCmp.compare_eq_iff_eq, eq_comm]

theorem byteAt_put (snapshot : Snapshot) (address other : Address) (bytes : List UInt8) :
    (snapshot.put address bytes).byteAt other =
      (pieceAt address bytes other).getD (snapshot.byteAt other) := by
  rw [byteAt, put, Std.TreeMap.getElem?_insert, byteAt]
  by_cases here : address.pageStart = other.pageStart
  · rw [if_pos (Std.LawfulEqCmp.compare_eq_iff_eq.mpr here), Option.getD_some, here]
    exact Page.byte_write_piece _ here bytes
  · simp [pieceAt, here]

theorem takes_put (snapshot : Snapshot) {address : Address} {bytes : List UInt8} (nonempty : 0 < bytes.length)
    (inside : address.offset + bytes.length ≤ Address.pageSize) :
    Takes (trail .ok address bytes) snapshot (snapshot.put address bytes) where
  pages page := by
    rw [mem_put, page_mem_trail, or_comm]
    refine or_congr_right ⟨?_, ?_⟩
    · rintro rfl
      exact ⟨address, Address.mem_span.mpr ⟨0, nonempty, by simp⟩, rfl⟩
    · rintro ⟨other, reached, rfl⟩
      obtain ⟨index, within, rfl⟩ := Address.mem_span.mp reached
      exact Address.pageStart_add (by omega)
  bytes other := by rw [lookup_trail address other bytes inside, byteAt_put]

private theorem takes_chunks (snapshot : Snapshot) (base : Address) (data : List UInt8) {done remaining : Nat}
    (parts : done + remaining = data.length) :
    Takes (trail .ok (base + UInt64.ofNat done) (data.drop done)) snapshot
      ((Chunk.splitFrom base done remaining).foldl
        (fun snapshot chunk => snapshot.put chunk.address (chunk.slice data)) snapshot) := by
  induction remaining using Nat.strongRecOn generalizing done snapshot with
  | ind remaining ih =>
    by_cases more : remaining = 0
    · subst more
      rw [Chunk.splitFrom_zero, List.drop_eq_nil_of_le (by omega)]
      exact Takes.refl snapshot
    · obtain ⟨piece, positive, within, inside, whole, chunk, placed, sliced, split⟩ :=
        Chunk.splitFrom_data base parts more
      have rest := ih (remaining - piece.length) (by omega) (snapshot.put (base + UInt64.ofNat done) piece)
        (show (done + piece.length) + (remaining - piece.length) = data.length by omega)
      rw [UInt64.ofNat_add, ← UInt64.add_assoc] at rest
      rw [split, List.foldl_cons, placed, sliced, whole, trail_ok_append]
      exact (takes_put snapshot positive inside).append rest

theorem takes_load (snapshot : Snapshot) (load : Load) :
    Takes load.log snapshot (snapshot.load load.start load.data) := by
  have taken := takes_chunks snapshot load.start load.data (Nat.zero_add load.data.length)
  rwa [show load.start + UInt64.ofNat 0 = load.start by simp, List.drop_zero] at taken

/-- What is there after some loads, of which the first came into an empty snapshot. -/
def ofLoads (loads : List Load) : Snapshot :=
  loads.foldl (fun snapshot load => snapshot.load load.start load.data) {}

theorem takes_ofLoads (loads : List Load) : Takes (loads.flatMap Load.log) {} (ofLoads loads) := by
  induction loads using List.reverseRecOn with
  | nil => exact Takes.refl {}
  | append_singleton loads load ih =>
    rw [List.flatMap_append, List.flatMap_singleton, ofLoads, List.foldl_append]
    exact ih.append (takes_load _ load)

theorem mem_ofLoads {loads : List Load} {page : Address} :
    page ∈ (ofLoads loads).pages ↔ page.IsAligned ∧ ∃ load ∈ loads, load.Touches page := by
  rw [(takes_ofLoads loads).pages]
  constructor
  · rintro (none | ⟨entry, logged, rfl⟩)
    · simp at none
    · obtain ⟨load, member, there⟩ := List.mem_flatMap.mp logged
      have aligned := Address.isAligned_pageStart entry.1
      exact ⟨aligned, load, member, (Load.touches_iff aligned).mpr ⟨entry, there, rfl⟩⟩
  · rintro ⟨aligned, load, member, touches⟩
    obtain ⟨entry, there, same⟩ := (Load.touches_iff aligned).mp touches
    exact .inr ⟨entry, List.mem_flatMap.mpr ⟨load, member, there⟩, same⟩

theorem byteAt_ofLoads (loads : List Load) (address : Address) :
    (ofLoads loads).byteAt address = (Load.latest? loads address).getD 0 := by
  have empty : ({} : Snapshot).byteAt address = 0 := by simp [byteAt]
  rw [(takes_ofLoads loads).bytes, Load.lookup_logs, empty]

theorem byteAt_page {snapshot : Snapshot} {page : Address} {content : Page} (aligned : page.IsAligned)
    (held : snapshot.pages[page]? = some content) {index : Nat} (inside : index < Address.pageSize) :
    snapshot.byteAt (page + UInt64.ofNat index) = content.byte index := by
  rw [byteAt, aligned.pageStart_add inside, aligned.offset_add inside, held, Option.getD_some]

/-- Each page is counted once. -/
theorem size_eq_ncard (snapshot : Snapshot) : snapshot.size = {page | page ∈ snapshot.pages}.ncard := by
  have listed : {page | page ∈ snapshot.pages} = (snapshot.pages.keys.toFinset : Set Address) := by
    ext page
    rw [Set.mem_ofPred_eq, List.coe_toFinset, Set.mem_ofPred_eq, Std.TreeMap.mem_keys]
  rw [listed, Set.ncard_coe_finset, List.toFinset_card_of_nodup Std.TreeMap.nodup_keys, size,
    Std.TreeMap.length_keys]

end Snapshot

/-- After any loads, a page is there exactly if a loaded byte lies in it, with addresses that go round at the end of
the address space. It is then delivered, and each of its bytes is that of the latest load that reaches it, or zero
if none does. Any other page is not delivered; a pager that is told to bring it in says so, and gives back the
page it took for it. A load that fits into the address space has for an address the byte at that distance from its
start. The size is the number of the pages that are there. Loading nothing changes nothing. -/
theorem loads_decide_contents (loads : List Load) :
    let snapshot := Snapshot.ofLoads loads
    let Touched (page : Address) := ∃ load ∈ loads, load.Touches page
    (∀ page : Address, page.IsAligned →
      (PageSource.contains snapshot page ↔ Touched page) ∧
      (Touched page → ∃ content, PageSource.fetch snapshot page = .ok content ∧
        ∀ index < Address.pageSize,
          content.byte index = (Load.latest? loads (page + UInt64.ofNat index)).getD 0) ∧
      (¬Touched page → PageSource.fetch snapshot page = .error (.snapshotRead page "page not present") ∧
        ∀ memory : Paged (Pager Snapshot), memory.resolver.source = snapshot →
          Pager.bringIn page memory = .error (.snapshotRead page "page not present")
            { memory with space := memory.space.allocate.release })) ∧
    (∀ load ∈ loads, load.data.length ≤ UInt64.size →
      ∀ address, load.byte? address = load.data[(address - load.start).toNat]?) ∧
    snapshot.size = {page : Address | page.IsAligned ∧ Touched page}.ncard ∧
    ∀ (snapshot : Snapshot) (start : Address), snapshot.load start [] = snapshot := by
  intro snapshot Touched
  refine ⟨?_, fun load _ short => load.byte?_eq short, ?_, ?_⟩
  · intro page aligned
    have present : page ∈ snapshot.pages ↔ Touched page :=
      Snapshot.mem_ofLoads.trans (and_iff_right aligned)
    refine ⟨Std.TreeMap.mem_iff_contains.symm.trans present, ?_, ?_⟩
    · intro touched
      have there := Std.TreeMap.mem_iff_isSome_getElem?.mp (present.mpr touched)
      obtain ⟨content, held⟩ := Option.isSome_iff_exists.mp there
      refine ⟨content, by simp only [PageSource.fetch, held], ?_⟩
      intro index inside
      rw [← Snapshot.byteAt_page aligned held inside, Snapshot.byteAt_ofLoads]
    · intro untouched
      have missing : snapshot.pages[page]? = none := Std.TreeMap.getElem?_eq_none (mt present.mp untouched)
      have failed : PageSource.fetch snapshot page = .error (.snapshotRead page "page not present") := by
        simp only [PageSource.fetch, missing]
      refine ⟨failed, ?_⟩
      intro memory source
      rw [Pager.bringIn, source, failed]
  · rw [Snapshot.size_eq_ncard]
    simp only [snapshot, Snapshot.mem_ofLoads, Touched]
  · intro snapshot start
    rw [Snapshot.load, List.length_nil, Chunk.split, Chunk.splitFrom_zero]
    rfl

/-- Loads that overlap, go round at the end of the address space, and reach into the page after. -/
def Load.overlapping : List Load :=
  [⟨0xFFFFFFFFFFFFFFFE, [1, 2, 3]⟩, ⟨0xFFFFFFFFFFFFFFFF, [4]⟩, ⟨0x1FFF, [5, 6]⟩, ⟨0x5000, []⟩]

/-- The third byte of the first load comes to the start of memory, and a load of nothing brings no page. -/
theorem loads_decide_contents_overlapping :
    let snapshot := Snapshot.ofLoads Load.overlapping
    (∃ content, PageSource.fetch snapshot 0xFFFFFFFFFFFFF000 = .ok content ∧
      content.byte 0xFFE = 1 ∧ content.byte 0xFFF = 4) ∧
    (∃ content, PageSource.fetch snapshot 0 = .ok content ∧ content.byte 0 = 3 ∧ content.byte 1 = 0) ∧
    PageSource.fetch snapshot 0x5000 = .error (.snapshotRead 0x5000 "page not present") := by
  intro snapshot
  obtain ⟨pages, -⟩ := loads_decide_contents Load.overlapping
  obtain ⟨-, last, -⟩ := pages 0xFFFFFFFFFFFFF000 (by decide)
  obtain ⟨-, first, -⟩ := pages 0 (by decide)
  obtain ⟨-, -, missing⟩ := pages 0x5000 (by decide)
  obtain ⟨top, fetchedTop, bytesTop⟩ := last (by decide)
  obtain ⟨bottom, fetchedBottom, bytesBottom⟩ := first (by decide)
  refine ⟨⟨top, fetchedTop, ?_, ?_⟩, ⟨bottom, fetchedBottom, ?_, ?_⟩, (missing (by decide)).1⟩
  · exact (bytesTop 0xFFE (by decide)).trans (by decide)
  · exact (bytesTop 0xFFF (by decide)).trans (by decide)
  · exact (bytesBottom 0 (by decide)).trans (by decide)
  · exact (bytesBottom 1 (by decide)).trans (by decide)

end GuestResume
