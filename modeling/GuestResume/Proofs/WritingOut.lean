import GuestResume.Memory.Desk
import GuestResume.Memory.Snapshot
import GuestResume.Proofs.BindingOutcome
import GuestResume.Proofs.TablePaths
import Mathlib.Data.List.Dedup

/-! Writing a layout out. It is refused exactly if the layout is frozen or its tables cannot lie where they would
have to, and then nothing has happened. Else the layout is frozen, and the caller gets one page for every table
that the mapped pages need, each led to by one entry. -/

namespace GuestResume

namespace Layout

variable {layout : Layout} {base : Address}

theorem mem_prefixes {count : Nat} (levels : count ≤ 4) {path : List Nat} :
    path ∈ layout.prefixes count ↔ path.length = count ∧ layout.Maps path := by
  simp only [prefixes, List.mem_dedup, List.mem_map, Maps]
  constructor
  · rintro ⟨mapping, listed, rfl⟩
    exact ⟨List.length_take_of_le levels, mapping, listed, List.take_prefix ..⟩
  · rintro ⟨rfl, mapping, listed, starts⟩
    exact ⟨mapping, listed, (List.prefix_iff_eq_take.mp starts).symm⟩

theorem mem_flatMap_prefixes {path : List Nat} :
    path ∈ [1, 2, 3].flatMap layout.prefixes ↔ path ≠ [] ∧ path.length < 4 ∧ layout.Maps path := by
  rw [List.mem_flatMap]
  constructor
  · rintro ⟨count, listed, inside⟩
    obtain ⟨positive, short⟩ := (show ∀ count ∈ [1, 2, 3], 0 < count ∧ count < 4 by decide) count listed
    obtain ⟨rfl, maps⟩ := (mem_prefixes (Nat.le_of_lt short)).mp inside
    exact ⟨List.length_pos_iff.mp positive, short, maps⟩
  · rintro ⟨filled, short, maps⟩
    refine ⟨path.length, ?_, (mem_prefixes (Nat.le_of_lt short)).mpr ⟨rfl, maps⟩⟩
    have positive := List.length_pos_iff.mpr filled
    simp only [List.mem_cons, List.not_mem_nil, or_false]
    omega

theorem nodup_prefixes (layout : Layout) : ([1, 2, 3].flatMap layout.prefixes).Nodup := by
  refine List.nodup_flatMap.mpr ⟨fun _ _ => List.nodup_dedup _, ?_⟩
  have levels : ∀ count ∈ [1, 2, 3], count ≤ 4 := by decide
  have apart : [1, 2, 3].Pairwise (· ≠ ·) := by decide
  refine apart.imp_of_mem fun here there different path left right => different ?_
  have first := ((mem_prefixes (levels _ here)).mp left).1
  have second := ((mem_prefixes (levels _ there)).mp right).1
  exact first.symm.trans second

/-- The root has one table, and so has every beginning of one to three indices. -/
theorem Reached.tableCount_eq (reached : layout.Reached) :
    layout.tableCount =
      1 + (layout.prefixes 1).length + (layout.prefixes 2).length + (layout.prefixes 3).length := by
  have paths : ((layout.tree.tables 0).map Prod.fst).Perm ([] :: [1, 2, 3].flatMap layout.prefixes) := by
    have nodup : ([] :: [1, 2, 3].flatMap layout.prefixes).Nodup :=
      List.nodup_cons.mpr ⟨fun member => (mem_flatMap_prefixes.mp member).1 rfl, nodup_prefixes layout⟩
    refine (List.perm_ext_iff_of_nodup (Tree.nodup_paths 0 layout.tree) nodup).mpr fun path => ?_
    have table : path ∈ (layout.tree.tables 0).map Prod.fst ↔ ∃ table, (path, table) ∈ layout.tree.tables 0 := by
      simp
    rw [table, Tree.exists_table_iff reached.populated, ← reached.valid.maps_iff, List.mem_cons, mem_flatMap_prefixes]
    by_cases empty : path = []
    · simp [empty]
    · simp [empty]
  have length := paths.length_eq
  rw [List.length_map, ← List.length_map Prod.snd, Tree.map_snd_tables, Tree.length_image] at length
  rw [tableCount, length]
  simp only [List.flatMap_cons, List.flatMap_nil, List.append_nil, List.length_cons, List.length_append]
  omega

/-- The tables of a layout as pages: one after the other from the base on, with the root first. Each of the others
is led to by a single entry of another one, and an entry that no mapped page goes through is zero. -/
structure WritesOut (layout : Layout) (base : Address) (image : TableImage) : Prop where
  root : image.root = base
  places : image.pages.map TablePage.address =
    (List.range layout.tableCount).map fun number => base + UInt64.ofNat (Address.pageSize * number)
  ascending : (image.pages.map TablePage.address).Pairwise (· < ·)
  referred : ∀ lower ∈ image.pages, lower.address ≠ base →
    ∃ upper ∈ image.pages, ∃ index < Address.entriesPerTable,
      upper.address ≠ lower.address ∧ upper.RefersTo index lower ∧
      ∀ other ∈ image.pages, ∀ entry < Address.entriesPerTable, other.RefersTo entry lower →
        other = upper ∧ entry = index
  leads : ∀ table ∈ image.pages, ∃ path, image.Leads path table
  entries : ∀ path table, image.Leads path table → ∀ index < Address.entriesPerTable,
    (table.page.word index = 0 ↔ ¬layout.Maps (path ++ [index]))

theorem Places.referred (places : layout.Places base) (reached : layout.Reached) {lower : TablePage}
    (member : lower ∈ layout.tree.image base) (below : lower.address ≠ base) :
    ∃ upper ∈ layout.tree.image base, ∃ index < Address.entriesPerTable,
      upper.address ≠ lower.address ∧ upper.RefersTo index lower ∧
      ∀ other ∈ layout.tree.image base, ∀ entry < Address.entriesPerTable, other.RefersTo entry lower →
        other = upper ∧ entry = index := by
  obtain ⟨path, listed⟩ := exists_path member
  obtain rfl | ⟨path, index, rfl⟩ := path.eq_nil_or_concat'
  · exact absurd ((places.root_iff listed).mpr rfl) below
  obtain ⟨inside, upper, above⟩ := exists_parent reached listed
  refine ⟨upper, mem_image above, index, inside, ?_, (places.refersTo_iff reached above member inside).mpr listed, ?_⟩
  · intro same
    cases places.eq_of_address (mem_image above) member same
    exact List.cons_ne_nil _ _ (List.self_eq_append_right.mp (places.path_unique above listed))
  · intro other also entry fits refers
    obtain ⟨way, found⟩ := exists_path also
    have lead := (places.refersTo_iff reached found member fits).mp refers
    obtain ⟨rfl, same⟩ := List.append_inj' (places.path_unique lead listed) rfl
    exact ⟨table_unique found above, List.head_eq_of_cons_eq same⟩

/-- An entry is zero exactly if no mapped page goes through it. -/
theorem Reached.word_eq_zero (reached : layout.Reached) {path : List Nat}
    {table : TablePage} (member : (path, table) ∈ layout.tree.tables base) {index : Nat}
    (inside : index < Address.entriesPerTable) :
    table.page.word index = 0 ↔ ¬layout.Maps (path ++ [index]) := by
  have made : ∀ (frame : Address) {flags : Entry}, Entry.isPresent flags → Entry.make frame flags ≠ 0 := by
    intro frame flags present zero
    rw [← Entry.isPresent_make frame, zero] at present
    cases present
  rw [reached.valid.maps_iff]
  have slot := Tree.slot_word member inside
  generalize table.page.word index = entry at slot
  cases slot with
  | @table lower listed =>
    exact iff_of_false (made _ (by decide)) (not_not_intro (reached.table_below listed).2)
  | @leaf leaf mapped =>
    refine iff_of_false (made _ leaf.permission.isPresent_flags) (not_not_intro ⟨[], leaf, ?_⟩)
    rwa [List.append_nil]
  | absent absent => exact iff_of_true rfl absent

theorem Places.writesOut (places : layout.Places base) (reached : layout.Reached) :
    layout.WritesOut base ⟨base, layout.tree.image base⟩ where
  root := rfl
  places := Tree.addresses_image base layout.tree
  ascending := Tree.sorted_addresses_image layout.tree places.fits
  referred _ member below := places.referred reached member below
  leads table member := by
    obtain ⟨path, listed⟩ := exists_path member
    exact ⟨path, (places.leads_iff reached).mpr listed⟩
  entries _ _ leads _ inside := reached.word_eq_zero ((places.leads_iff reached).mp leads) inside

end Layout

theorem Holdings.layout_setLayout (holdings : Holdings) (number : Nat) (layout : Layout) :
    (holdings.setLayout number layout).layout number = layout := by
  simp [Holdings.layout, setLayout]

namespace MemoryDesk

variable {S : Type} [PageSource S]

/-- What is left after a layout was written out. -/
def written (desk : MemoryDesk S) (number : Nat) (image : TableImage) : MemoryDesk S where
  memory := { desk.memory with space := desk.memory.space.allocate image.pages.length }
  holdings := { desk.holdings.setLayout number (desk.holdings.layout number).freeze with
    images := desk.holdings.images.push (some image) }

theorem run_commit (desk : MemoryDesk S) (number : Nat) (base : Address) :
    run (.space (.commit number (some base))) desk =
      match (desk.holdings.layout number).image base with
      | .error error => .error (.memory error) desk
      | .ok image => .ok (.committed desk.holdings.images.size image) (desk.written number image) := by
  change ((ofExcept (desk.memory.space.commit (desk.holdings.layout number) base) >>= _ : Run S MemoryReply) desk) = _
  rw [Space.commit]
  cases (desk.holdings.layout number).image base <;> rfl

end MemoryDesk

/-- A caller asks for a layout to be written out from some address on. That is refused exactly if the layout was
written out before, or the address is unaligned, or the tables would not all lie in physical memory, or a mapped
frame lies where they would; a refusal changes nothing. Else the tables are handed over, a page was given out for
each, and the layout is frozen as it is. There is one table for the root, and one for every beginning of one to
three indices of a path to a mapped page. -/
theorem layout_written_exactly {S : Type} [PageSource S] (desk : MemoryDesk S) (number : Nat)
    (reached : (desk.holdings.layout number).Reached) (base : Address) :
    let layout := desk.holdings.layout number
    let run := MemoryDesk.run (.space (.commit number (some base)))
    (Access.succeeds run desk ↔ layout.frozen = false ∧ layout.Places base) ∧
    layout.tableCount =
      1 + (layout.prefixes 1).length + (layout.prefixes 2).length + (layout.prefixes 3).length ∧
    match run desk with
    | .error _ later => later = desk
    | .ok reply later => ∃ image, reply = .committed desk.holdings.images.size image ∧ layout.WritesOut base image ∧
      later = desk.written number image ∧ later.memory.space = desk.memory.space.allocate layout.tableCount ∧
      later.holdings.layout number = { layout with frozen := true } := by
  intro layout run
  have outcome : run desk = _ := desk.run_commit number base
  cases writing : layout.image base with
  | error error =>
    rw [writing] at outcome
    refine ⟨?_, reached.tableCount_eq, by rw [outcome]⟩
    rw [Access.succeeds, outcome]
    refine iff_of_false Bool.false_ne_true fun accepted => ?_
    rw [Layout.image_ok_iff.mpr accepted] at writing
    cases writing
  | ok image =>
    obtain ⟨places, rfl⟩ := Layout.image_ok writing
    rw [writing] at outcome
    refine ⟨?_, reached.tableCount_eq, ?_⟩
    · rw [Access.succeeds, outcome]
      exact iff_of_true rfl (Layout.image_ok_iff.mp writing)
    · rw [outcome]
      refine ⟨_, rfl, places.writesOut reached, rfl, ?_, ?_⟩
      · exact congrArg (desk.memory.space.allocate ·) (Tree.length_image base layout.tree)
      · exact desk.holdings.layout_setLayout number layout.freeze

/-- A caller with one layout, of two pages far from each other. -/
def MemoryDesk.twoHalves : MemoryDesk Snapshot where
  memory := ⟨⟨{}, 0, 0⟩, {}⟩
  holdings := ({} : Holdings).setLayout 0 (Layout.ofInsertions Insertion.twoHalves)

/-- Right above its frames there is room for the seven tables. -/
theorem layout_written_exactly_twoHalves :
    ∃ image, MemoryDesk.run (.space (.commit 0 (some 0x8000))) MemoryDesk.twoHalves =
        .ok (.committed 0 image) (MemoryDesk.twoHalves.written 0 image) ∧
      (Layout.ofInsertions Insertion.twoHalves).WritesOut 0x8000 image ∧
      (Layout.ofInsertions Insertion.twoHalves).tableCount = 7 := by
  have held : MemoryDesk.twoHalves.holdings.layout 0 = Layout.ofInsertions Insertion.twoHalves :=
    Holdings.layout_setLayout ..
  have reached : (MemoryDesk.twoHalves.holdings.layout 0).Reached :=
    held.symm ▸ Layout.reached_ofInsertions Insertion.twoHalves
  obtain ⟨accepted, -, outcome⟩ := layout_written_exactly MemoryDesk.twoHalves 0 reached 0x8000
  rw [held] at accepted outcome
  obtain ⟨reply, later, done⟩ := Access.succeeds_iff.mp (accepted.mpr (Layout.image_ok_iff.mp rfl))
  rw [done] at outcome
  obtain ⟨image, rfl, writes, rfl, -⟩ := outcome
  exact ⟨image, done, writes, by decide +kernel⟩

end GuestResume
