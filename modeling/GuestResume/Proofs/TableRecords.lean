import GuestResume.Proofs.TableReads
import Mathlib.Data.List.Pairwise

/-! The enumeration of a page table against lookups through it, whatever the table holds. A table that is
reached on a path maps the block whose number the path makes, and each of its entries one block of the
next level. So an address finds its way down the same entries in the enumeration as in a walk, tables that
are reached again and again included. -/

namespace GuestResume

/-- The addresses that a record maps. -/
def Record.Covers (record : Record) (gva : Address) : Prop :=
  record.page.toNat ≤ gva.toNat ∧ gva.toNat < record.page.toNat + record.size.bytes

/-- The record maps one block. -/
structure Record.Maps (record : Record) (level number : Nat) : Prop where
  leaf : level ≤ 2
  size : record.size.bytes = Address.blockSize level
  inside : number * Address.blockSize level < 0x1000000000000
  page : record.page = Address.blockStart level number

theorem Record.Maps.covers_iff {record : Record} {level number : Nat} (maps : record.Maps level number)
    {gva : Address} : record.Covers gva ↔ gva.IsCanonical ∧ gva.block level = number := by
  rw [Covers, maps.page, maps.size]
  exact Address.mem_block maps.leaf maps.inside gva

namespace Subtable

variable {subtable lower : Subtable} {subtables : List Subtable} {level index : Nat} {entry : Entry}
  {record : Record}

/-- The number of the block that a table maps. -/
def number (subtable : Subtable) : Nat :=
  Address.pathNumber subtable.path

/-- The number of the block that an entry of a table maps. -/
def place (subtable : Subtable) (index : Nat) : Nat :=
  Address.entriesPerTable * subtable.number + index

/-- The path leads to a table of the given level. -/
structure OnLevel (subtable : Subtable) (level : Nat) : Prop where
  length : subtable.path.length + level = 3
  inside : ∀ index ∈ subtable.path, index < Address.entriesPerTable

theorem mem_slots : (subtable, index) ∈ slots subtables ↔
    subtable ∈ subtables ∧ index < Address.entriesPerTable := by
  simp [slots, List.mem_flatMap]

theorem mem_picked {α : Type} {pick : Subtable × Nat → Option α} {value : α} :
    value ∈ (slots subtables).filterMap pick ↔
      ∃ subtable ∈ subtables, ∃ index < Address.entriesPerTable, pick (subtable, index) = some value := by
  constructor
  · intro member
    obtain ⟨⟨subtable, index⟩, slot, picked⟩ := List.mem_filterMap.mp member
    obtain ⟨listed, inside⟩ := mem_slots.mp slot
    exact ⟨subtable, listed, index, inside, picked⟩
  · rintro ⟨subtable, listed, index, inside, picked⟩
    exact List.mem_filterMap.mpr ⟨(subtable, index), mem_slots.mpr ⟨listed, inside⟩, picked⟩

/-- Entries of different tables, and different entries of one, map different blocks. -/
theorem slots_apart (apart : subtables.Pairwise fun a b => a.number ≠ b.number) :
    (slots subtables).Pairwise fun a b => a.1.place a.2 ≠ b.1.place b.2 := by
  refine List.pairwise_flatMap.mpr ⟨fun subtable _ => ?_, apart.imp fun {a b} different => ?_⟩
  · refine List.pairwise_map.mpr (List.nodup_range.imp fun {i j} different same => ?_)
    exact different (Nat.add_left_cancel same)
  · rintro _ first _ second same
    obtain ⟨i, inside, rfl⟩ := List.mem_map.mp first
    obtain ⟨j, within, rfl⟩ := List.mem_map.mp second
    rw [List.mem_range] at inside within
    simp only [place, Address.entriesPerTable] at same inside within
    omega

theorem slot_eq (apart : subtables.Pairwise fun a b => a.number ≠ b.number) {first second : Subtable × Nat}
    (here : first ∈ slots subtables) (there : second ∈ slots subtables)
    (same : first.1.place first.2 = second.1.place second.2) : first = second := by
  have : Std.Symm fun a b : Subtable × Nat => a.1.place a.2 ≠ b.1.place b.2 := ⟨fun _ _ => Ne.symm⟩
  by_cases equal : first = second
  · exact equal
  · exact absurd same ((slots_apart apart).forall here there equal)

theorem block_eq_place (gva : Address) (onLevel : subtable.OnLevel level)
    (inside : index < Address.entriesPerTable) :
    gva.block level = subtable.place index ↔
      gva.block (level + 1) = subtable.number ∧ gva.index level = index := by
  have length := onLevel.length
  have bound := Address.index_lt level gva
  rw [Address.block_eq (by omega), place]
  simp only [Address.entriesPerTable] at inside bound ⊢
  omega

theorem OnLevel.further (onLevel : subtable.OnLevel level) (inside : index < Address.entriesPerTable) :
    ∀ other ∈ subtable.path ++ [index], other < Address.entriesPerTable := by
  intro other member
  obtain early | late := List.mem_append.mp member
  · exact onLevel.inside other early
  · rwa [List.mem_singleton.mp late]

theorem OnLevel.append (onLevel : subtable.OnLevel (level + 1)) (inside : index < Address.entriesPerTable)
    (table : Address) : OnLevel ⟨table, subtable.path ++ [index]⟩ level where
  length := by
    have length := onLevel.length
    rw [List.length_append, List.length_singleton]
    omega
  inside := onLevel.further inside

theorem record?_eq_some (onLevel : subtable.OnLevel level) (inside : index < Address.entriesPerTable)
    (found : subtable.record? level index entry = some record) :
    entry.isPresent ∧ entry.leafSize? level = some record.size ∧ record.frame = entry.frame record.size ∧
      record.Maps level (subtable.place index) := by
  unfold record? at found
  split at found
  next present =>
    obtain ⟨size, leaf, same⟩ := Option.map_eq_some_iff.mp found
    subst record
    obtain ⟨low, bytes⟩ := Entry.bytes_leafSize? leaf
    have all := onLevel.further inside
    have number : Address.pathNumber (subtable.path ++ [index]) = subtable.place index :=
      Address.pathNumber_append _ _
    refine ⟨present, leaf, rfl, low, bytes, ?_, ?_⟩
    · have bound := Address.pathNumber_lt all
      have length := onLevel.length
      rw [number, List.length_append, List.length_singleton] at bound
      exact Address.block_inside bound (by omega)
    · dsimp only
      rw [List.append_cons, Address.ofIndices_eq all, number]
  next => cases found

theorem below?_eq_some (found : subtable.below? level index entry = some lower) :
    entry.isPresent ∧ entry.leafSize? level = none ∧ lower = ⟨entry.frame, subtable.path ++ [index]⟩ := by
  unfold below? at found
  split at found
  next node =>
    cases found
    exact ⟨node.1, node.2, rfl⟩
  next => cases found

theorem number_append (table : Address) : number ⟨table, subtable.path ++ [index]⟩ = subtable.place index :=
  Address.pathNumber_append _ _

end Subtable

namespace Space

variable {space : Space} {table gva : Address} {level : Nat}

theorem presentEntry_readable (readable : space.Readable table) (gva : Address) (level : Nat) :
    bus.presentEntry gva level table space =
      if (space.entryAt table (gva.index level)).isPresent then .ok (space.entryAt table (gva.index level)) space
      else .error (.unmapped gva) space := by
  rw [Bus.presentEntry, Access.bind_ok (readable _ (Address.index_lt level gva))]
  split <;> rfl

theorem walk_absent (readable : space.Readable table)
    (absent : ¬(space.entryAt table (gva.index level)).isPresent) :
    bus.walk gva level table space = .error (.unmapped gva) space := by
  have refused := presentEntry_readable readable gva level
  rw [if_neg absent] at refused
  cases level with
  | zero => exact Access.bind_error refused
  | succ level => exact Access.bind_error refused

theorem walk_leaf (readable : space.Readable table) {size : PageSize}
    (present : (space.entryAt table (gva.index level)).isPresent)
    (leaf : (space.entryAt table (gva.index level)).leafSize? level = some size) :
    bus.walk gva level table space = .ok ((space.entryAt table (gva.index level)).target size gva) space := by
  have read := presentEntry_readable readable gva level
  rw [if_pos present] at read
  cases level with
  | zero =>
    cases leaf
    exact Access.bind_ok read
  | succ level =>
    rw [Bus.walk, Access.bind_ok read, leaf]
    rfl

theorem walk_node (readable : space.Readable table)
    (present : (space.entryAt table (gva.index (level + 1))).isPresent)
    (node : (space.entryAt table (gva.index (level + 1))).leafSize? (level + 1) = none) :
    bus.walk gva (level + 1) table space =
      bus.walk gva level (space.entryAt table (gva.index (level + 1))).frame space := by
  have read := presentEntry_readable readable gva (level + 1)
  rw [if_pos present] at read
  rw [Bus.walk, Access.bind_ok read, node]

theorem mem_leaves {subtables : List Subtable} {record : Record} :
    record ∈ space.leaves level subtables ↔ ∃ subtable ∈ subtables, ∃ index < Address.entriesPerTable,
      subtable.record? level index (space.entryAt subtable.table index) = some record :=
  Subtable.mem_picked

theorem mem_nodes {subtables : List Subtable} {lower : Subtable} :
    lower ∈ space.nodes level subtables ↔ ∃ subtable ∈ subtables, ∃ index < Address.entriesPerTable,
      subtable.below? level index (space.entryAt subtable.table index) = some lower :=
  Subtable.mem_picked

/-- Tables of one level that were read whole. -/
structure Visited (space : Space) (level : Nat) (subtables : List Subtable) : Prop where
  readable : ∀ subtable ∈ subtables, space.Readable subtable.table
  onLevel : ∀ subtable ∈ subtables, subtable.OnLevel level

/-- For the addresses that a record maps, a walk from one of the tables ends at its leaf. -/
structure Finds (space : Space) (level : Nat) (subtables : List Subtable) (record : Record) : Prop where
  maps : ∃ leaf number, record.Maps leaf number
  walks : ∀ gva, record.Covers gva → gva.IsCanonical ∧ ∃ subtable ∈ subtables,
    gva.block (level + 1) = subtable.number ∧ bus.walk gva level subtable.table space =
      .ok ⟨record.frame + UInt64.ofNat (gva.toNat % record.size.bytes), record.size⟩ space

/-- The records say where walks from some tables lead, and no two of them speak of the same address. -/
structure Describes (space : Space) (level : Nat) (subtables : List Subtable) (found : List Record) : Prop where
  sound : ∀ record ∈ found, space.Finds level subtables record
  complete : ∀ gva, gva.IsCanonical → ∀ subtable ∈ subtables, gva.block (level + 1) = subtable.number →
    (∃ record ∈ found, record.Covers gva) ∨
      bus.walk gva level subtable.table space = .error (.unmapped gva) space
  apart : (subtables.Pairwise fun a b => a.number ≠ b.number) →
    found.Pairwise fun a b => ∀ gva, a.Covers gva → ¬b.Covers gva

variable {subtables : List Subtable} {lower : List Record}

theorem leaf_found (visited : space.Visited level subtables) {subtable : Subtable} (listed : subtable ∈ subtables)
    {index : Nat} (inside : index < Address.entriesPerTable) {record : Record}
    (found : subtable.record? level index (space.entryAt subtable.table index) = some record) :
    space.Finds level subtables record := by
  obtain ⟨present, leaf, frame, maps⟩ := Subtable.record?_eq_some (visited.onLevel _ listed) inside found
  refine ⟨⟨_, _, maps⟩, fun gva covers => ?_⟩
  obtain ⟨canonical, block⟩ := maps.covers_iff.mp covers
  obtain ⟨above, rfl⟩ := (Subtable.block_eq_place gva (visited.onLevel _ listed) inside).mp block
  refine ⟨canonical, subtable, listed, above, ?_⟩
  rw [walk_leaf (visited.readable _ listed) present leaf, frame]
  rfl

/-- A walk goes the way of the entry that it reads, and so does the enumeration. -/
theorem node_found (visited : space.Visited (level + 1) subtables) {record : Record}
    (found : space.Finds level (space.nodes (level + 1) subtables) record) :
    space.Finds (level + 1) subtables record := by
  refine ⟨found.maps, fun gva covers => ?_⟩
  obtain ⟨canonical, lower, member, block, walked⟩ := found.walks gva covers
  obtain ⟨subtable, listed, index, inside, below⟩ := mem_nodes.mp member
  obtain ⟨present, node, rfl⟩ := Subtable.below?_eq_some below
  rw [Subtable.number_append] at block
  obtain ⟨above, rfl⟩ := (Subtable.block_eq_place gva (visited.onLevel _ listed) inside).mp block
  refine ⟨canonical, subtable, listed, above, ?_⟩
  rw [walk_node (visited.readable _ listed) present node]
  exact walked

theorem leaf_covers (visited : space.Visited level subtables) {subtable : Subtable} (listed : subtable ∈ subtables)
    (canonical : gva.IsCanonical) (above : gva.block (level + 1) = subtable.number) {size : PageSize}
    (present : (space.entryAt subtable.table (gva.index level)).isPresent)
    (leaf : (space.entryAt subtable.table (gva.index level)).leafSize? level = some size) :
    ∃ record ∈ space.leaves level subtables, record.Covers gva := by
  have inside := Address.index_lt level gva
  have found : ∃ record, subtable.record? level (gva.index level)
      (space.entryAt subtable.table (gva.index level)) = some record := by
    rw [Subtable.record?, if_pos present, leaf]
    exact ⟨_, rfl⟩
  obtain ⟨record, picked⟩ := found
  obtain ⟨-, -, -, maps⟩ := Subtable.record?_eq_some (visited.onLevel _ listed) inside picked
  have block := (Subtable.block_eq_place gva (visited.onLevel _ listed) inside).mpr ⟨above, rfl⟩
  have member := mem_leaves.mpr ⟨subtable, listed, _, inside, picked⟩
  exact ⟨record, member, maps.covers_iff.mpr ⟨canonical, block⟩⟩

theorem leaves_apart (visited : space.Visited level subtables)
    (apart : subtables.Pairwise fun a b => a.number ≠ b.number) :
    (space.leaves level subtables).Pairwise fun a b => ∀ gva, a.Covers gva → ¬b.Covers gva := by
  refine List.pairwise_filterMap.mpr ((Subtable.slots_apart apart).imp_of_mem ?_)
  rintro ⟨first, i⟩ ⟨second, j⟩ here there different a found b picked gva covers both
  obtain ⟨listed, inside⟩ := Subtable.mem_slots.mp here
  obtain ⟨present, within⟩ := Subtable.mem_slots.mp there
  obtain ⟨-, -, -, left⟩ := Subtable.record?_eq_some (visited.onLevel _ listed) inside found
  obtain ⟨-, -, -, right⟩ := Subtable.record?_eq_some (visited.onLevel _ present) within picked
  exact different ((left.covers_iff.mp covers).2.symm.trans (right.covers_iff.mp both).2)

theorem nodes_apart (apart : subtables.Pairwise fun a b => a.number ≠ b.number) :
    (space.nodes level subtables).Pairwise fun a b => a.number ≠ b.number := by
  refine List.pairwise_filterMap.mpr ((Subtable.slots_apart apart).imp ?_)
  rintro ⟨first, i⟩ ⟨second, j⟩ different a found b picked
  obtain ⟨-, -, rfl⟩ := Subtable.below?_eq_some found
  obtain ⟨-, -, rfl⟩ := Subtable.below?_eq_some picked
  rw [Subtable.number_append, Subtable.number_append]
  exact different

theorem Visited.onLevel_nodes (visited : space.Visited (level + 1) subtables) :
    ∀ subtable ∈ space.nodes (level + 1) subtables, subtable.OnLevel level := by
  intro lower member
  obtain ⟨subtable, listed, index, inside, below⟩ := mem_nodes.mp member
  obtain ⟨-, -, rfl⟩ := Subtable.below?_eq_some below
  exact (visited.onLevel _ listed).append inside _

/-- An entry is a leaf or leads to a table, and never both. -/
theorem leaf_node_apart (visited : space.Visited (level + 1) subtables)
    (apart : subtables.Pairwise fun a b => a.number ≠ b.number) {leaf record : Record}
    (member : leaf ∈ space.leaves (level + 1) subtables)
    (found : space.Finds level (space.nodes (level + 1) subtables) record) (covers : leaf.Covers gva) :
    ¬record.Covers gva := by
  intro both
  obtain ⟨first, listed, i, inside, picked⟩ := mem_leaves.mp member
  obtain ⟨-, large, -, maps⟩ := Subtable.record?_eq_some (visited.onLevel _ listed) inside picked
  obtain ⟨-, lower, node, block, -⟩ := found.walks gva both
  obtain ⟨second, present, j, within, below⟩ := mem_nodes.mp node
  obtain ⟨-, small, rfl⟩ := Subtable.below?_eq_some below
  rw [Subtable.number_append] at block
  -- A common address comes through one entry, which cannot be a leaf and lead to a table.
  have same : first.place i = second.place j := (maps.covers_iff.mp covers).2.symm.trans block
  cases Subtable.slot_eq apart (Subtable.mem_slots.mpr ⟨listed, inside⟩)
    (Subtable.mem_slots.mpr ⟨present, within⟩) same
  rw [small] at large
  cases large

theorem describes_zero (visited : space.Visited 0 subtables) :
    space.Describes 0 subtables (space.leaves 0 subtables) where
  sound record member := by
    obtain ⟨subtable, listed, index, inside, found⟩ := mem_leaves.mp member
    exact leaf_found visited listed inside found
  complete gva canonical subtable listed above := by
    by_cases present : (space.entryAt subtable.table (gva.index 0)).isPresent
    · exact .inl (leaf_covers visited listed canonical above present rfl)
    · exact .inr (walk_absent (visited.readable _ listed) present)
  apart := leaves_apart visited

theorem describes_succ (visited : space.Visited (level + 1) subtables)
    (below : space.Describes level (space.nodes (level + 1) subtables) lower) :
    space.Describes (level + 1) subtables (space.leaves (level + 1) subtables ++ lower) where
  sound record member := by
    obtain here | deeper := List.mem_append.mp member
    · obtain ⟨subtable, listed, index, inside, found⟩ := mem_leaves.mp here
      exact leaf_found visited listed inside found
    · exact node_found visited (below.sound record deeper)
  complete gva canonical subtable listed above := by
    have readable := visited.readable _ listed
    by_cases present : (space.entryAt subtable.table (gva.index (level + 1))).isPresent
    · cases leaf : (space.entryAt subtable.table (gva.index (level + 1))).leafSize? (level + 1) with
      | some size =>
        obtain ⟨record, member, covers⟩ := leaf_covers visited listed canonical above present leaf
        exact .inl ⟨record, List.mem_append_left _ member, covers⟩
      | none =>
        have inside := Address.index_lt (level + 1) gva
        have node := mem_nodes.mpr ⟨subtable, listed, _, inside, if_pos ⟨present, leaf⟩⟩
        have block := (Subtable.block_eq_place gva (visited.onLevel _ listed) inside).mpr ⟨above, rfl⟩
        rw [walk_node readable present leaf]
        obtain ⟨record, member, covers⟩ | unmapped := below.complete gva canonical _ node
          (block.trans (Subtable.number_append _).symm)
        · exact .inl ⟨record, List.mem_append_right _ member, covers⟩
        · exact .inr unmapped
    · exact .inr (walk_absent readable present)
  apart numbers := by
    refine List.pairwise_append.mpr ⟨leaves_apart visited numbers, below.apart (nodes_apart numbers), ?_⟩
    intro leaf member record deeper gva covers
    exact leaf_node_apart visited numbers member (below.sound record deeper) covers

/-- An enumeration that succeeds describes the walks from its tables. -/
theorem enumerate_describes {found : List Record} {later : Space}
    (done : bus.enumerate level subtables space = .ok found later)
    (onLevel : ∀ subtable ∈ subtables, subtable.OnLevel level) :
    later = space ∧ space.Describes level subtables found := by
  induction level generalizing subtables found with
  | zero =>
    obtain ⟨same, rfl, readable⟩ := enumerate_zero_ok done
    exact ⟨same, describes_zero ⟨readable, onLevel⟩⟩
  | succ level ih =>
    obtain ⟨readable, lower, further, rfl⟩ := enumerate_succ_ok done
    have visited : space.Visited (level + 1) subtables := ⟨readable, onLevel⟩
    obtain ⟨same, below⟩ := ih further visited.onLevel_nodes
    exact ⟨same, describes_succ visited below⟩

end Space

end GuestResume
