import GuestResume.Proofs.TableRecords

/-! The records of a page table as a map. From the root the enumeration describes every walk, so that each
record tells what lookups in its range find, and a lookup outside all ranges finds nothing. -/

namespace GuestResume

namespace Record

variable {record : Record} {level number : Nat}

theorem Maps.covers_add (maps : record.Maps level number) {distance : Nat}
    (inside : distance < record.size.bytes) :
    record.Covers (record.page + UInt64.ofNat distance) ∧
      (record.page + UInt64.ofNat distance).toNat % record.size.bytes = distance := by
  rw [maps.size] at inside
  obtain ⟨sum, rest⟩ := Address.blockStart_add maps.leaf maps.inside inside
  rw [Covers, maps.page, maps.size, sum]
  exact ⟨⟨Nat.le_add_right _ _, Nat.add_lt_add_left inside _⟩, rest⟩

theorem covers_page (record : Record) : record.Covers record.page := by
  have positive : 0 < record.size.bytes := by cases record.size <;> decide
  exact ⟨Nat.le_refl _, Nat.lt_add_of_pos_right positive⟩

end Record

namespace Space

variable {space : Space} {cr3 : Address} {found : List Record}

/-- The table that every lookup begins with. -/
def root (cr3 : Address) : Subtable :=
  ⟨Entry.frame cr3, []⟩

theorem onLevel_root (cr3 : Address) : ∀ subtable ∈ [root cr3], subtable.OnLevel 3 := by
  intro subtable member
  cases List.mem_singleton.mp member
  exact ⟨rfl, fun _ none => nomatch none⟩

theorem block_root (cr3 gva : Address) : gva.block 4 = (root cr3).number :=
  gva.block_root

theorem lookup_canonical (cr3 : Address) {gva : Address} (canonical : gva.IsCanonical) :
    bus.lookup cr3 gva = bus.walk gva 3 (root cr3).table :=
  if_pos canonical

theorem lookup_record (describes : space.Describes 3 [root cr3] found) {record : Record} (member : record ∈ found)
    {distance : Nat} (inside : distance < record.size.bytes) :
    bus.lookup cr3 (record.page + UInt64.ofNat distance) space =
      .ok ⟨record.frame + UInt64.ofNat distance, record.size⟩ space := by
  have finds := describes.sound record member
  obtain ⟨level, number, maps⟩ := finds.maps
  obtain ⟨covers, rest⟩ := maps.covers_add inside
  obtain ⟨canonical, subtable, only, -, walked⟩ := finds.walks _ covers
  cases List.mem_singleton.mp only
  rw [lookup_canonical cr3 canonical, walked, rest]

theorem lookup_uncovered (describes : space.Describes 3 [root cr3] found) {gva : Address}
    (canonical : gva.IsCanonical) (uncovered : ∀ record ∈ found, ¬record.Covers gva) :
    bus.lookup cr3 gva space = .error (.unmapped gva) space := by
  rw [lookup_canonical cr3 canonical]
  obtain ⟨record, member, covers⟩ | unmapped := describes.complete gva canonical (root cr3)
    (List.mem_singleton.mpr rfl) (block_root cr3 gva)
  · exact absurd covers (uncovered record member)
  · exact unmapped

theorem covered_of_lookup (describes : space.Describes 3 [root cr3] found) {gva : Address} {target : Target}
    {after : Space} (done : bus.lookup cr3 gva space = .ok target after) :
    ∃ record ∈ found, record.Covers gva := by
  by_cases canonical : gva.IsCanonical
  · by_cases covered : ∃ record ∈ found, record.Covers gva
    · exact covered
    · have uncovered : ∀ record ∈ found, ¬record.Covers gva := fun record member covers =>
        covered ⟨record, member, covers⟩
      rw [lookup_uncovered describes canonical uncovered] at done
      cases done
  · rw [Bus.lookup, if_neg canonical] at done
    cases done

theorem covers_unique (apart : found.Pairwise fun a b => ∀ gva, a.Covers gva → ¬b.Covers gva) {a b : Record}
    (first : a ∈ found) (second : b ∈ found) {gva : Address} (covers : a.Covers gva) (both : b.Covers gva) :
    a = b := by
  have : Std.Symm fun a b : Record => ∀ gva, a.Covers gva → ¬b.Covers gva :=
    ⟨fun _ _ never gva later earlier => never gva earlier later⟩
  by_cases same : a = b
  · exact same
  · exact absurd both (apart.forall first second same gva covers)

/-- In ascending order, records that have no address in common lie apart. -/
theorem pairwise_sorted (apart : found.Pairwise fun a b => ∀ gva, a.Covers gva → ¬b.Covers gva) :
    (found.mergeSort fun a b => a.page ≤ b.page).Pairwise fun a b =>
      a.page < b.page ∧ ∀ gva, ¬(a.Covers gva ∧ b.Covers gva) := by
  have ordered : (found.mergeSort fun a b => a.page ≤ b.page).Pairwise fun a b =>
      decide (a.page ≤ b.page) = true := by
    apply List.pairwise_mergeSort
    · intro a b c first second
      simp only [decide_eq_true_eq] at first second ⊢
      exact UInt64.le_trans first second
    · intro a b
      simp only [Bool.or_eq_true, decide_eq_true_eq]
      exact UInt64.le_total _ _
  have separate : (found.mergeSort fun a b => a.page ≤ b.page).Pairwise fun a b =>
      ∀ gva, a.Covers gva → ¬b.Covers gva := by
    refine (List.Perm.pairwise_iff ?_ (List.mergeSort_perm found _)).mpr apart
    exact fun never gva later earlier => never gva earlier later
  refine (ordered.and separate).imp ?_
  rintro a b ⟨upTo, never⟩
  refine ⟨?_, fun gva both => never gva both.1 both.2⟩
  -- Two records that begin at one page would both cover it.
  rcases UInt64.lt_or_eq_of_le (of_decide_eq_true upTo) with before | same
  · exact before
  · exact absurd b.covers_page (never b.page (same ▸ a.covers_page))

/-- Tables that are in memory, with all that their entries lead to, can be enumerated. -/
theorem exists_enumerate (tables : Address → Prop) (readable : ∀ table, tables table → space.Readable table)
    (closed : ∀ table, tables table → ∀ index < Address.entriesPerTable,
      (space.entryAt table index).isPresent → tables (space.entryAt table index).frame)
    (level : Nat) {subtables : List Subtable} (inside : ∀ subtable ∈ subtables, tables subtable.table) :
    ∃ found, bus.enumerate level subtables space = .ok found space := by
  have whole : ∀ subtable ∈ subtables, space.Readable subtable.table := fun subtable member =>
    readable _ (inside subtable member)
  induction level generalizing subtables with
  | zero => exact ⟨_, enumerate_zero_eq whole⟩
  | succ level ih =>
    have below : ∀ lower ∈ space.nodes (level + 1) subtables, tables lower.table := by
      intro lower member
      obtain ⟨subtable, listed, index, within, found⟩ := mem_nodes.mp member
      obtain ⟨present, -, rfl⟩ := Subtable.below?_eq_some found
      exact closed _ (inside subtable listed) index within present
    obtain ⟨found, enumerated⟩ := ih below fun lower member => readable _ (below lower member)
    exact ⟨_, enumerate_succ_eq whole enumerated⟩

theorem readable_bound {table : Address} {page : Page} (aligned : table.IsAligned)
    (held : space.page? table = some page) :
    space.Readable table ∧ ∀ index < Address.entriesPerTable, space.entryAt table index = page.word index := by
  have entries : ∀ index < Address.entriesPerTable, space.entryAt table index = page.word index := by
    intro index inside
    rw [entryAt, readEntry_bound aligned held inside]
  refine ⟨fun index inside => ?_, entries⟩
  rw [entries index inside, readEntry_bound aligned held inside]

end Space

/-- When the enumeration of a page table succeeds, its records are in ascending order and have no address in
common. Inside the range of a record a lookup finds the record's memory, and at a canonical address outside
all ranges it finds nothing, so every lookup that succeeds is told by one record. -/
theorem records_agree_with_lookup {space later : Space} {cr3 : Address} {found : List Record}
    (done : Space.bus.records cr3 space = .ok found later) :
    later = space ∧
    (found.Pairwise fun a b => a.page < b.page ∧ ∀ gva, ¬(a.Covers gva ∧ b.Covers gva)) ∧
    (∀ record ∈ found, ∀ distance < record.size.bytes,
      Space.bus.lookup cr3 (record.page + UInt64.ofNat distance) space =
        .ok ⟨record.frame + UInt64.ofNat distance, record.size⟩ space) ∧
    (∀ gva : Address, gva.IsCanonical → (∀ record ∈ found, ¬record.Covers gva) →
      Space.bus.lookup cr3 gva space = .error (.unmapped gva) space) ∧
    (∀ gva target after, Space.bus.lookup cr3 gva space = .ok target after →
      ∃! record, record ∈ found ∧ record.Covers gva) := by
  obtain ⟨listed, middle, enumerated, finished⟩ := Access.exists_of_bind_ok done
  obtain ⟨rfl, describes⟩ := Space.enumerate_describes enumerated (Space.onLevel_root cr3)
  cases finished
  have apart := describes.apart (List.pairwise_singleton _ _)
  refine ⟨rfl, Space.pairwise_sorted apart, ?_, ?_, ?_⟩
  · intro record member distance inside
    exact Space.lookup_record describes (List.mem_mergeSort.mp member) inside
  · intro gva canonical uncovered
    refine Space.lookup_uncovered describes canonical fun record member => ?_
    exact uncovered record (List.mem_mergeSort.mpr member)
  · intro gva target after done
    obtain ⟨record, member, covers⟩ := Space.covered_of_lookup describes done
    refine ⟨record, ⟨List.mem_mergeSort.mpr member, covers⟩, ?_⟩
    rintro other ⟨present, both⟩
    exact Space.covers_unique apart (List.mem_mergeSort.mp present) member both covers

/-- A table whose first entry leads to the table itself, and whose second entry does so at the root and is a
leaf on every other level. -/
def Page.selfReferring : Page :=
  .ofWords [(0, 0x1003), (1, 0x1083)]

def Space.selfReferring : Space where
  bound := (∅ : Std.TreeMap Address Page).insert 0x1000 .selfReferring

theorem Page.word_selfReferring {index : Nat} (inside : index < Address.entriesPerTable) :
    Page.selfReferring.word index = if index = 0 then 0x1003 else if index = 1 then 0x1083 else 0 := by
  have distinct : ([(0, 0x1003), (1, 0x1083)] : List (Nat × UInt64)).map Prod.fst = [0, 1] := rfl
  split
  next first => exact Page.word_ofWords_of_mem _ (by decide) inside (by simp [first])
  next more =>
    split
    next second => exact Page.word_ofWords_of_mem _ (by decide) inside (by simp [second])
    next other =>
      refine Page.word_ofWords_of_not_mem _ inside ?_
      rw [distinct]
      simp [more, other]

namespace Space

theorem page?_selfReferring : selfReferring.page? 0x1000 = some .selfReferring := by
  rw [page?, selfReferring]
  exact Std.TreeMap.getElem?_insert_self

theorem readable_selfReferring : selfReferring.Readable 0x1000 :=
  (readable_bound (by decide) page?_selfReferring).1

theorem entryAt_selfReferring {index : Nat} (inside : index < Address.entriesPerTable) :
    selfReferring.entryAt 0x1000 index = if index = 0 then 0x1003 else if index = 1 then 0x1083 else 0 := by
  rw [(readable_bound (by decide) page?_selfReferring).2 index inside, Page.word_selfReferring inside]

theorem records_selfReferring : ∃ found, bus.records 0x1000 selfReferring = .ok found selfReferring := by
  have closed : ∀ index < Address.entriesPerTable, (selfReferring.entryAt 0x1000 index).isPresent →
      (selfReferring.entryAt 0x1000 index).frame = 0x1000 := by
    intro index inside present
    rw [entryAt_selfReferring inside] at present ⊢
    by_cases first : index = 0
    · rw [if_pos first]
      decide
    · rw [if_neg first] at present ⊢
      by_cases second : index = 1
      · rw [if_pos second]
        decide
      · rw [if_neg second] at present
        cases present
  obtain ⟨found, enumerated⟩ :
      ∃ found, bus.enumerate 3 [root 0x1000] selfReferring = .ok found selfReferring := by
    apply exists_enumerate (· = 0x1000)
    · rintro _ rfl
      exact readable_selfReferring
    · rintro _ rfl index inside present
      exact closed index inside present
    · intro subtable member
      cases List.mem_singleton.mp member
      decide
  exact ⟨_, Access.bind_ok enumerated⟩

/-- Through the first entry the table is reached once more, where the second entry is a leaf. -/
theorem lookup_selfReferring :
    bus.lookup 0x1000 0x40000234 selfReferring = .ok ⟨0x234, .size1G⟩ selfReferring := by
  have first : selfReferring.entryAt 0x1000 (Address.index 3 0x40000234) = 0x1003 :=
    entryAt_selfReferring (by decide)
  have second : selfReferring.entryAt 0x1000 (Address.index 2 0x40000234) = 0x1083 :=
    entryAt_selfReferring (by decide)
  have again : bus.walk 0x40000234 3 0x1000 selfReferring = bus.walk 0x40000234 2 0x1000 selfReferring := by
    rw [walk_node readable_selfReferring (by rw [first]; decide) (by rw [first]; decide), first]
    rfl
  have leaf : bus.walk 0x40000234 2 0x1000 selfReferring =
      .ok ((0x1083 : Entry).target .size1G 0x40000234) selfReferring := by
    rw [← second]
    exact walk_leaf readable_selfReferring (by rw [second]; decide) (by rw [second]; decide)
  rw [lookup_canonical _ (by decide)]
  exact again.trans leaf

end Space

theorem records_agree_with_lookup_selfReferring :
    ∃ found, Space.bus.records 0x1000 Space.selfReferring = .ok found Space.selfReferring ∧
      ∃! record, record ∈ found ∧ record.Covers 0x40000234 := by
  obtain ⟨found, done⟩ := Space.records_selfReferring
  obtain ⟨-, -, -, -, covered⟩ := records_agree_with_lookup done
  exact ⟨found, done, covered 0x40000234 _ _ Space.lookup_selfReferring⟩

end GuestResume
