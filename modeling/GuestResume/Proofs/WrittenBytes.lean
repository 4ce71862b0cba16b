import GuestResume.Proofs.AccessInvariants
import GuestResume.Proofs.TableInUse

/-! What a write through a bound table leaves behind, byte by byte. It gets as far as the first page that is
not mapped to bound memory. Of the bytes before that page, each physical address keeps the last one that was
meant for it, so a range is read back as it was written exactly if no two of its bytes fight over one place. -/

namespace GuestResume

theorem Address.next_add (gva : Address) (distance : Nat) :
    gva + 1 + UInt64.ofNat distance = gva + UInt64.ofNat (distance + 1) := by
  rw [UInt64.ofNat_add, UInt64.add_assoc, UInt64.add_comm (UInt64.ofNat distance)]
  rfl

section

variable (reach : Address → Except MemoryError Address)

/-- A byte on the trail has the address that its place in the range reaches. -/
theorem getElem?_trail (gva : Address) (data : List UInt8) {index : Nat}
    (inside : index < (trail reach gva data).length) :
    ∃ gpa byte, reach (gva + UInt64.ofNat index) = .ok gpa ∧ data[index]? = some byte ∧
      (trail reach gva data)[index]? = some (gpa, byte) := by
  induction data generalizing gva index with
  | nil => exact absurd inside (Nat.not_lt_zero _)
  | cons byte rest ih =>
    cases reached : reach gva with
    | error error =>
      simp only [trail, reached, List.length_nil] at inside
      exact absurd inside (Nat.not_lt_zero _)
    | ok gpa =>
      simp only [trail, reached, List.length_cons] at inside ⊢
      cases index with
      | zero =>
        refine ⟨gpa, byte, ?_, rfl, rfl⟩
        rw [← reached]
        exact congrArg reach (UInt64.add_zero gva)
      | succ index =>
        have further := ih (gva + 1) (Nat.lt_of_succ_lt_succ inside)
        rwa [Address.next_add] at further

/-- A trail goes on to the end of the range, or to the first address that is not reached. -/
theorem trail_ends (gva : Address) (data : List UInt8) :
    match (Address.span gva data.length).mapM reach with
    | .ok _ => (trail reach gva data).length = data.length
    | .error error => (trail reach gva data).length < data.length ∧
      reach (gva + UInt64.ofNat (trail reach gva data).length) = .error error := by
  induction data generalizing gva with
  | nil => rfl
  | cons byte rest ih =>
    rw [List.length_cons, Address.span_succ, List.mapM_cons]
    cases reached : reach gva with
    | error error =>
      simp only [trail, reached, List.length_nil]
      refine ⟨Nat.succ_pos _, ?_⟩
      rw [← reached]
      exact congrArg reach (UInt64.add_zero gva)
    | ok gpa =>
      have further := ih (gva + 1)
      simp only [trail, reached, List.length_cons]
      cases later : (Address.span (gva + 1) rest.length).mapM reach with
      | ok found =>
        simp only [later] at further
        exact congrArg Nat.succ further
      | error error =>
        simp only [later] at further
        rw [Address.next_add] at further
        exact ⟨Nat.succ_lt_succ further.1, further.2⟩

end

/-- The last entry for an address is found first from the end. -/
theorem lookup_reverse_last {log : List (Address × UInt8)} {index : Nat} {gpa : Address} {byte : UInt8}
    (entry : log[index]? = some (gpa, byte))
    (last : ∀ later, index < later → ∀ other, log[later]? ≠ some (gpa, other)) :
    log.reverse.lookup gpa = some byte := by
  obtain ⟨inside, same⟩ := List.getElem?_eq_some_iff.mp entry
  have parts : log = log.take index ++ (gpa, byte) :: log.drop (index + 1) := by
    rw [← same, ← List.drop_eq_getElem_cons inside, List.take_append_drop]
  have absent : (log.drop (index + 1)).reverse.lookup gpa = none := by
    apply List.lookup_eq_none_iff.mpr
    rintro ⟨other, found⟩ member
    obtain ⟨distance, position⟩ := List.mem_iff_getElem?.mp (List.mem_reverse.mp member)
    rw [List.getElem?_drop] at position
    rw [bne_iff_ne]
    rintro rfl
    exact last _ (by omega) found position
  rw [parts, List.reverse_append, List.reverse_cons, List.append_assoc, List.lookup_append, absent]
  simp

/-- What is found for an address is one of its entries. -/
theorem mem_of_lookup_reverse {log : List (Address × UInt8)} {gpa : Address} {byte : UInt8}
    (found : log.reverse.lookup gpa = some byte) : (gpa, byte) ∈ log := by
  obtain ⟨before, after, parts, -⟩ := List.lookup_eq_some_iff.mp found
  rw [← List.mem_reverse, parts]
  exact List.mem_append_right _ List.mem_cons_self

namespace Space

/-- Which pages are bound, and the books on pages given out and taken back, are the same. -/
structure SameBooks (before later : Space) : Prop where
  bindings : ∀ page, later.bound.contains page = before.bound.contains page
  policy : later.policy = before.policy
  allocated : later.allocated = before.allocated
  released : later.released = before.released
  overdrawn : later.overdrawn = before.overdrawn

/-- A write that got as far as byte number `count` of its range. -/
structure WrittenTo (translate : Address → Except MemoryError Address) (gva : Address) (data : List UInt8)
    (count : Nat) (before later : Space) : Prop where
  within : count ≤ data.length
  reached : ∀ index < count, ∃ gpa, translate (gva + UInt64.ofNat index) = .ok gpa ∧ before.isBound gpa
  pageStart : count = 0 ∨ count = data.length ∨ (gva + UInt64.ofNat count).IsAligned
  last : ∀ index < count, ∀ gpa, translate (gva + UInt64.ofNat index) = .ok gpa →
    (∀ other < count, index < other → translate (gva + UInt64.ofNat other) ≠ .ok gpa) →
    later.byte? gpa = data[index]?
  others : ∀ gpa, (∀ index < count, translate (gva + UInt64.ofNat index) ≠ .ok gpa) →
    later.byte? gpa = before.byte? gpa

variable {translate : Address → Except MemoryError Address} {space before later : Space} {gva gpa : Address}
  {data : List UInt8}

theorem sameBooks_write (gpa : Address) (data : List UInt8) (kept : before.SameBooks space) :
    before.SameBooks (Access.after (bus.write gpa data) space) := by
  cases done : bus.write gpa data space with
  | error error other => rwa [Access.after_error done, write_error done]
  | ok _ other =>
    rw [Access.after_ok done]
    rw [write_eq] at done
    split at done
    · cases done
    · cases held : space.page? gpa with
      | none => simp [held] at done
      | some page =>
        simp only [held] at done
        cases done
        refine ⟨fun key => ?_, kept.policy, kept.allocated, kept.released, kept.overdrawn⟩
        rw [← kept.bindings key, Std.TreeMap.contains_insert]
        by_cases same : gpa.pageStart = key
        · have bound : space.bound.contains key = true := by
            rw [← same, Std.TreeMap.contains_eq_isSome_getElem?]
            exact Option.isSome_iff_exists.mpr ⟨page, held⟩
          simp [bound]
        · simp [same]

theorem sameBooks_writeVirtual (root gva : Address) (data : List UInt8) (space : Space) :
    space.SameBooks (Access.after (bus.writeVirtual root gva data) space) := by
  have writes : ∀ gpa data other, space.SameBooks other → space.SameBooks (Access.after (bus.write gpa data) other) :=
    fun gpa data _ kept => sameBooks_write gpa data kept
  have buses := keeping_bus writes
  exact Comparison.simulates_keeping.mp (buses.writeVirtual root gva data) space
    ⟨fun _ => rfl, rfl, rfl, rfl, rfl⟩

/-- A reached byte that is not the last of its page is followed by another one. -/
theorem reach_next (steady : Steady translate) (reached : space.reach translate gva = .ok gpa)
    (inside : gva.offset + 1 < Address.pageSize) : space.reach translate (gva + 1) = .ok (gpa + 1) := by
  obtain ⟨mapped, bound⟩ := reach_ok.mp reached
  obtain ⟨page, held⟩ := exists_page bound
  exact reach_bound (steady.next mapped inside) (page?_next held (steady.offset mapped ▸ inside))

/-- So a trail can only end at the start of a page. -/
theorem isAligned_trail (steady : Steady translate) (gva : Address) (data : List UInt8) :
    (trail (space.reach translate) gva data).length = 0 ∨
      (trail (space.reach translate) gva data).length = data.length ∨
      (gva + UInt64.ofNat (trail (space.reach translate) gva data).length).IsAligned := by
  have ends := trail_ends (space.reach translate) gva data
  split at ends
  · exact .inr (.inl ends)
  next error _ =>
    generalize counted : (trail (space.reach translate) gva data).length = count at ends ⊢
    obtain _ | before := count
    · exact .inl rfl
    · right; right
      obtain ⟨gpa, byte, reached, -⟩ := getElem?_trail _ gva data (by rw [counted]; exact Nat.lt_succ_self before)
      have step : gva + UInt64.ofNat before + 1 = gva + UInt64.ofNat (before + 1) := by
        rw [UInt64.ofNat_add, ← UInt64.add_assoc]
        rfl
      by_cases inside : (gva + UInt64.ofNat before).offset + 1 < Address.pageSize
      · have further := reach_next steady reached inside
        rw [step, ends.2] at further
        cases further
      · have offset := Address.offset_lt (gva + UInt64.ofNat before)
        rw [← step, Address.isAligned_iff, UInt64.toNat_add]
        simp only [Address.offset, Address.pageSize] at inside offset ⊢
        simp only [UInt64.reduceToNat]
        omega

/-- A byte of the range that was reached is on the trail with its physical address. -/
theorem trail_reached (space : Space) {index : Nat} (inside : index < (trail (space.reach translate) gva data).length)
    (mapped : translate (gva + UInt64.ofNat index) = .ok gpa) :
    ∃ byte, data[index]? = some byte ∧ (trail (space.reach translate) gva data)[index]? = some (gpa, byte) := by
  obtain ⟨place, byte, reached, given, entry⟩ := getElem?_trail _ gva data inside
  have same := (reach_ok.mp reached).1
  rw [mapped] at same
  cases same
  exact ⟨byte, given, entry⟩

/-- What stands on the trail was meant for its address. -/
theorem translate_trail {index : Nat} {byte : UInt8}
    (entry : (trail (space.reach translate) gva data)[index]? = some (gpa, byte)) :
    translate (gva + UInt64.ofNat index) = .ok gpa ∧ data[index]? = some byte := by
  obtain ⟨inside, -⟩ := List.getElem?_eq_some_iff.mp entry
  obtain ⟨place, found, reached, given, same⟩ := getElem?_trail _ gva data inside
  rw [entry] at same
  cases same
  exact ⟨(reach_ok.mp reached).1, given⟩

theorem writtenTo_trail (steady : Steady translate)
    (stores : Stores (trail (before.reach translate) gva data) before later) :
    before.WrittenTo translate gva data (trail (before.reach translate) gva data).length later where
  within := by
    have ends := trail_ends (before.reach translate) gva data
    split at ends
    · exact Nat.le_of_eq ends
    · exact Nat.le_of_lt ends.1
  reached := by
    intro index inside
    obtain ⟨gpa, byte, reached, -⟩ := getElem?_trail _ gva data inside
    exact ⟨gpa, reach_ok.mp reached⟩
  pageStart := isAligned_trail steady gva data
  last := by
    intro index inside gpa mapped final
    obtain ⟨place, byte, reached, given, entry⟩ := getElem?_trail _ gva data inside
    obtain ⟨same, bound⟩ := reach_ok.mp reached
    rw [mapped] at same
    cases same
    have found : (trail (before.reach translate) gva data).reverse.lookup gpa = some byte := by
      apply lookup_reverse_last entry
      intro other after found there
      have further := (List.getElem?_eq_some_iff.mp there).1
      exact final other further after (translate_trail there).1
    rw [← isSome_byte?] at bound
    obtain ⟨old, held⟩ := Option.isSome_iff_exists.mp bound
    rw [stores gpa, held, found, given, Option.map_some, Option.getD_some]
  others := by
    intro gpa apart
    have absent : (trail (before.reach translate) gva data).reverse.lookup gpa = none := by
      cases found : (trail (before.reach translate) gva data).reverse.lookup gpa with
      | none => rfl
      | some byte =>
        obtain ⟨index, entry⟩ := List.mem_iff_getElem?.mp (mem_of_lookup_reverse found)
        exact absurd (translate_trail entry).1 (apart index (List.getElem?_eq_some_iff.mp entry).1)
    rw [stores gpa, absent]
    exact Option.map_id'

/-- What is read back for a byte of the range is a byte of the range that was meant for the same place. -/
theorem byteAt_trail (stores : Stores (trail (before.reach translate) gva data) before later)
    (whole : (trail (before.reach translate) gva data).length = data.length) {index : Nat}
    (inside : index < data.length) (reached : before.reach translate (gva + UInt64.ofNat index) = .ok gpa) :
    ∃ other < data.length, translate (gva + UInt64.ofNat other) = .ok gpa ∧
      data[other]? = some (later.byteAt gpa) := by
  obtain ⟨mapped, bound⟩ := reach_ok.mp reached
  obtain ⟨own, given, entry⟩ := trail_reached before (by rw [whole]; exact inside) mapped
  rw [stores.byteAt bound]
  cases last : (trail (before.reach translate) gva data).reverse.lookup gpa with
  | none =>
    have absent := List.lookup_eq_none_iff.mp last _ (List.mem_reverse.mpr (List.mem_of_getElem? entry))
    simp at absent
  | some final =>
    obtain ⟨other, position⟩ := List.mem_iff_getElem?.mp (mem_of_lookup_reverse last)
    obtain ⟨also, wins⟩ := translate_trail position
    exact ⟨other, (List.getElem?_eq_some_iff.mp wins).1, also, wins⟩

/-- A range that was written whole is read back exactly if no two of its bytes fight over one place. -/
theorem readBack_iff {cr3 : Address} (steady : Steady translate)
    (walks : ∀ gva, bus.physical cr3 gva later = Access.ofExcept (translate gva) later)
    (stores : Stores (trail (before.reach translate) gva data) before later) {found : List Address}
    (reached : (Address.span gva data.length).mapM (before.reach translate) = .ok found) :
    bus.readVirtual cr3 gva data.length later = .ok data later ↔
      ∀ first < data.length, ∀ second < data.length, ∀ gpa,
        translate (gva + UInt64.ofNat first) = .ok gpa → translate (gva + UInt64.ofNat second) = .ok gpa →
        data[first]? = data[second]? := by
  have whole := trail_ends (before.reach translate) gva data
  rw [reached] at whole
  have short := Nat.not_lt_of_le (reached_length steady reached)
  have read := readVirtual_eq steady walks gva data.length
  rw [rangeOf, if_neg short, stores.reach, reached] at read
  obtain ⟨size, each⟩ := Address.mapM_span reached
  have same : bus.readVirtual cr3 gva data.length later = .ok data later ↔ found.map later.byteAt = data := by
    rw [read]
    simp [bytesOf, Except.map, Access.ofExcept]
  rw [same]
  constructor
  · intro back
    have byte : ∀ index < data.length, ∀ gpa, translate (gva + UInt64.ofNat index) = .ok gpa →
        data[index]? = some (later.byteAt gpa) := by
      intro index inside gpa mapped
      obtain ⟨place, answer, there⟩ := each index inside
      have lands := (reach_ok.mp answer).1
      rw [mapped] at lands
      cases lands
      have entry := congrArg (fun list => list[index]?) back
      simp only [List.getElem?_map, there, Option.map_some] at entry
      exact entry.symm
    intro first inside second within gpa mapped also
    rw [byte first inside gpa mapped, byte second within gpa also]
  · intro agree
    apply List.ext_getElem?
    intro index
    by_cases inside : index < data.length
    · obtain ⟨gpa, answer, there⟩ := each index inside
      obtain ⟨other, within, also, wins⟩ := byteAt_trail stores whole inside answer
      rw [List.getElem?_map, there, Option.map_some, ← wins]
      exact agree other within index inside gpa also (reach_ok.mp answer).1
    · rw [List.getElem?_eq_none (by rw [List.length_map, size]; omega), List.getElem?_eq_none (by omega)]

end Space

namespace Settled

variable {root : Address} {translate : Address → Except MemoryError Address} {kept : Space → Prop}
  {space : Space}

/-- A write succeeds if every byte of its range is mapped to bound memory, and only then. -/
theorem succeeds_writeVirtual (settled : Settled root translate kept) (start : kept space) (gva : Address)
    (data : List UInt8) :
    Access.succeeds (Space.bus.writeVirtual root gva data) space ↔ ∀ index < data.length, ∃ gpa,
      translate (gva + UInt64.ofNat index) = .ok gpa ∧ space.isBound gpa := by
  obtain ⟨later, written, -⟩ := settled.writeVirtual_eq start gva data
  have outcome : Access.succeeds (Space.bus.writeVirtual root gva data) space ↔
      ∃ found, (Address.span gva data.length).mapM (space.reach translate) = .ok found := by
    rw [Access.succeeds, written]
    cases (Address.span gva data.length).mapM (space.reach translate) <;> simp [Settled.outcome]
  rw [outcome, exists_mapM_eq_ok]
  constructor
  · intro each index inside
    obtain ⟨gpa, reached⟩ := each _ (Address.mem_span.mpr ⟨index, inside, rfl⟩)
    exact ⟨gpa, Space.reach_ok.mp reached⟩
  · intro each other member
    obtain ⟨index, inside, rfl⟩ := Address.mem_span.mp member
    obtain ⟨gpa, mapped⟩ := each index inside
    exact ⟨gpa, Space.reach_ok.mpr mapped⟩

/-- A write stops where it first fails to reach memory, with that failure, or comes to the end of its range. -/
theorem writtenTo_writeVirtual (settled : Settled root translate kept) (start : kept space) (gva : Address)
    (data : List UInt8) :
    ∃ count later, space.WrittenTo translate gva data count later ∧ space.SameBooks later ∧ kept later ∧
      (count < data.length → ∃ error, space.reach translate (gva + UInt64.ofNat count) = .error error ∧
        Space.bus.writeVirtual root gva data space = .error error later) ∧
      (count = data.length → Space.bus.writeVirtual root gva data space = .ok () later ∧
        (Space.bus.readVirtual root gva data.length later = .ok data later ↔
          ∀ first < data.length, ∀ second < data.length, ∀ gpa,
            translate (gva + UInt64.ofNat first) = .ok gpa → translate (gva + UInt64.ofNat second) = .ok gpa →
            data[first]? = data[second]?)) := by
  obtain ⟨later, written, stores, keeps⟩ := settled.writeVirtual_eq start gva data
  have ends := trail_ends (space.reach translate) gva data
  have books := Space.sameBooks_writeVirtual root gva data space
  refine ⟨_, later, Space.writtenTo_trail settled.steady stores, ?_, keeps, ?_⟩
  · rw [Access.after, written] at books
    cases reached : (Address.span gva data.length).mapM (space.reach translate) <;>
      simpa only [reached, outcome] using books
  · cases reached : (Address.span gva data.length).mapM (space.reach translate) with
    | error error =>
      rw [reached] at ends written
      exact ⟨fun _ => ⟨error, ends.2, written⟩, fun whole => absurd whole (Nat.ne_of_lt ends.1)⟩
    | ok found =>
      rw [reached] at ends written
      have back := Space.readBack_iff settled.steady (settled.walks keeps) stores reached
      exact ⟨fun short => absurd ends (Nat.ne_of_lt short), fun _ => ⟨written, back⟩⟩

end Settled

namespace Layout

variable {layout : Layout} {gva : Address} {length : Nat}

/-- No two pages of the range are mapped to one frame. -/
def Separates (layout : Layout) (gva : Address) (length : Nat) : Prop :=
  ∀ first < length, ∀ second < length, ∀ place other,
    layout.physical (gva + UInt64.ofNat first) = .ok place →
    layout.physical (gva + UInt64.ofNat second) = .ok other → place.pageStart = other.pageStart →
    (gva + UInt64.ofNat first).pageStart = (gva + UInt64.ofNat second).pageStart

/-- A range that is mapped throughout does not go round: on its way it would leave the canonical addresses. -/
theorem mapped_length (mapped : ∀ index < length, ∃ gpa, layout.physical (gva + UInt64.ofNat index) = .ok gpa) :
    length ≤ UInt64.size := by
  have canonical : ∀ other ∈ Address.span gva length, other.IsCanonical := by
    intro other member
    obtain ⟨index, inside, rfl⟩ := Address.mem_span.mp member
    obtain ⟨gpa, found⟩ := mapped index inside
    exact (physical_ok found).1
  exact Nat.le_trans (Address.length_le_bufferLimit canonical) (by decide)

/-- Over separate frames, no place is meant for two bytes of a range. -/
theorem Separates.index_eq (separates : layout.Separates gva length) (valid : layout.Valid)
    (short : length ≤ UInt64.size) {first second : Nat} (inside : first < length) (within : second < length)
    {gpa : Address} (mapped : layout.physical (gva + UInt64.ofNat first) = .ok gpa)
    (also : layout.physical (gva + UInt64.ofNat second) = .ok gpa) : first = second := by
  have steady := steady_physical valid
  have page := separates first inside second within gpa gpa mapped also rfl
  have same := Address.ext_page page ((steady.offset mapped).symm.trans (steady.offset also))
  have numbers := congrArg UInt64.toNat (UInt64.add_right_inj gva |>.mp same)
  rwa [UInt64.toNat_ofNat_of_lt' (Nat.lt_of_lt_of_le inside short),
    UInt64.toNat_ofNat_of_lt' (Nat.lt_of_lt_of_le within short)] at numbers

end Layout

/-- A write through a bound table whose layout came about by any insertions, in memory with any frames bound. It
succeeds if every page of the range is canonical and mapped to a bound frame, and only then. It gets as far as the
first page that is not, whose failure it reports. Every physical byte then holds the last byte before that page that
was meant for it, or else what it held before; the pages of the table, the set of bound pages and the books stay.
What was written whole is read back exactly where bytes with one physical address agree, so always where the pages
of the range have frames of their own. -/
theorem written_through_table (insertions : List Insertion) {base root : Address} {image : TableImage}
    {frozen : Layout} {allocator allocated before after : Space}
    (committed : allocator.commit (Layout.ofInsertions insertions) base = .ok (image, frozen, allocated))
    (bound : Space.bindImage image before = .ok root after) (changes : List Change)
    (apart : ∀ change ∈ changes, ∀ place ∈ change.place?, place ∉ image.pages.map TablePage.address)
    (gva : Address) (data : List UInt8) :
    let layout := Layout.ofInsertions insertions
    let space := after.changed root changes
    let write := Space.bus.writeVirtual root gva data
    (Access.succeeds write space ↔ ∀ index < data.length, ∃ gpa,
      layout.physical (gva + UInt64.ofNat index) = .ok gpa ∧ space.isBound gpa) ∧
    ∃ count later, space.WrittenTo layout.physical gva data count later ∧ space.SameBooks later ∧
      (∀ table ∈ image.pages, later.page? table.address = some table.page) ∧
      (count < data.length → ∃ error,
        space.reach layout.physical (gva + UInt64.ofNat count) = .error error ∧ write space = .error error later) ∧
      (count = data.length → write space = .ok () later ∧
        (Space.bus.readVirtual root gva data.length later = .ok data later ↔
          ∀ first < data.length, ∀ second < data.length, ∀ gpa,
            layout.physical (gva + UInt64.ofNat first) = .ok gpa →
            layout.physical (gva + UInt64.ofNat second) = .ok gpa → data[first]? = data[second]?) ∧
        (layout.Separates gva data.length →
          Space.bus.readVirtual root gva data.length later = .ok data later)) := by
  obtain ⟨places, rfl, rfl, held, -⟩ := Space.bound_image committed bound
  intro layout space write
  have valid : layout.Valid := Layout.valid_ofInsertions insertions
  have settled := Layout.settled valid places
  have kept : space.Holds (layout.tree.image root) := Layout.held_changed valid places changes apart held
  refine ⟨settled.succeeds_writeVirtual kept gva data, ?_⟩
  obtain ⟨count, later, stopped, books, tables, failed, finished⟩ :=
    settled.writtenTo_writeVirtual kept gva data
  refine ⟨count, later, stopped, books, tables, failed, fun whole => ?_⟩
  obtain ⟨written, back⟩ := finished whole
  refine ⟨written, back, fun separates => back.mpr ?_⟩
  have mapped : ∀ index < data.length, ∃ gpa, layout.physical (gva + UInt64.ofNat index) = .ok gpa := by
    intro index inside
    obtain ⟨gpa, found, -⟩ := stopped.reached index (whole ▸ inside)
    exact ⟨gpa, found⟩
  intro first inside second within gpa found also
  rw [separates.index_eq valid (Layout.mapped_length mapped) inside within found also]

/-- Two neighbouring pages on frames that are no neighbours. -/
def Insertion.neighbours : List Insertion :=
  [.plain 0x400000 0x5000 .data, .plain 0x401000 0x9000 .data]

/-- Memory with the table of these pages, and the first of the two frames bound. -/
def Space.firstFrame : Space :=
  (Access.after (bindImage ⟨0x100000, (Layout.ofInsertions Insertion.neighbours).tree.image 0x100000⟩) {}).changed
    0x100000 [.insert 0x5000 .zero]

/-- A write across both pages gets as far as the frame that is missing. -/
theorem written_through_table_neighbours :
    ∃ later, Space.bus.writeVirtual 0x100000 0x400FFE [1, 2, 3, 4] Space.firstFrame = .error (.unbound 0x9000) later ∧
      later.byte? 0x5FFF = some 2 ∧ later.byte? 0x5FFD = some 0 := by
  obtain ⟨root, after, bound⟩ := Access.succeeds_iff.mp (show Access.succeeds (Space.bindImage
    ⟨0x100000, (Layout.ofInsertions Insertion.neighbours).tree.image 0x100000⟩) {} by decide +kernel)
  obtain ⟨rfl, -⟩ := Space.bindImage_ok bound
  have apart : ∀ change ∈ [Change.insert 0x5000 .zero], ∀ place ∈ change.place?,
      place ∉ ((Layout.ofInsertions Insertion.neighbours).tree.image 0x100000).map TablePage.address := by
    intro change member place named
    cases List.mem_singleton.mp member
    cases named
    decide +kernel
  have committed : ({} : Space).commit (Layout.ofInsertions Insertion.neighbours) 0x100000 = .ok (_, _, _) := rfl
  obtain ⟨-, count, later, stopped, -, -, failed, -⟩ := written_through_table Insertion.neighbours committed bound
    [.insert 0x5000 .zero] apart 0x400FFE [1, 2, 3, 4]
  rw [← Access.after_ok bound] at stopped failed
  have reached : ∀ index < 2, Space.firstFrame.reach (Layout.ofInsertions Insertion.neighbours).physical
      (0x400FFE + UInt64.ofNat index) = .ok (0x5FFE + UInt64.ofNat index) := by decide +kernel
  have missing : Space.firstFrame.reach (Layout.ofInsertions Insertion.neighbours).physical
      (0x400FFE + UInt64.ofNat 2) = .error (.unbound 0x9000) := by decide +kernel
  have notEarlier : ¬count < 2 := by
    intro early
    obtain ⟨error, unreached, -⟩ := failed (Nat.lt_trans early (by decide))
    cases (reached count early).symm.trans unreached
  have notLater : ¬2 < count := by
    intro late
    obtain ⟨gpa, found⟩ := stopped.reached 2 late
    cases missing.symm.trans (Space.reach_ok.mpr found)
  obtain rfl : count = 2 := by omega
  obtain ⟨error, unreached, written⟩ := failed (by decide)
  cases missing.symm.trans unreached
  refine ⟨later, written, ?_, ?_⟩
  · exact stopped.last 1 (by decide) 0x5FFF (Space.reach_ok.mp (reached 1 (by decide))).1 fun other _ _ => by omega
  · rw [stopped.others 0x5FFD]
    · decide +kernel
    · decide +kernel

end GuestResume
