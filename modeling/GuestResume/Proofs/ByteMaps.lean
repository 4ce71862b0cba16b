import GuestResume.Proofs.BindingOutcome
import GuestResume.Proofs.BytewiseReads

/-! Physical memory seen from its bytes alone. An access stays inside one page and needs nothing but that this page
is bound. What a call does to the bytes at the addresses of bound pages can be told without the pages, and reads
depend on nothing else. -/

namespace GuestResume

/-- The byte that a write has for an address. What is written does not go round at the end of the addresses. -/
def dataAt (gpa : Address) (data : List UInt8) (other : Address) : Option UInt8 :=
  if gpa ≤ other then data[other.toNat - gpa.toNat]? else none

theorem Address.toNat_eq_add_offset (a : Address) : a.toNat = a.pageStart.toNat + a.offset := by
  rw [toNat_pageStart, offset, Nat.div_add_mod']

/-- Inside a page it does not matter whether addresses are compared or distances from the start of the page. -/
theorem dataAt_eq_pieceAt {gpa : Address} {data : List UInt8}
    (inside : gpa.offset + data.length ≤ Address.pageSize) (other : Address) :
    dataAt gpa data other = pieceAt gpa data other := by
  have first := gpa.toNat_eq_add_offset
  have second := other.toNat_eq_add_offset
  rw [dataAt, pieceAt]
  by_cases same : gpa.pageStart = other.pageStart
  · rw [same] at first
    have order : gpa ≤ other ↔ gpa.pageStart = other.pageStart ∧ gpa.offset ≤ other.offset := by
      rw [UInt64.le_iff_toNat_le, first, second, Nat.add_le_add_iff_left]
      exact (and_iff_right same).symm
    simp only [order, first, second, Nat.add_sub_add_left]
  · have apart : ¬(gpa.pageStart = other.pageStart ∧ gpa.offset ≤ other.offset) := fun both => same both.1
    rw [if_neg apart]
    split
    next above =>
      apply List.getElem?_eq_none
      -- The other address lies in a later page, and the data ends with its own.
      have pages : gpa.toNat / Address.pageSize < other.toNat / Address.pageSize := by
        refine Nat.lt_of_le_of_ne (Nat.div_le_div_right (UInt64.le_iff_toNat_le.mp above)) fun equal => same ?_
        apply UInt64.toNat_inj.mp
        rw [Address.toNat_pageStart, Address.toNat_pageStart, equal]
      simp only [Address.offset, Address.pageSize] at inside pages
      omega
    next => rfl

/-- The bytes of a range that starts at `other`, with those that were written taken from the data. -/
def overlay (gpa : Address) (data : List UInt8) (other : Address) (old : List UInt8) : List UInt8 :=
  old.mapIdx fun index byte => (dataAt gpa data (other + UInt64.ofNat index)).getD byte

theorem overlay_span (gpa : Address) (data : List UInt8) (other : Address) (length : Nat)
    (bytes : Address → UInt8) :
    overlay gpa data other ((Address.span other length).map bytes) =
      (Address.span other length).map fun place => (dataAt gpa data place).getD (bytes place) := by
  apply List.ext_getElem?
  intro index
  rw [overlay, List.getElem?_mapIdx, List.getElem?_map, List.getElem?_map, Address.getElem?_span]
  split <;> rfl

/-- The bytes of memory, at those addresses that have one. -/
abbrev ByteMap := Address → Option UInt8

namespace ByteMap

def store (gpa : Address) (data : List UInt8) (bytes : ByteMap) : ByteMap := fun other =>
  (bytes other).map fun old => (dataAt gpa data other).getD old

/-- Bytes stored if they fit into the page. -/
def overwrite (gpa : Address) (data : List UInt8) (bytes : ByteMap) : ByteMap :=
  if gpa.offset + data.length ≤ Address.pageSize then bytes.store gpa data else bytes

def bind (place : Address) (page : Page) (bytes : ByteMap) : ByteMap := fun other =>
  if place = other.pageStart then some (page.byte other.offset) else bytes other

def unbind (gpa : Address) (bytes : ByteMap) : ByteMap := fun other =>
  if gpa.pageStart = other.pageStart then none else bytes other

/-- A range of bytes, or why it cannot be read. That it leaves its page is said first. -/
def read (bytes : ByteMap) (gpa : Address) (length : Nat) : Except MemoryError (List UInt8) :=
  if Address.pageSize < gpa.offset + length then .error (.crossesPage gpa length)
  else if (bytes gpa).isSome then .ok ((Address.span gpa length).map fun place => (bytes place).getD 0)
  else .error (.unbound gpa)

end ByteMap

/-- Everything that can be done to physical memory by its own addresses. -/
inductive PhysicalCall where
  | read (gpa : Address) (length : Nat)
  | write (gpa : Address) (data : List UInt8)
  | readWord (gpa : Address)
  | writeWord (gpa : Address) (word : UInt64)
  | insert (gpa : Address) (page : Page)
  | remove (gpa : Address)

namespace PhysicalCall

def run : PhysicalCall → Access Space Unit
  | read gpa length => do let _ ← Space.bus.read gpa length
  | write gpa data => Space.bus.write gpa data
  | readWord gpa => do let _ ← Space.bus.readWord gpa
  | writeWord gpa word => Space.bus.writeWord gpa word
  | insert gpa page => do let _ ← Space.insert gpa page
  | remove gpa => do let _ ← Space.remove gpa

/-- What a call does to the bytes, told without a space. -/
def effect (policy : BindingPolicy) : PhysicalCall → ByteMap → ByteMap
  | read .., bytes | readWord _, bytes => bytes
  | write gpa data, bytes => bytes.overwrite gpa data
  | writeWord gpa word, bytes => bytes.overwrite gpa (Word.toBytes word)
  | insert gpa page, bytes =>
    if gpa.IsAligned ∧ ¬(policy = .reject ∧ (bytes gpa).isSome) then bytes.bind gpa page else bytes
  | remove gpa, bytes => bytes.unbind gpa

end PhysicalCall

namespace Space

variable {space later : Space} {gpa : Address}

/-- An access to a range is let through exactly if the page that it starts in is bound and also holds its end.
Otherwise nothing changes, and that the range leaves the page is said before that the page is missing. -/
structure Admits {α : Type} (space : Space) (gpa : Address) (length : Nat) (operation : Access Space α) : Prop where
  succeeds : Access.succeeds operation space ↔ space.isBound gpa ∧ gpa.offset + length ≤ Address.pageSize
  crosses : Address.pageSize < gpa.offset + length → operation space = .error (.crossesPage gpa length) space
  unbound : gpa.offset + length ≤ Address.pageSize → ¬space.isBound gpa →
    operation space = .error (.unbound gpa) space

theorem admits_of {α : Type} {length : Nat} {operation : Access Space α}
    (bound : space.isBound gpa → gpa.offset + length ≤ Address.pageSize →
      ∃ value later, operation space = .ok value later)
    (crosses : Address.pageSize < gpa.offset + length → operation space = .error (.crossesPage gpa length) space)
    (unbound : gpa.offset + length ≤ Address.pageSize → ¬space.isBound gpa →
      operation space = .error (.unbound gpa) space) :
    space.Admits gpa length operation := by
  refine ⟨⟨fun done => ?_, fun fits => Access.succeeds_iff.mpr (bound fits.1 fits.2)⟩, crosses, unbound⟩
  obtain ⟨value, later, same⟩ := Access.succeeds_iff.mp done
  by_cases inside : gpa.offset + length ≤ Address.pageSize
  · refine ⟨?_, inside⟩
    by_contra free
    rw [unbound inside free] at same
    cases same
  · rw [crosses (Nat.lt_of_not_le inside)] at same
    cases same

theorem Admits.map {α β : Type} {length : Nat} {operation : Access Space α}
    (admits : space.Admits gpa length operation) (told : α → β) :
    space.Admits gpa length (operation >>= fun value => pure (told value)) := by
  refine admits_of (fun bound inside => ?_) (fun crosses => Access.bind_error (admits.crosses crosses))
    fun inside free => Access.bind_error (admits.unbound inside free)
  obtain ⟨value, later, done⟩ := Access.succeeds_iff.mp (admits.succeeds.mpr ⟨bound, inside⟩)
  exact ⟨told value, later, Access.bind_ok done⟩

theorem crosses_iff (gpa : Address) (length : Nat) :
    Address.pageSize - gpa.offset < length ↔ Address.pageSize < gpa.offset + length := by
  have inside := gpa.offset_lt
  omega

theorem admits_read (space : Space) (gpa : Address) (length : Nat) :
    space.Admits gpa length (bus.read gpa length) := by
  refine admits_of (fun bound inside => ?_) (fun crosses => ?_) fun inside free => ?_
  · obtain ⟨page, held⟩ := exists_page bound
    exact ⟨_, space, read_page held (by omega)⟩
  · rw [read_eq, if_pos ((crosses_iff ..).mpr crosses)]
  · rw [read_eq, if_neg (by omega), page?_of_free free]

theorem admits_write (space : Space) (gpa : Address) (data : List UInt8) :
    space.Admits gpa data.length (bus.write gpa data) := by
  refine admits_of (fun bound inside => ?_) (fun crosses => ?_) fun inside free => ?_
  · obtain ⟨page, held⟩ := exists_page bound
    exact ⟨(), _, write_page held (by omega)⟩
  · rw [write_eq, if_pos ((crosses_iff ..).mpr crosses)]
  · rw [write_eq, if_neg (by omega), page?_of_free free]

theorem after_read (gpa : Address) (length : Nat) (space : Space) :
    Access.after (bus.read gpa length) space = space :=
  (Comparison.simulates_keeping.mp (keeping_query fun space => space.read gpa length) space rfl).symm

/-- What a read answers depends on nothing but the bytes. -/
theorem answer_read (space : Space) (gpa : Address) (length : Nat) :
    Access.answer (bus.read gpa length) space = ByteMap.read space.byte? gpa length := by
  have admits := space.admits_read gpa length
  rw [ByteMap.read, isSome_byte?]
  by_cases inside : gpa.offset + length ≤ Address.pageSize
  · rw [if_neg (Nat.not_lt.mpr inside)]
    by_cases bound : space.isBound gpa
    · obtain ⟨page, held⟩ := exists_page bound
      rw [if_pos bound, Access.answer, read_page held (by omega), read_span held inside]
      rfl
    · rw [if_neg bound, Access.answer, admits.unbound inside bound]
  · rw [if_pos (Nat.lt_of_not_le inside), Access.answer, admits.crosses (Nat.lt_of_not_le inside)]

theorem byte?_write {data : List UInt8} (written : bus.write gpa data space = .ok () later) :
    later.byte? = ByteMap.store gpa data space.byte? := by
  obtain ⟨-, inside⟩ := (space.admits_write gpa data).succeeds.mp (Access.succeeds_iff.mpr ⟨(), later, written⟩)
  funext other
  rw [stores_write inside written other, ByteMap.store]
  simp only [lookup_trail _ _ _ inside, dataAt_eq_pieceAt inside]

theorem isBound_of_page {other : Address} (same : gpa.pageStart = other.pageStart) (space : Space) :
    space.isBound gpa = space.isBound other := by
  rw [isBound, isBound, same]

theorem isSome_byte?_add {distance : Nat} (inside : gpa.offset + distance < Address.pageSize) (space : Space) :
    (space.byte? (gpa + UInt64.ofNat distance)).isSome = (space.byte? gpa).isSome := by
  rw [isSome_byte?, isSome_byte?, isBound_of_page (Address.pageStart_add inside)]

/-- A write that is not let through because no page is bound would have changed nothing. -/
theorem store_unbound {data : List UInt8} (free : ¬space.isBound gpa)
    (inside : gpa.offset + data.length ≤ Address.pageSize) :
    ByteMap.store gpa data space.byte? = space.byte? := by
  funext other
  rw [ByteMap.store, dataAt_eq_pieceAt inside, pieceAt]
  by_cases same : gpa.pageStart = other.pageStart
  · rw [isBound_of_page same, ← isSome_byte?, Option.not_isSome_iff_eq_none] at free
    rw [free, Option.map_none]
  · rw [if_neg fun both => same both.1]
    exact Option.map_id'

theorem byte?_after_write (gpa : Address) (data : List UInt8) (space : Space) :
    (Access.after (bus.write gpa data) space).byte? = ByteMap.overwrite gpa data space.byte? := by
  have admits := space.admits_write gpa data
  rw [ByteMap.overwrite]
  cases done : bus.write gpa data space with
  | ok _ later =>
    have inside := (admits.succeeds.mp (Access.succeeds_iff.mpr ⟨(), later, done⟩)).2
    rw [Access.after_ok done, if_pos inside, byte?_write done]
  | error error later =>
    rw [Access.after_error done, write_error done]
    split
    next inside =>
      refine (store_unbound (fun bound => ?_) inside).symm
      obtain ⟨_, _, other⟩ := Access.succeeds_iff.mp (admits.succeeds.mpr ⟨bound, inside⟩)
      rw [done] at other
      cases other
    next => rfl

theorem byte?_after_insert (gpa : Address) (page : Page) (space : Space) :
    (Access.after (insert gpa page) space).byte? =
      if gpa.IsAligned ∧ ¬(space.policy = .reject ∧ space.isBound gpa) then ByteMap.bind gpa page space.byte?
      else space.byte? := by
  by_cases aligned : gpa.IsAligned
  · have taken := contains_eq_isBound aligned space
    by_cases refused : space.policy = .reject ∧ space.isBound gpa
    · have failed : insert gpa page space = .error (.alreadyBound gpa) space.release := by
        rw [insert, if_neg (not_not_intro aligned), taken, if_pos refused]
      rw [if_neg fun fits => fits.2 refused, Access.after_error failed]
      rfl
    · have inserted : insert gpa page space =
          .ok space.bound[gpa]? { space with bound := space.bound.insert gpa page } := by
        rw [insert, if_neg (not_not_intro aligned), taken, if_neg refused]
      rw [if_pos ⟨aligned, refused⟩, Access.after_ok inserted]
      funext other
      rw [byte?, page?_bind, ByteMap.bind]
      split <;> rfl
  · have failed : insert gpa page space = .error (.unaligned gpa) space.release := by rw [insert, if_pos aligned]
    rw [if_neg fun fits => aligned fits.1, Access.after_error failed]
    rfl

theorem byte?_after_remove (gpa : Address) (space : Space) :
    (Access.after (remove gpa) space).byte? = ByteMap.unbind gpa space.byte? := by
  funext other
  rw [ByteMap.unbind]
  cases done : remove gpa space with
  | ok page later =>
    rw [Access.after_ok done, byte?, page?_remove done]
    split <;> rfl
  | error error later =>
    rw [Access.after_error done, remove_error done]
    split
    next same =>
      rw [← Option.not_isSome_iff_eq_none, isSome_byte?, ← isBound_of_page same]
      intro bound
      obtain ⟨page, held⟩ := exists_page bound
      simp [remove, held] at done
    next => rfl

theorem policy_write (gpa : Address) (data : List UInt8) (space : Space) :
    (Access.after (bus.write gpa data) space).policy = space.policy := by
  by_cases crosses : Address.pageSize - gpa.offset < data.length
  · rw [Access.after, write_eq, if_pos crosses]
  · rw [Access.after, write_eq, if_neg crosses]
    cases space.page? gpa <;> rfl

theorem policy_insert (gpa : Address) (page : Page) (space : Space) :
    (Access.after (insert gpa page) space).policy = space.policy := by
  cases done : insert gpa page space with
  | ok old later => rw [Access.after_ok done, (insert_ok done).2.2]
  | error error later =>
    rw [Access.after_error done, insert_error done]
    rfl

theorem policy_remove (gpa : Address) (space : Space) :
    (Access.after (remove gpa) space).policy = space.policy := by
  simp only [Access.after, remove]
  cases space.page? gpa <;> rfl

end Space

namespace PhysicalCall

theorem policy_after (call : PhysicalCall) (space : Space) :
    (Access.after call.run space).policy = space.policy := by
  cases call with
  | read gpa length => rw [run, Access.after_map, Space.after_read]
  | write gpa data => exact Space.policy_write gpa data space
  | readWord gpa => rw [run, Access.after_map, Bus.readWord, Access.after_map, Space.after_read]
  | writeWord gpa word => exact Space.policy_write gpa (Word.toBytes word) space
  | insert gpa page => rw [run, Access.after_map, Space.policy_insert]
  | remove gpa => rw [run, Access.after_map, Space.policy_remove]

/-- One call, seen from the bytes. -/
theorem byte?_after (call : PhysicalCall) (space : Space) :
    (Access.after call.run space).byte? = call.effect space.policy space.byte? := by
  cases call with
  | read gpa length => rw [run, Access.after_map, Space.after_read, effect]
  | write gpa data => exact Space.byte?_after_write gpa data space
  | readWord gpa => rw [run, Access.after_map, Bus.readWord, Access.after_map, Space.after_read, effect]
  | writeWord gpa word => exact Space.byte?_after_write gpa (Word.toBytes word) space
  | insert gpa page =>
    rw [run, Access.after_map, Space.byte?_after_insert, effect, Space.isSome_byte?]
  | remove gpa => rw [run, Access.after_map, Space.byte?_after_remove, effect]

theorem byte?_afterAll (calls : List PhysicalCall) (space : Space) :
    (Access.afterAll run calls space).byte? =
      calls.foldl (fun bytes call => call.effect space.policy bytes) space.byte? := by
  induction calls generalizing space with
  | nil => rfl
  | cons call rest ih =>
    rw [List.foldl_cons, ← byte?_after, ← policy_after call space]
    exact ih _

end PhysicalCall

end GuestResume
