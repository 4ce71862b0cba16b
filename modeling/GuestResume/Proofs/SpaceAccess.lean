import GuestResume.Memory.Space
import GuestResume.Proofs.AccessRuns
import GuestResume.Proofs.PageAddresses
import GuestResume.Proofs.PageWords

/-! What the accesses of a space do, each said once in terms of the pages that are bound. A read
leaves the space as it is, and a write changes one page and binds none. -/

namespace GuestResume

namespace Space

theorem page?_pageStart (space : Space) (gpa : Address) : space.page? gpa.pageStart = space.page? gpa := by
  rw [page?, page?, Address.pageStart_pageStart]

theorem isBound_eq (space : Space) (gpa : Address) : space.isBound gpa = (space.page? gpa).isSome := by
  rw [isBound, page?, Std.TreeMap.contains_eq_isSome_getElem?]

theorem byte?_eq {space : Space} {gpa : Address} {page : Page} (held : space.page? gpa = some page) :
    space.byte? gpa = some (page.byte gpa.offset) := by
  rw [byte?, held, Option.map_some]

theorem isSome_byte? (space : Space) (gpa : Address) : (space.byte? gpa).isSome = space.isBound gpa := by
  rw [byte?, Option.isSome_map, isBound_eq]

theorem locate_eq (space : Space) (gpa : Address) :
    bus.locate gpa space = match space.page? gpa with
      | some page => .ok (page, gpa.offset) space
      | none => .error (.unbound gpa) space := by
  simp only [bus, query, locate]
  cases space.page? gpa <;> rfl

theorem read_eq (space : Space) (gpa : Address) (length : Nat) :
    bus.read gpa length space =
      if Address.pageSize - gpa.offset < length then .error (.crossesPage gpa length) space
      else match space.page? gpa with
        | some page => .ok (page.read gpa.offset length) space
        | none => .error (.unbound gpa) space := by
  by_cases crosses : Address.pageSize - gpa.offset < length
  · simp only [bus, query, read, inPage, if_pos crosses]
    rfl
  · simp only [bus, query, read, inPage, locate, if_neg crosses]
    cases space.page? gpa <;> rfl

theorem write_eq (space : Space) (gpa : Address) (data : List UInt8) :
    bus.write gpa data space =
      if Address.pageSize - gpa.offset < data.length then .error (.crossesPage gpa data.length) space
      else match space.page? gpa with
        | some page => .ok ()
            { space with bound := space.bound.insert gpa.pageStart (page.write gpa.offset data) }
        | none => .error (.unbound gpa) space := by
  by_cases crosses : Address.pageSize - gpa.offset < data.length
  · simp only [bus, write, inPage, if_pos crosses]
  · simp only [bus, write, inPage, locate, if_neg crosses]
    cases space.page? gpa <;> rfl

theorem exists_page {space : Space} {gpa : Address} (bound : space.isBound gpa) :
    ∃ page, space.page? gpa = some page := by
  rw [isBound_eq] at bound
  exact Option.isSome_iff_exists.mp bound

theorem page?_of_free {space : Space} {gpa : Address} (free : ¬space.isBound gpa) : space.page? gpa = none := by
  rwa [isBound_eq, Bool.not_eq_true, Option.isSome_eq_false_iff, Option.isNone_iff_eq_none] at free

theorem read_page {space : Space} {gpa : Address} {length : Nat} {page : Page} (held : space.page? gpa = some page)
    (fits : ¬Address.pageSize - gpa.offset < length) :
    bus.read gpa length space = .ok (page.read gpa.offset length) space := by
  rw [read_eq, if_neg fits, held]

theorem write_page {space : Space} {gpa : Address} {data : List UInt8} {page : Page}
    (held : space.page? gpa = some page) (fits : ¬Address.pageSize - gpa.offset < data.length) :
    bus.write gpa data space =
      .ok () { space with bound := space.bound.insert gpa.pageStart (page.write gpa.offset data) } := by
  rw [write_eq, if_neg fits, held]

/-- A write reaches the page of its address and no other. -/
theorem page?_write {space after : Space} {gpa : Address} {data : List UInt8}
    (written : bus.write gpa data space = .ok () after) (other : Address) :
    after.page? other =
      if gpa.pageStart = other.pageStart then (space.page? other).map (·.write gpa.offset data)
      else space.page? other := by
  rw [write_eq] at written
  split at written
  · cases written
  · cases held : space.page? gpa with
    | none => simp [held] at written
    | some page =>
      simp only [held] at written
      cases written
      rw [page?_bind]
      split
      next same => rw [← page?_pageStart, ← same, page?_pageStart, held, Option.map_some]
      next => rfl

theorem write_error {space after : Space} {gpa : Address} {data : List UInt8} {error : MemoryError}
    (refused : bus.write gpa data space = .error error after) : after = space := by
  rw [write_eq] at refused
  split at refused
  · cases refused; rfl
  · cases held : space.page? gpa <;> simp only [held] at refused <;> cases refused
    rfl

theorem isBound_write {space : Space} {other : Address} (gpa : Address) (data : List UInt8)
    (bound : space.isBound other) : (Access.after (bus.write gpa data) space).isBound other := by
  cases done : bus.write gpa data space with
  | error error later => rwa [Access.after_error done, write_error done]
  | ok _ later =>
    rw [isBound_eq] at bound
    rw [Access.after_ok done, isBound_eq, page?_write done]
    split
    · rwa [Option.isSome_map]
    · exact bound

theorem readEntry_bound {space : Space} {table : Address} {page : Page} (aligned : table.IsAligned)
    (held : space.page? table = some page) {index : Nat} (inside : index < Address.entriesPerTable) :
    bus.readEntry table index space = .ok (page.word index) space := by
  simp only [Address.entriesPerTable] at inside
  have within : 8 * index < Address.pageSize := by simp only [Address.pageSize]; omega
  have found : space.page? (table + UInt64.ofNat (8 * index)) = some page := by
    rw [← page?_pageStart, aligned.pageStart_add within]
    exact held
  have bytes : bus.read (table + UInt64.ofNat (8 * index)) 8 space = .ok (page.read (8 * index) 8) space := by
    rw [read_eq, aligned.offset_add within, found, if_neg]
    simp only [Address.pageSize]
    omega
  exact Access.bind_ok bytes

end Space

end GuestResume
