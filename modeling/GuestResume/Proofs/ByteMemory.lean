import GuestResume.Proofs.ByteMaps
import Mathlib.Data.Nat.Digits.Lemmas

/-! Physical memory is a memory of bytes. A read tells the byte last written at each of its addresses, a word is its
eight bytes with the lowest first, and a page that is bound elsewhere takes its bytes with it. -/

namespace GuestResume

namespace Access

variable {ε σ α β : Type} {first : EStateM ε σ α} {before later : σ}

theorem error_of_map {told : α → β} {error : ε}
    (failed : (first >>= fun value => pure (told value)) before = .error error later) :
    first before = .error error later := by
  cases done : first before with
  | ok value middle =>
    rw [bind_ok done] at failed
    cases failed
  | error _ _ =>
    rw [bind_error done] at failed
    cases failed
    rfl

end Access

namespace Word

/-- The value of bytes, by Horner's rule, is that of digits to the base 256. -/
theorem toNat_ofBytes {bytes : List UInt8} (eight : bytes.length = 8) :
    (ofBytes bytes).toNat = Nat.ofDigits 256 (bytes.map UInt8.toNat) := by
  have bounded : Nat.ofDigits 256 (bytes.map UInt8.toNat) < 256 ^ (bytes.map UInt8.toNat).length := by
    apply Nat.ofDigits_lt_base_pow_length (by decide)
    intro digit member
    obtain ⟨byte, -, rfl⟩ := List.mem_map.mp member
    exact byte.toNat_lt
  rw [List.length_map, eight] at bounded
  rw [ofBytes, UInt64.toNat_ofNat', Nat.ofDigits_eq_foldr, List.foldr_map]
  rw [Nat.ofDigits_eq_foldr, List.foldr_map] at bounded
  exact Nat.mod_eq_of_lt bounded

end Word

/-- Eight bytes and the word that they are, the lowest byte first. -/
structure LittleEndian (bytes : List UInt8) (word : UInt64) : Prop where
  length : bytes.length = 8
  value : Nat.ofDigits 256 (bytes.map UInt8.toNat) = word.toNat

theorem littleEndian_ofBytes {bytes : List UInt8} (eight : bytes.length = 8) :
    LittleEndian bytes (Word.ofBytes bytes) :=
  ⟨eight, (Word.toNat_ofBytes eight).symm⟩

theorem littleEndian_toBytes (word : UInt64) : LittleEndian (Word.toBytes word) word := by
  have bytes := littleEndian_ofBytes (Word.length_toBytes word)
  rwa [Word.ofBytes_toBytes] at bytes

namespace Space

variable {space later : Space} {gpa : Address}

/-- After a write, a range reads as before but for what was written. -/
theorem answer_read_write {data : List UInt8} (written : bus.write gpa data space = .ok () later)
    (other : Address) (length : Nat) :
    Access.answer (bus.read other length) later =
      (Access.answer (bus.read other length) space).map (overlay gpa data other) := by
  have stored := byte?_write written
  rw [answer_read, answer_read, stored, ByteMap.read, ByteMap.read]
  have bound : (ByteMap.store gpa data space.byte? other).isSome = (space.byte? other).isSome := by
    rw [ByteMap.store, Option.isSome_map]
  rw [bound]
  by_cases crosses : Address.pageSize < other.offset + length
  · rw [if_pos crosses, if_pos crosses]
    rfl
  rw [if_neg crosses, if_neg crosses]
  by_cases held : (space.byte? other).isSome
  · rw [if_pos held, if_pos held, Except.map, overlay_span]
    congr 1
    apply List.map_congr_left
    intro place member
    -- All of the range lies in the page of its first byte.
    obtain ⟨index, within, rfl⟩ := Address.mem_span.mp member
    rw [← isSome_byte?_add (show other.offset + index < Address.pageSize by omega)] at held
    obtain ⟨old, there⟩ := Option.isSome_iff_exists.mp held
    rw [ByteMap.store, there, Option.map_some, Option.getD_some, Option.getD_some]
  · rw [if_neg held, if_neg held]
    rfl

theorem length_of_read {length : Nat} {data : List UInt8} (done : bus.read gpa length space = .ok data later) :
    data.length = length := by
  rw [read_eq] at done
  split at done
  · cases done
  · cases held : space.page? gpa <;> rw [held] at done <;> cases done
    exact Page.length_read ..

theorem readWord_eq (space : Space) (gpa : Address) :
    match bus.read gpa 8 space with
    | .ok data later => ∃ word, bus.readWord gpa space = .ok word later ∧ LittleEndian data word
    | .error error later => bus.readWord gpa space = .error error later := by
  cases done : bus.read gpa 8 space with
  | ok data later => exact ⟨Word.ofBytes data, Access.bind_ok done, littleEndian_ofBytes (length_of_read done)⟩
  | error error later => exact Access.bind_error done

theorem remove_ok {page : Page} (removed : remove gpa space = .ok page later) :
    space.page? gpa = some page := by
  simp only [remove] at removed
  cases held : space.page? gpa with
  | none => simp [held] at removed
  | some found =>
    simp only [held] at removed
    cases removed
    rfl

theorem remove_bound (bound : space.isBound gpa) : ∃ page later, remove gpa space = .ok page later := by
  obtain ⟨page, held⟩ := exists_page bound
  simp only [remove, held]
  exact ⟨page, _, rfl⟩

theorem insert_free {place : Address} (aligned : place.IsAligned) (free : ¬space.isBound place) (page : Page) :
    ∃ later, insert place page space = .ok none later := by
  have missing := page?_of_free free
  rw [isBound, aligned.pageStart] at free
  rw [page?, aligned.pageStart] at missing
  have fits : ¬(space.policy = .reject ∧ space.bound.contains place) := fun taken => free taken.2
  rw [insert, if_neg (not_not_intro aligned), if_neg fits, missing]
  exact ⟨_, rfl⟩

/-- The page of an address lies at another place now, and all other pages are where they were. -/
structure Moved (space : Space) (gpa place : Address) (moved : Space) : Prop where
  carried : ∀ distance length, distance < Address.pageSize → distance + length ≤ Address.pageSize →
    ∃ bytes, bus.read (gpa.pageStart + UInt64.ofNat distance) length space = .ok bytes space ∧
      bus.read (place + UInt64.ofNat distance) length moved = .ok bytes moved
  others : ∀ other : Address, other.pageStart ≠ place → other.pageStart ≠ gpa.pageStart →
    moved.page? other = space.page? other
  left : gpa.pageStart ≠ place → ¬moved.isBound gpa

theorem read_aligned {place : Address} {page : Page} {distance length : Nat} (aligned : place.IsAligned)
    (held : space.page? place = some page) (near : distance < Address.pageSize)
    (inside : distance + length ≤ Address.pageSize) :
    bus.read (place + UInt64.ofNat distance) length space = .ok (page.read distance length) space := by
  have offset := aligned.offset_add near
  have there : space.page? (place + UInt64.ofNat distance) = some page := by
    rw [← page?_pageStart, aligned.pageStart_add near, held]
  have fits : ¬Address.pageSize - (place + UInt64.ofNat distance).offset < length := by omega
  rw [read_page there fits, offset]

theorem moved_insert {middle : Space} {place : Address} {page : Page} {old : Option Page}
    (removed : remove gpa space = .ok page middle) (inserted : insert place page middle = .ok old later) :
    space.Moved gpa place later where
  carried := by
    intro distance length near inside
    have aligned := (insert_ok inserted).1
    have source : space.page? gpa.pageStart = some page := (page?_pageStart space gpa).trans (remove_ok removed)
    have target : later.page? place = some page := by
      rw [page?_insert inserted, if_pos aligned.pageStart.symm]
    exact ⟨page.read distance length, read_aligned gpa.isAligned_pageStart source near inside,
      read_aligned aligned target near inside⟩
  others := by
    intro other apart elsewhere
    rw [page?_insert inserted, if_neg (Ne.symm apart), page?_remove removed, if_neg (Ne.symm elsewhere)]
  left := by
    intro apart
    rw [isBound_eq, page?_insert inserted, if_neg (Ne.symm apart), page?_remove removed, if_pos rfl]
    exact Bool.false_ne_true

end Space

/-- A call that fails leaves every page where it is and as it is. -/
theorem PhysicalCall.bound_of_error {call : PhysicalCall} {space later : Space} {error : MemoryError}
    (failed : call.run space = .error error later) : later.bound = space.bound := by
  have unchanged {gpa : Address} {length : Nat} {error : MemoryError}
      (failed : Space.bus.read gpa length space = .error error later) : later = space :=
    (Access.after_error failed).symm.trans (Space.after_read gpa length space)
  cases call with
  | read gpa length => rw [unchanged (Access.error_of_map failed)]
  | write gpa data => rw [Space.write_error failed]
  | readWord gpa => rw [unchanged (Access.error_of_map (Access.error_of_map failed))]
  | writeWord gpa word => rw [Space.write_error failed]
  | insert gpa page =>
    rw [Space.insert_error (Access.error_of_map failed)]
    rfl
  | remove gpa => rw [Space.remove_error (Access.error_of_map failed)]

/-- What the bytes of physical memory obey. -/
structure Space.ByteMemory (space : Space) : Prop where
  reads : ∀ gpa length, space.Admits gpa length (bus.read gpa length)
  writes : ∀ gpa data, space.Admits gpa data.length (bus.write gpa data)
  wordReads : ∀ gpa, space.Admits gpa 8 (bus.readWord gpa)
  wordWrites : ∀ gpa word, space.Admits gpa 8 (bus.writeWord gpa word)
  readAfterWrite : ∀ gpa data later, bus.write gpa data space = .ok () later → ∀ other length,
    Access.answer (bus.read other length) later =
      (Access.answer (bus.read other length) space).map (overlay gpa data other)
  readWord : ∀ gpa,
    match bus.read gpa 8 space with
    | .ok bytes later => ∃ word, bus.readWord gpa space = .ok word later ∧ LittleEndian bytes word
    | .error error later => bus.readWord gpa space = .error error later
  writeWord : ∀ word, ∃ bytes, LittleEndian bytes word ∧
    ∀ gpa, bus.writeWord gpa word space = bus.write gpa bytes space
  failures : ∀ (call : PhysicalCall) error later, call.run space = .error error later →
    later.bound = space.bound
  moves : ∀ gpa, space.isBound gpa → ∃ page middle, remove gpa space = .ok page middle ∧
    ∀ place : Address, place.IsAligned → ¬middle.isBound place →
      ∃ moved, insert place page middle = .ok none moved ∧ space.Moved gpa place moved

theorem Space.byteMemory (space : Space) : space.ByteMemory where
  reads := space.admits_read
  writes := space.admits_write
  wordReads gpa := (space.admits_read gpa 8).map Word.ofBytes
  wordWrites gpa word := Word.length_toBytes word ▸ space.admits_write gpa (Word.toBytes word)
  readAfterWrite _ _ _ written := answer_read_write written
  readWord := space.readWord_eq
  writeWord word := ⟨Word.toBytes word, littleEndian_toBytes word, fun _ => rfl⟩
  failures _ _ _ := PhysicalCall.bound_of_error
  moves := by
    intro gpa bound
    obtain ⟨page, middle, removed⟩ := remove_bound bound
    refine ⟨page, middle, removed, fun place aligned free => ?_⟩
    obtain ⟨moved, inserted⟩ := insert_free aligned free page
    exact ⟨moved, inserted, moved_insert removed inserted⟩

/-- After any calls, failed ones included, physical memory is a memory of bytes, and what its reads answer is decided
by the bytes alone: by those before the calls and by what each of the calls does to bytes. -/
theorem physical_memory_laws (space : Space) (calls : List PhysicalCall) :
    let later := Access.afterAll PhysicalCall.run calls space
    later.ByteMemory ∧ ∀ gpa length,
      Access.answer (Space.bus.read gpa length) later =
        ByteMap.read (calls.foldl (fun bytes call => call.effect space.policy bytes) space.byte?) gpa length := by
  refine ⟨Space.byteMemory _, fun gpa length => ?_⟩
  rw [Space.answer_read, PhysicalCall.byte?_afterAll]

/-- A single page of zeros. -/
def Space.singlePage : Space :=
  { bound := (∅ : Std.TreeMap Address Page).insert 0x5000 .zero }

/-- Four bytes end with their page, and one more does not fit. Bound elsewhere, the page still has them. -/
theorem physical_memory_laws_endOfPage :
    let space := Access.after (Space.bus.write 0x5FFC [1, 2, 3, 4]) Space.singlePage
    Access.answer (Space.bus.read 0x5FFA 6) space = .ok [0, 0, 1, 2, 3, 4] ∧
      Space.bus.write 0x5FFC [1, 2, 3, 4, 5] space = .error (.crossesPage 0x5FFC 5) space ∧
      ∃ page middle moved, Space.remove 0x5ABC space = .ok page middle ∧
        Space.insert 0x9000 page middle = .ok none moved ∧
        Space.bus.read 0x9FFA 6 moved = .ok [0, 0, 1, 2, 3, 4] moved := by
  intro space
  obtain ⟨laws, answers⟩ := physical_memory_laws Space.singlePage [.write 0x5FFC [1, 2, 3, 4]]
  have told : Access.answer (Space.bus.read 0x5FFA 6) space = .ok [0, 0, 1, 2, 3, 4] :=
    (answers 0x5FFA 6).trans (by decide +kernel)
  refine ⟨told, (laws.writes 0x5FFC [1, 2, 3, 4, 5]).crosses (by decide), ?_⟩
  obtain ⟨page, middle, removed, place⟩ := laws.moves 0x5ABC (by decide +kernel)
  have free : ¬middle.isBound 0x9000 := by
    rw [Space.isBound_eq, Space.page?_remove removed]
    decide +kernel
  obtain ⟨moved, inserted, carries⟩ := place 0x9000 (by decide) free
  obtain ⟨bytes, source, target⟩ := carries.carried 0xFFA 6 (by decide) (by decide)
  have same : Except.ok bytes = Except.ok [0, 0, 1, 2, 3, 4] := (Access.answer_ok source).symm.trans told
  cases same
  exact ⟨page, middle, moved, removed, inserted, target⟩

end GuestResume
