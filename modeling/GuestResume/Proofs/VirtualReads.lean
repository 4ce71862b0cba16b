import GuestResume.Memory.Walk
import GuestResume.Proofs.SpaceAccess

/-! Reading a range of virtual memory is reading its bytes one after another. The range is cut into
pieces at page boundaries, and inside a piece the physical addresses run in step with the virtual
ones. The translation is left open here: any will do that keeps step within a page. A range for which
there is no buffer would leave the canonical addresses on its way, so that it could not be read anyhow. -/

namespace GuestResume

theorem mapM_eq_ok {α β ε : Type} {ask : α → Except ε β} {questions : List α} {answers : List β} :
    questions.mapM ask = .ok answers ↔ questions.map ask = answers.map .ok := by
  induction questions generalizing answers with
  | nil => cases answers <;> simp [pure, Except.pure]
  | cons question rest ih =>
    rw [List.mapM_cons, List.map_cons]
    cases first : ask question with
    | error error => cases answers <;> simp [bind, Except.bind]
    | ok answer =>
      cases answers with
      | nil => cases later : rest.mapM ask <;> simp [bind, Except.bind, pure, Except.pure]
      | cons head others =>
        rw [List.map_cons, List.cons.injEq, Except.ok.injEq, ← ih]
        cases later : rest.mapM ask <;> simp [bind, Except.bind, pure, Except.pure]

theorem exists_mapM_eq_ok {α β ε : Type} {ask : α → Except ε β} {questions : List α} :
    (∃ answers, questions.mapM ask = .ok answers) ↔
      ∀ question ∈ questions, ∃ answer, ask question = .ok answer := by
  constructor
  · intro ⟨answers, found⟩ question member
    have listed := List.mem_map_of_mem (f := ask) member
    rw [mapM_eq_ok.mp found] at listed
    obtain ⟨answer, -, same⟩ := List.mem_map.mp listed
    exact ⟨answer, same.symm⟩
  · intro each
    induction questions with
    | nil => exact ⟨[], rfl⟩
    | cons question rest ih =>
      obtain ⟨answer, first⟩ := each question List.mem_cons_self
      obtain ⟨others, later⟩ := ih fun other member => each other (List.mem_cons_of_mem _ member)
      refine ⟨answer :: others, mapM_eq_ok.mpr ?_⟩
      rw [List.map_cons, first, mapM_eq_ok.mp later, List.map_cons]

theorem exists_of_mapM_error {α β ε : Type} {ask : α → Except ε β} {questions : List α} {error : ε}
    (failed : questions.mapM ask = .error error) : ∃ question ∈ questions, ask question = .error error := by
  induction questions with
  | nil => cases failed
  | cons question rest ih =>
    rw [List.mapM_cons] at failed
    cases first : ask question with
    | error other =>
      rw [first] at failed
      cases failed
      exact ⟨question, List.mem_cons_self, first⟩
    | ok answer =>
      rw [first] at failed
      cases later : rest.mapM ask with
      | error other =>
        rw [later] at failed
        cases failed
        obtain ⟨found, member, same⟩ := ih later
        exact ⟨found, List.mem_cons_of_mem _ member, same⟩
      | ok answers =>
        rw [later] at failed
        cases failed

theorem checked_eq_ok {α ε : Type} {answer : Except ε α} {check : α → Bool} {refusal : α → ε} {value : α} :
    (answer >>= fun found => if check found then pure found else throw (refusal found)) = .ok value ↔
      answer = .ok value ∧ check value := by
  cases answer with
  | error error => simp [bind, Except.bind]
  | ok found =>
    by_cases passed : check found
    · simp only [bind, Except.bind, if_pos passed, pure, Except.pure, Except.ok.injEq]
      exact ⟨fun same => ⟨same, same ▸ passed⟩, And.left⟩
    · simp only [bind, Except.bind, if_neg passed, throw, throwThe, MonadExceptOf.throw, reduceCtorEq,
        Except.ok.injEq, false_iff, not_and]
      exact fun same => same ▸ passed

namespace Address

/-- The addresses of a range, which goes round at the end of the address space. -/
def span (start : Address) (length : Nat) : List Address :=
  (List.range length).map fun index => start + UInt64.ofNat index

theorem span_add (start : Address) (first second : Nat) :
    span start (first + second) = span start first ++ span (start + UInt64.ofNat first) second := by
  simp only [span, List.range_add, List.map_append, List.map_map, Function.comp_def, UInt64.ofNat_add,
    UInt64.add_assoc]

theorem span_succ (start : Address) (length : Nat) :
    span start (length + 1) = start :: span (start + 1) length := by
  rw [Nat.add_comm, span_add]
  simp [span]

@[simp]
theorem length_span (start : Address) (length : Nat) : (span start length).length = length := by
  simp [span]

theorem getElem?_span (start : Address) (length index : Nat) :
    (span start length)[index]? = if index < length then some (start + UInt64.ofNat index) else none := by
  rw [span, List.getElem?_map]
  split
  next inside => rw [List.getElem?_range inside, Option.map_some]
  next beyond => rw [List.getElem?_eq_none (by simpa using beyond), Option.map_none]

theorem mem_span {start gva : Address} {length : Nat} :
    gva ∈ span start length ↔ ∃ index < length, start + UInt64.ofNat index = gva := by
  simp [span]

/-- Between the two halves of the canonical addresses lies a hole that a long range runs into. -/
theorem length_le_bufferLimit {start : Address} {length : Nat}
    (canonical : ∀ gva ∈ span start length, gva.IsCanonical) : length ≤ Bus.bufferLimit := by
  refine Nat.le_of_not_lt fun long => ?_
  have hole : ¬IsCanonical 0x800000000000 := by decide
  have outside : ¬(0x800000000000 - start).toNat < length := by
    intro inside
    refine hole (canonical _ (mem_span.mpr ⟨(0x800000000000 - start).toNat, inside, ?_⟩))
    rw [UInt64.ofNat_toNat, UInt64.add_comm, UInt64.sub_add_cancel]
  -- The range starts at a canonical address, which is never far from the hole behind it.
  have first : start.IsCanonical := by
    refine canonical start (mem_span.mpr ⟨0, ?_, by simp⟩)
    omega
  rw [IsCanonical, UInt64.lt_iff_toNat_lt, UInt64.le_iff_toNat_le] at first
  rw [UInt64.toNat_sub] at outside
  have bound := start.toNat_lt
  simp only [UInt64.reduceToNat] at first outside
  rw [Bus.bufferLimit] at long
  omega

/-- The answers for the addresses of a range, one by one. -/
theorem mapM_span {ε β : Type} {ask : Address → Except ε β} {start : Address} {length : Nat} {answers : List β}
    (asked : (span start length).mapM ask = .ok answers) :
    answers.length = length ∧ ∀ index < length, ∃ answer,
      ask (start + UInt64.ofNat index) = .ok answer ∧ answers[index]? = some answer := by
  have listed := mapM_eq_ok.mp asked
  refine ⟨by simpa using (congrArg List.length listed).symm, ?_⟩
  intro index inside
  have entry := congrArg (fun list => list[index]?) listed
  simp only [List.getElem?_map, getElem?_span, inside, if_true, Option.map_some] at entry
  obtain ⟨answer, there, same⟩ := Option.map_eq_some_iff.mp entry.symm
  exact ⟨answer, same.symm, there⟩

end Address

namespace Chunk

theorem splitFrom_zero (base : Address) (start : Nat) : splitFrom base start 0 = [] := by
  rw [splitFrom, if_pos rfl]

theorem splitFrom_more (base : Address) (start : Nat) {remaining : Nat} (more : remaining ≠ 0) :
    ∃ length, 0 < length ∧ length ≤ remaining ∧
      (base + UInt64.ofNat start).offset + length ≤ Address.pageSize ∧
      splitFrom base start remaining = ⟨base + UInt64.ofNat start, start, length⟩ ::
        splitFrom base (start + length) (remaining - length) := by
  have inside := Address.offset_lt (base + UInt64.ofNat start)
  refine ⟨min (Address.pageSize - (base + UInt64.ofNat start).offset) remaining, by omega, by omega,
    by omega, ?_⟩
  rw [splitFrom, if_neg more]

end Chunk

/-- A translation of canonical addresses that keeps step within a page. -/
structure Steady (translate : Address → Except MemoryError Address) : Prop where
  canonical : ∀ {gva gpa}, translate gva = .ok gpa → gva.IsCanonical
  offset : ∀ {gva gpa}, translate gva = .ok gpa → gpa.offset = gva.offset
  next : ∀ {gva gpa}, translate gva = .ok gpa → gva.offset + 1 < Address.pageSize →
    translate (gva + 1) = .ok (gpa + 1)

namespace Space

/-- Where a virtual address leads if there is memory. -/
def reach (translate : Address → Except MemoryError Address) (space : Space) (gva : Address) :
    Except MemoryError Address := do
  let gpa ← translate gva
  if space.isBound gpa then return gpa else throw (.unbound gpa)

/-- The byte at an address, zero where no page is bound. -/
def byteAt (space : Space) (gpa : Address) : UInt8 :=
  (space.byte? gpa).getD 0

variable {translate : Address → Except MemoryError Address} {space : Space} {gva gpa : Address} {page : Page}

theorem reach_ok : space.reach translate gva = .ok gpa ↔ translate gva = .ok gpa ∧ space.isBound gpa :=
  checked_eq_ok

theorem reach_error {error : MemoryError} (failed : translate gva = .error error) :
    space.reach translate gva = .error error := by
  rw [reach, failed]
  rfl

theorem reach_unbound (mapped : translate gva = .ok gpa) (missing : space.page? gpa = none) :
    space.reach translate gva = .error (.unbound gpa) := by
  have unbound : ¬space.isBound gpa := by simp [isBound_eq, missing]
  rw [reach, mapped]
  exact if_neg unbound

theorem reach_bound (mapped : translate gva = .ok gpa) (held : space.page? gpa = some page) :
    space.reach translate gva = .ok gpa :=
  reach_ok.mpr ⟨mapped, by rw [isBound_eq, held, Option.isSome_some]⟩

theorem byteAt_bound (held : space.page? gpa = some page) : space.byteAt gpa = page.byte gpa.offset := by
  rw [byteAt, byte?_eq held, Option.getD_some]

theorem page?_next (held : space.page? gpa = some page) (inside : gpa.offset + 1 < Address.pageSize) :
    space.page? (gpa + 1) = some page := by
  rw [← page?_pageStart, Address.pageStart_next inside, page?_pageStart, held]

theorem mapM_reach_page (steady : Steady translate) (mapped : translate gva = .ok gpa)
    (held : space.page? gpa = some page) {length : Nat} (inside : gva.offset + length ≤ Address.pageSize) :
    (Address.span gva length).mapM (space.reach translate) = .ok (Address.span gpa length) := by
  induction length generalizing gva gpa with
  | zero => rfl
  | succ length ih =>
    have same := steady.offset mapped
    rw [Address.span_succ, List.mapM_cons, reach_bound mapped held, Address.span_succ]
    -- Behind the last byte the next page may begin.
    cases length with
    | zero => rfl
    | succ length =>
      have near : gva.offset + 1 < Address.pageSize := by omega
      have further := ih (steady.next mapped near) (page?_next held (same ▸ near))
        (by rw [Address.offset_next near]; omega)
      rw [further]
      rfl

theorem read_span (held : space.page? gpa = some page) {length : Nat}
    (inside : gpa.offset + length ≤ Address.pageSize) :
    page.read gpa.offset length = (Address.span gpa length).map space.byteAt := by
  induction length generalizing gpa with
  | zero => rfl
  | succ length ih =>
    rw [Address.span_succ, List.map_cons, byteAt_bound held, Page.read, List.range'_succ, List.map_cons]
    cases length with
    | zero => rfl
    | succ length =>
      have near : gpa.offset + 1 < Address.pageSize := by omega
      have further := ih (page?_next held near) (by rw [Address.offset_next near]; omega)
      rw [← further, Address.offset_next near]
      rfl

/-- The bytes at the addresses that are reached, or the failure to reach them. -/
def bytesOf (space : Space) (reached : Except MemoryError (List Address)) :
    Except MemoryError (List UInt8) :=
  reached.map (List.map space.byteAt)

theorem bytesOf_ok {reached : Except MemoryError (List Address)} {bytes : List UInt8} :
    space.bytesOf reached = .ok bytes ↔ ∃ found, reached = .ok found ∧ found.map space.byteAt = bytes := by
  cases reached <;> simp [bytesOf, Except.map]

/-- A piece is read whole, or it fails as its first byte does. -/
theorem readPiece_eq {cr3 : Address} (steady : Steady translate)
    (walked : bus.physical cr3 gva space = Access.ofExcept (translate gva) space) {length : Nat}
    (positive : 0 < length) (inside : gva.offset + length ≤ Address.pageSize) :
    (bus.physical cr3 gva >>= fun gpa => bus.read gpa length) space =
      Access.ofExcept (space.bytesOf ((Address.span gva length).mapM (space.reach translate))) space := by
  obtain ⟨rest, rfl⟩ := Nat.exists_eq_succ_of_ne_zero (Nat.ne_of_gt positive)
  cases mapped : translate gva with
  | error error =>
    rw [mapped] at walked
    rw [Access.bind_error walked, Address.span_succ, List.mapM_cons, reach_error mapped]
    rfl
  | ok gpa =>
    rw [mapped] at walked
    have same := steady.offset mapped
    have fits : ¬Address.pageSize - gpa.offset < rest + 1 := by omega
    rw [Access.bind_ok walked, read_eq, if_neg fits]
    cases held : space.page? gpa with
    | none =>
      rw [Address.span_succ, List.mapM_cons, reach_unbound mapped held]
      rfl
    | some page =>
      rw [mapM_reach_page steady mapped held inside]
      simp only [read_span held (same ▸ inside)]
      rfl

private theorem readChunks_cons (cr3 : Address) (chunk : Chunk) (rest : List Chunk) :
    bus.readChunks cr3 (chunk :: rest) =
      (bus.physical cr3 chunk.address >>= fun gpa => bus.read gpa chunk.length) >>= fun bytes =>
        bus.readChunks cr3 rest >>= fun later => pure (bytes ++ later) := by
  rw [Bus.readChunks, bind_assoc]

theorem readChunks_eq {cr3 : Address} (steady : Steady translate)
    (walks : ∀ gva, bus.physical cr3 gva space = Access.ofExcept (translate gva) space)
    (base : Address) (start remaining : Nat) :
    bus.readChunks cr3 (Chunk.splitFrom base start remaining) space =
      Access.ofExcept (space.bytesOf
        ((Address.span (base + UInt64.ofNat start) remaining).mapM (space.reach translate))) space := by
  induction remaining using Nat.strongRecOn generalizing start with
  | ind remaining ih =>
    by_cases more : remaining = 0
    · subst more
      rw [Chunk.splitFrom_zero]
      rfl
    · obtain ⟨length, positive, within, inside, split⟩ := Chunk.splitFrom_more base start more
      have parts : remaining = length + (remaining - length) := by omega
      have first := readPiece_eq steady (walks (base + UInt64.ofNat start)) positive inside
      have rest := ih (remaining - length) (by omega) (start + length)
      rw [UInt64.ofNat_add, ← UInt64.add_assoc] at rest
      rw [split, readChunks_cons]
      conv => rhs; rw [parts, Address.span_add, List.mapM_append]
      cases reached : (Address.span (base + UInt64.ofNat start) length).mapM (space.reach translate) with
      | error error =>
        rw [reached] at first
        exact Access.bind_error first
      | ok found =>
        rw [reached] at first
        rw [Access.bind_ok first]
        cases later : (Address.span (base + UInt64.ofNat start + UInt64.ofNat length)
            (remaining - length)).mapM (space.reach translate) with
        | error error =>
          rw [later] at rest
          exact Access.bind_error rest
        | ok others =>
          rw [later] at rest
          refine (Access.bind_ok rest).trans ?_
          rw [← List.map_append]
          rfl

/-- A range is read at the addresses that its bytes reach, if all of them reach memory, and otherwise
fails as the first that does not. -/
theorem readInto_eq {cr3 : Address} (steady : Steady translate)
    (walks : ∀ gva, bus.physical cr3 gva space = Access.ofExcept (translate gva) space)
    (gva : Address) (length : Nat) :
    bus.readInto cr3 gva length space =
      Access.ofExcept (space.bytesOf ((Address.span gva length).mapM (space.reach translate))) space := by
  have whole := readChunks_eq steady walks gva 0 length
  rwa [show gva + UInt64.ofNat 0 = gva by simp] at whole

/-- What a read of a range answers, the taking of its buffer included. -/
def rangeOf (translate : Address → Except MemoryError Address) (space : Space) (gva : Address) (length : Nat) :
    Except MemoryError (List UInt8) :=
  if Bus.bufferLimit < length then .error (.noRoom length)
  else space.bytesOf ((Address.span gva length).mapM (space.reach translate))

theorem readVirtual_eq {cr3 : Address} (steady : Steady translate)
    (walks : ∀ gva, bus.physical cr3 gva space = Access.ofExcept (translate gva) space)
    (gva : Address) (length : Nat) :
    bus.readVirtual cr3 gva length space = Access.ofExcept (space.rangeOf translate gva length) space := by
  rw [Bus.readVirtual, rangeOf]
  split
  · rfl
  · exact readInto_eq steady walks gva length

/-- A range that can be reached throughout has a buffer. -/
theorem reached_length (steady : Steady translate) {length : Nat} {found : List Address}
    (reached : (Address.span gva length).mapM (space.reach translate) = .ok found) :
    length ≤ Bus.bufferLimit := by
  have canonical : ∀ other ∈ Address.span gva length, other.IsCanonical := by
    intro other member
    obtain ⟨gpa, answer⟩ := exists_mapM_eq_ok.mp ⟨found, reached⟩ other member
    exact steady.canonical (reach_ok.mp answer).1
  exact Address.length_le_bufferLimit canonical

theorem rangeOf_ok (steady : Steady translate) {length : Nat} {bytes : List UInt8} :
    space.rangeOf translate gva length = .ok bytes ↔ ∃ found,
      (Address.span gva length).mapM (space.reach translate) = .ok found ∧ found.map space.byteAt = bytes := by
  rw [rangeOf, ← bytesOf_ok]
  split
  next long =>
    refine iff_of_false nofun fun read => ?_
    obtain ⟨found, reached, -⟩ := bytesOf_ok.mp read
    exact absurd (reached_length steady reached) (Nat.not_le_of_lt long)
  next => rfl

end Space

end GuestResume
