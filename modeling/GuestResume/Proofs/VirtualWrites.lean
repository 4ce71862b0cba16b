import GuestResume.Proofs.VirtualReads

/-! Writing a range of virtual memory, told by the bytes it reaches. Each byte of the range that can be
reached is stored at its physical address, in order, up to the first byte that cannot be reached;
where two of them share an address the later one stays. -/

namespace GuestResume

/-- The first chunk of a range of bytes, with its bytes in front of the others. -/
theorem Chunk.splitFrom_data (base : Address) {data : List UInt8} {done remaining : Nat}
    (parts : done + remaining = data.length) (more : remaining ≠ 0) :
    ∃ piece : List UInt8, 0 < piece.length ∧ piece.length ≤ remaining ∧
      (base + UInt64.ofNat done).offset + piece.length ≤ Address.pageSize ∧
      data.drop done = piece ++ data.drop (done + piece.length) ∧
      ∃ chunk : Chunk, chunk.address = base + UInt64.ofNat done ∧ chunk.slice data = piece ∧
        splitFrom base done remaining =
          chunk :: splitFrom base (done + piece.length) (remaining - piece.length) := by
  obtain ⟨length, positive, within, inside, split⟩ := splitFrom_more base done more
  have size : ((data.drop done).take length).length = length := by
    rw [List.length_take, List.length_drop]
    omega
  refine ⟨(data.drop done).take length, by omega, by omega, by omega, ?_,
    ⟨base + UInt64.ofNat done, done, length⟩, rfl, rfl, ?_⟩
  · rw [size, ← List.drop_drop, List.take_append_drop]
  · rw [size, split]

/-- The bytes of a range with the physical addresses they are stored at, up to the first one that
cannot be reached. -/
def trail (reach : Address → Except MemoryError Address) : Address → List UInt8 → List (Address × UInt8)
  | _, [] => []
  | gva, byte :: rest =>
    match reach gva with
    | .ok gpa => (gpa, byte) :: trail reach (gva + 1) rest
    | .error _ => []

theorem trail_append (reach : Address → Except MemoryError Address) (gva : Address)
    (first second : List UInt8) :
    trail reach gva (first ++ second) =
      match (Address.span gva first.length).mapM reach with
      | .ok _ => trail reach gva first ++ trail reach (gva + UInt64.ofNat first.length) second
      | .error _ => trail reach gva first := by
  induction first generalizing gva with
  | nil => simp [Address.span, trail, pure, Except.pure]
  | cons byte rest ih =>
    rw [List.length_cons, Address.span_succ, List.mapM_cons, List.cons_append, trail, trail]
    cases reach gva with
    | error error => rfl
    | ok gpa =>
      have onwards : gva + 1 + UInt64.ofNat rest.length = gva + UInt64.ofNat (rest.length + 1) := by
        rw [UInt64.ofNat_add, UInt64.add_assoc, UInt64.add_comm (UInt64.ofNat rest.length)]
        rfl
      simp only [ih, onwards]
      cases (Address.span (gva + 1) rest.length).mapM reach <;> rfl

theorem trail_congr {reach other : Address → Except MemoryError Address}
    (same : ∀ gva gpa, reach gva = .ok gpa ↔ other gva = .ok gpa) (gva : Address) (data : List UInt8) :
    trail reach gva data = trail other gva data := by
  induction data generalizing gva with
  | nil => rfl
  | cons byte rest ih =>
    rw [trail, trail, ih]
    cases first : reach gva with
    | ok gpa => rw [(same gva gpa).mp first]
    | error error =>
      cases second : other gva with
      | ok gpa =>
        rw [(same gva gpa).mpr second] at first
        cases first
      | error _ => rfl

/-- The byte that a piece inside a page has for an address. -/
def pieceAt (gpa : Address) (data : List UInt8) (other : Address) : Option UInt8 :=
  if gpa.pageStart = other.pageStart ∧ gpa.offset ≤ other.offset then data[other.offset - gpa.offset]?
  else none

section

variable {gpa other : Address} {byte : UInt8} {rest : List UInt8}

theorem pieceAt_nil (gpa other : Address) : pieceAt gpa [] other = none := by
  rw [pieceAt, List.getElem?_nil, ite_self]

theorem pieceAt_first : pieceAt gpa (byte :: rest) gpa = some byte := by
  rw [pieceAt, if_pos ⟨rfl, Nat.le_refl _⟩, Nat.sub_self, List.getElem?_cons_zero]

theorem pieceAt_before (near : gpa.offset + 1 < Address.pageSize) : pieceAt (gpa + 1) rest gpa = none := by
  rw [pieceAt, Address.offset_next near, if_neg]
  omega

theorem pieceAt_later (near : gpa.offset + 1 < Address.pageSize) (different : other ≠ gpa) :
    pieceAt gpa (byte :: rest) other = pieceAt (gpa + 1) rest other := by
  rw [pieceAt, pieceAt, Address.pageStart_next near, Address.offset_next near]
  by_cases here : gpa.pageStart = other.pageStart ∧ gpa.offset ≤ other.offset
  · have apart : other.offset ≠ gpa.offset := fun level => different (Address.ext_page here.1.symm level)
    have beyond : gpa.offset + 1 ≤ other.offset := by omega
    have position : other.offset - gpa.offset = other.offset - (gpa.offset + 1) + 1 := by omega
    rw [if_pos here, if_pos ⟨here.1, beyond⟩, position, List.getElem?_cons_succ]
  · rw [if_neg here, if_neg]
    intro nearer
    exact here ⟨nearer.1, by omega⟩

theorem pieceAt_single (different : other ≠ gpa) : pieceAt gpa [byte] other = none := by
  rw [pieceAt]
  split
  next here =>
    have apart : other.offset ≠ gpa.offset := fun level => different (Address.ext_page here.1.symm level)
    apply List.getElem?_eq_none
    rw [List.length_singleton]
    omega
  next => rfl

private theorem lookup_single (gpa other : Address) (byte : UInt8) :
    [(gpa, byte)].lookup other = if other = gpa then some byte else none := by
  by_cases same : other = gpa
  · simp [same]
  · simp [same, List.lookup_cons, beq_eq_false_iff_ne.mpr same]

/-- Inside a page no address comes twice. -/
theorem lookup_trail (gpa other : Address) (data : List UInt8)
    (inside : gpa.offset + data.length ≤ Address.pageSize) :
    (trail .ok gpa data).reverse.lookup other = pieceAt gpa data other := by
  induction data generalizing gpa with
  | nil => exact (pieceAt_nil gpa other).symm
  | cons byte rest ih =>
    rw [trail, List.reverse_cons, List.lookup_append, lookup_single]
    rw [List.length_cons] at inside
    cases rest with
    | nil =>
      by_cases same : other = gpa
      · subst same
        rw [pieceAt_first, if_pos rfl]
        rfl
      · rw [pieceAt_single same, if_neg same]
        rfl
    | cons next rest =>
      rw [List.length_cons] at inside
      have near : gpa.offset + 1 < Address.pageSize := by omega
      have later := ih (gpa + 1) (by rw [Address.offset_next near, List.length_cons]; omega)
      rw [later]
      by_cases same : other = gpa
      · subst same
        rw [pieceAt_before near, pieceAt_first, if_pos rfl, Option.none_or]
      · rw [pieceAt_later near same, if_neg same, Option.or_none]

theorem Page.byte_write_piece (page : Page) (here : gpa.pageStart = other.pageStart) (data : List UInt8) :
    (page.write gpa.offset data).byte other.offset = (pieceAt gpa data other).getD (page.byte other.offset) := by
  have offset := Address.offset_lt other
  rw [Page.byte_write, pieceAt]
  by_cases reached : gpa.offset ≤ other.offset
  · by_cases short : other.offset < gpa.offset + data.length
    · have position : other.offset - gpa.offset < data.length := by omega
      simp only [here, reached, short, offset, and_self, if_true, List.getElem?_eq_getElem position,
        Option.getD_some]
    · have position : data.length ≤ other.offset - gpa.offset := by omega
      simp [reached, short, List.getElem?_eq_none position]
  · simp [reached]

end

namespace Space

/-- The same pages are bound, and every byte is the last one stored at its address. -/
def Stores (log : List (Address × UInt8)) (before later : Space) : Prop :=
  ∀ gpa, later.byte? gpa = (before.byte? gpa).map fun old => (log.reverse.lookup gpa).getD old

variable {before middle later space : Space}

theorem stores_nil (space : Space) : Stores [] space space := by
  intro gpa
  simp

theorem Stores.append {first second : List (Address × UInt8)} (start : Stores first before middle)
    (rest : Stores second middle later) : Stores (first ++ second) before later := by
  intro gpa
  rw [rest gpa, start gpa, Option.map_map, List.reverse_append, List.lookup_append]
  congr 1
  funext old
  cases (second.reverse.lookup gpa) <;> simp

theorem Stores.isBound {log : List (Address × UInt8)} (stores : Stores log before later) (gpa : Address) :
    later.isBound gpa = before.isBound gpa := by
  rw [← isSome_byte?, stores gpa, Option.isSome_map, isSome_byte?]

theorem Stores.byteAt {log : List (Address × UInt8)} (stores : Stores log before later) {gpa : Address}
    (bound : before.isBound gpa) :
    later.byteAt gpa = (log.reverse.lookup gpa).getD (before.byteAt gpa) := by
  rw [← isSome_byte?] at bound
  obtain ⟨old, held⟩ := Option.isSome_iff_exists.mp bound
  rw [Space.byteAt, Space.byteAt, stores gpa, held, Option.map_some, Option.getD_some, Option.getD_some]

theorem Stores.reach {log : List (Address × UInt8)} (stores : Stores log before later)
    (translate : Address → Except MemoryError Address) :
    later.reach translate = before.reach translate := by
  funext gva
  simp only [Space.reach, stores.isBound]

theorem stores_write {gpa : Address} {data : List UInt8} (inside : gpa.offset + data.length ≤ Address.pageSize)
    (written : bus.write gpa data before = .ok () later) : Stores (trail .ok gpa data) before later := by
  intro other
  rw [lookup_trail gpa other data inside, byte?, page?_write written, byte?]
  by_cases here : gpa.pageStart = other.pageStart
  · rw [if_pos here, Option.map_map, Option.map_map]
    congr 1
    funext page
    exact Page.byte_write_piece page here data
  · simp [pieceAt, here, Function.comp_def]

variable {translate : Address → Except MemoryError Address} {gva gpa : Address}

theorem trail_page (steady : Steady translate) (mapped : translate gva = .ok gpa) {page : Page}
    (held : space.page? gpa = some page) {data : List UInt8}
    (inside : gva.offset + data.length ≤ Address.pageSize) :
    trail (space.reach translate) gva data = trail .ok gpa data := by
  induction data generalizing gva gpa with
  | nil => rfl
  | cons byte rest ih =>
    have same := steady.offset mapped
    rw [List.length_cons] at inside
    simp only [trail, reach_bound mapped held, List.cons.injEq, true_and]
    cases rest with
    | nil => rfl
    | cons next rest =>
      rw [List.length_cons] at inside
      have near : gva.offset + 1 < Address.pageSize := by omega
      exact ih (steady.next mapped near) (page?_next held (same ▸ near))
        (by rw [Address.offset_next near, List.length_cons]; omega)

end Space

/-- A table whose translations stay the same however memory is written through it. -/
structure Settled (root : Address) (translate : Address → Except MemoryError Address)
    (kept : Space → Prop) : Prop where
  steady : Steady translate
  walks : ∀ {space}, kept space → ∀ gva,
    Space.bus.physical root gva space = Access.ofExcept (translate gva) space
  writes : ∀ {space later gva gpa data}, kept space → translate gva = .ok gpa →
    Space.bus.write gpa data space = .ok () later → kept later

namespace Settled

variable {root gva : Address} {translate : Address → Except MemoryError Address} {kept : Space → Prop}
  {space : Space}

/-- The outcome of a write: it ends well if every byte was reached, else with the failure of the first
byte that was not. -/
def outcome (reached : Except MemoryError (List Address)) (later : Space) :
    EStateM.Result MemoryError Space Unit :=
  match reached with
  | .ok _ => .ok () later
  | .error error => .error error later

theorem writePiece_eq (settled : Settled root translate kept) (start : kept space) {data : List UInt8}
    (nonempty : 0 < data.length) (inside : gva.offset + data.length ≤ Address.pageSize) :
    ∃ later, (Space.bus.physical root gva >>= fun gpa => Space.bus.write gpa data) space =
        outcome ((Address.span gva data.length).mapM (space.reach translate)) later ∧
      Space.Stores (trail (space.reach translate) gva data) space later ∧ kept later := by
  obtain ⟨byte, rest, rfl⟩ := List.exists_cons_of_length_pos nonempty
  have walked := settled.walks start gva
  cases mapped : translate gva with
  | error error =>
    rw [mapped] at walked
    have failed : space.reach translate gva = .error error := Space.reach_error mapped
    refine ⟨space, ?_, ?_, start⟩
    · rw [Access.bind_error walked, List.length_cons, Address.span_succ, List.mapM_cons, failed]
      rfl
    · simp only [trail, failed]
      exact Space.stores_nil space
  | ok gpa =>
    rw [mapped] at walked
    have same := settled.steady.offset mapped
    have fits : ¬Address.pageSize - gpa.offset < (byte :: rest).length := by omega
    rw [Access.bind_ok walked]
    cases held : space.page? gpa with
    | none =>
      have failed := Space.reach_unbound mapped held
      refine ⟨space, ?_, ?_, start⟩
      · rw [Space.write_eq, if_neg fits, held, List.length_cons, Address.span_succ, List.mapM_cons, failed]
        rfl
      · simp only [trail, failed]
        exact Space.stores_nil space
    | some page =>
      obtain ⟨later, written⟩ : ∃ later, Space.bus.write gpa (byte :: rest) space = .ok () later :=
        ⟨_, Space.write_page held fits⟩
      refine ⟨later, ?_, ?_, settled.writes start mapped written⟩
      · rw [written, Space.mapM_reach_page settled.steady mapped held inside]
        rfl
      · rw [Space.trail_page settled.steady mapped held inside]
        exact Space.stores_write (same ▸ inside) written

private theorem writeChunks_cons (root : Address) (data : List UInt8) (chunk : Chunk) (rest : List Chunk) :
    Space.bus.writeChunks root data (chunk :: rest) =
      (Space.bus.physical root chunk.address >>= fun gpa => Space.bus.write gpa (chunk.slice data)) >>=
        fun _ => Space.bus.writeChunks root data rest := by
  rw [Bus.writeChunks, bind_assoc]

theorem writeChunks_eq (settled : Settled root translate kept) (start : kept space) (base : Address)
    (data : List UInt8) {done remaining : Nat} (parts : done + remaining = data.length) :
    ∃ later, Space.bus.writeChunks root data (Chunk.splitFrom base done remaining) space =
        outcome ((Address.span (base + UInt64.ofNat done) remaining).mapM (space.reach translate)) later ∧
      Space.Stores (trail (space.reach translate) (base + UInt64.ofNat done) (data.drop done)) space later ∧
      kept later := by
  induction remaining using Nat.strongRecOn generalizing done space with
  | ind remaining ih =>
    by_cases more : remaining = 0
    · subst more
      refine ⟨space, ?_, ?_, start⟩
      · rw [Chunk.splitFrom_zero]
        rfl
      · rw [List.drop_eq_nil_of_le (by omega)]
        exact Space.stores_nil space
    · obtain ⟨piece, positive, within, inside, whole, chunk, placed, sliced, split⟩ :=
        Chunk.splitFrom_data base parts more
      have counted : remaining = piece.length + (remaining - piece.length) := by omega
      obtain ⟨middle, written, stores, keeps⟩ := settled.writePiece_eq start positive inside
      rw [split, writeChunks_cons, placed, sliced, whole, trail_append]
      conv in (Address.span _ remaining) => rw [counted, Address.span_add]
      rw [List.mapM_append]
      cases reached : (Address.span (base + UInt64.ofNat done) piece.length).mapM (space.reach translate) with
      | error error =>
        rw [reached] at written
        exact ⟨middle, Access.bind_error written, stores, keeps⟩
      | ok found =>
        rw [reached] at written
        -- The first piece binds no page, so the rest reaches what it would have reached before.
        obtain ⟨later, rest, further, last⟩ := ih (remaining - piece.length) (by omega) keeps
          (show (done + piece.length) + (remaining - piece.length) = data.length by omega)
        rw [stores.reach, UInt64.ofNat_add, ← UInt64.add_assoc] at rest further
        refine ⟨later, ?_, stores.append further, last⟩
        refine ((Access.bind_ok written).trans rest).trans ?_
        cases (Address.span (base + UInt64.ofNat done + UInt64.ofNat piece.length)
          (remaining - piece.length)).mapM (space.reach translate) <;> rfl

/-- A write through a settled table stores the bytes that it reaches. -/
theorem writeVirtual_eq (settled : Settled root translate kept) (start : kept space) (gva : Address)
    (data : List UInt8) :
    ∃ later, Space.bus.writeVirtual root gva data space =
        outcome ((Address.span gva data.length).mapM (space.reach translate)) later ∧
      Space.Stores (trail (space.reach translate) gva data) space later ∧ kept later := by
  have written := settled.writeChunks_eq start gva data (Nat.zero_add data.length)
  rwa [show gva + UInt64.ofNat 0 = gva by simp, List.drop_zero] at written

theorem kept_writeVirtual (settled : Settled root translate kept) (start : kept space) (gva : Address)
    (data : List UInt8) : kept (Access.after (Space.bus.writeVirtual root gva data) space) := by
  obtain ⟨later, written, -, keeps⟩ := settled.writeVirtual_eq start gva data
  rw [Access.after, written]
  cases (Address.span gva data.length).mapM (space.reach translate) <;> exact keeps

end Settled

end GuestResume
