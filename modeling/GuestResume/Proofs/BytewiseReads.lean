import GuestResume.Proofs.AccessBounds
import GuestResume.Proofs.AccessInvariants

/-! Reading virtual memory byte by byte. A range is looked up once per page, also where one entry maps more
than a page, and where the range leaves the canonical addresses or goes round at the end of the address space.
Looking up every byte by itself gives the same bytes, and it fails at the same address for the same reason. What
cannot be had byte by byte is the failure of a read whose buffer is taken first and would be too long: one byte
after the other fails as well then, but for a reason that the caller is told. -/

namespace GuestResume

namespace Access

variable {ε σ α : Type} {operation : EStateM ε σ α} {state : σ}

/-- What an operation answers. -/
def answer (operation : EStateM ε σ α) (state : σ) : Except ε α :=
  match operation state with
  | .ok value _ => .ok value
  | .error error _ => .error error

theorem answer_ok {value : α} (done : operation state = .ok value state) :
    answer operation state = .ok value := by
  rw [answer, done]

/-- An operation that leaves the state as it is does nothing but answer. -/
theorem ofExcept_answer (kept : after operation state = state) :
    operation state = ofExcept (answer operation state) state := by
  rw [after] at kept
  rw [answer]
  cases done : operation state with
  | ok value later =>
    rw [done] at kept
    subst kept
    rfl
  | error error later =>
    rw [done] at kept
    subst kept
    rfl

end Access

namespace Bus

variable {σ : Type} (bus : Bus σ)

/-- One byte by itself. -/
def readByte (cr3 gva : Address) : Access σ (List UInt8) := do
  bus.read (← bus.physical cr3 gva) 1

/-- A range byte by byte, each byte looked up when its turn comes. -/
def readBytewise (cr3 gva : Address) (length : Nat) : Access σ (List UInt8) := do
  return (← (Address.span gva length).mapM (bus.readByte cr3)).flatten

end Bus

namespace Space

variable {space : Space}

/-- The bus of a space without its writes. -/
def readOnlyBus : Bus Space :=
  { bus with write := fun _ _ => pure () }

/-- A lookup leaves the space as it is, whether it succeeds or fails. -/
theorem after_physical (cr3 gva : Address) (space : Space) :
    Access.after (bus.physical cr3 gva) space = space := by
  -- A walk makes no writes, so it is the same walk on a bus that has none.
  have linked : Bus.Linked (Comparison.keeping (· = space)).congruence readOnlyBus readOnlyBus :=
    { locate := fun gpa => keeping_query fun space => space.locate gpa
      read := fun gpa length => keeping_query fun space => space.read gpa length
      write := fun _ _ => Comparison.simulates_pure ()
      unmapped := fun _ => Comparison.simulates_throw rfl
      nonCanonical := fun _ => Comparison.simulates_throw rfl
      noRoom := fun _ => Comparison.simulates_throw rfl }
  exact Comparison.simulates_keeping.mp (linked.physical cr3 gva) space rfl

/-- The translation of the table at `cr3`, whatever lies there. -/
def translation (space : Space) (cr3 gva : Address) : Except MemoryError Address :=
  Access.answer (bus.physical cr3 gva) space

theorem physical_eq_translation (space : Space) (cr3 gva : Address) :
    bus.physical cr3 gva space = Access.ofExcept (space.translation cr3 gva) space :=
  Access.ofExcept_answer (after_physical cr3 gva space)

theorem physical_of_translation {cr3 gva gpa : Address} (mapped : space.translation cr3 gva = .ok gpa) :
    bus.physical cr3 gva space = .ok gpa space := by
  rw [physical_eq_translation, mapped]
  rfl

/-- Every table keeps step within a page, also inside a larger one. -/
theorem steady_translation (space : Space) (cr3 : Address) : Steady (space.translation cr3) where
  canonical mapped := Bus.canonical_physical (physical_of_translation mapped)
  offset mapped := Bus.offset_physical (physical_of_translation mapped)
  next mapped inside := Access.answer_ok (Bus.physical_next (physical_of_translation mapped) inside)

theorem readByte_eq (space : Space) (cr3 gva : Address) :
    bus.readByte cr3 gva space =
      Access.ofExcept ((space.reach (space.translation cr3) gva).map fun gpa => [space.byteAt gpa]) space := by
  have inside : gva.offset + 1 ≤ Address.pageSize := gva.offset_lt
  have piece := readPiece_eq (steady_translation space cr3) (physical_eq_translation space cr3 gva)
    Nat.one_pos inside
  rw [Address.span_succ, List.mapM_cons] at piece
  rw [Bus.readByte, piece]
  cases space.reach (space.translation cr3) gva <;> rfl

theorem readBytes_eq (space : Space) (cr3 : Address) (addresses : List Address) :
    addresses.mapM (bus.readByte cr3) space =
      Access.ofExcept ((addresses.mapM (space.reach (space.translation cr3))).map
        (List.map fun gpa => [space.byteAt gpa])) space := by
  induction addresses with
  | nil => rfl
  | cons gva rest ih =>
    have first := readByte_eq space cr3 gva
    rw [List.mapM_cons, List.mapM_cons]
    cases here : space.reach (space.translation cr3) gva with
    | error error =>
      rw [here] at first
      exact Access.bind_error first
    | ok gpa =>
      rw [here] at first
      rw [Access.bind_ok first]
      cases later : rest.mapM (space.reach (space.translation cr3)) with
      | error error =>
        rw [later] at ih
        exact Access.bind_error ih
      | ok found =>
        rw [later] at ih
        exact Access.bind_ok ih

theorem readBytewise_eq (space : Space) (cr3 gva : Address) (length : Nat) :
    bus.readBytewise cr3 gva length space = Access.ofExcept
      (space.bytesOf ((Address.span gva length).mapM (space.reach (space.translation cr3)))) space := by
  have each := readBytes_eq space cr3 (Address.span gva length)
  rw [Bus.readBytewise]
  cases reached : (Address.span gva length).mapM (space.reach (space.translation cr3)) with
  | error error =>
    rw [reached] at each
    exact Access.bind_error each
  | ok found =>
    rw [reached] at each
    rw [Access.bind_ok each]
    have bytes : (found.map fun gpa => [space.byteAt gpa]).flatten = found.map space.byteAt := by
      rw [← List.flatMap_def, ← List.map_eq_flatMap]
    rw [bytes]
    rfl

/-- A table fails to translate for no other reason than those of a lookup. -/
theorem failure_translation {cr3 gva : Address} {error : MemoryError}
    (failed : space.translation cr3 gva = .error error) : BoundFailure (.physical cr3 gva) error := by
  have looked : bus.physical cr3 gva space = .error error space := by
    rw [physical_eq_translation, failed]
    rfl
  exact ((bounded (.physical cr3 gva)).physical cr3 gva).reason trivial looked

/-- No byte wants for a buffer. -/
theorem reach_ne_noRoom (space : Space) (cr3 gva : Address) (length : Nat) :
    space.reach (space.translation cr3) gva ≠ .error (.noRoom length) := by
  intro failed
  cases mapped : space.translation cr3 gva with
  | error error =>
    rw [reach_error mapped] at failed
    cases failed
    cases failure_translation mapped with
    | noRoom oversized =>
      obtain ⟨-, _, _, impossible⟩ := oversized
      cases impossible
  | ok gpa =>
    cases held : space.page? gpa with
    | none =>
      rw [reach_unbound mapped held] at failed
      cases failed
    | some page =>
      rw [reach_bound mapped held] at failed
      cases failed

end Space

/-- Whatever memory holds, a range of virtual memory is read into a buffer as its bytes are read one after another:
the same bytes if all of them can be read, and the failure of the first that cannot be read otherwise. A read that
has to take its buffer first does the same exactly if there is one. If there is none it says so, where reading the
bytes one after another fails for another reason. -/
theorem readVirtual_eq_bytewise (space : Space) (cr3 gva : Address) (length : Nat) :
    Space.bus.readInto cr3 gva length space = Space.bus.readBytewise cr3 gva length space ∧
    (Space.bus.readVirtual cr3 gva length space = Space.bus.readBytewise cr3 gva length space ↔
      length ≤ Bus.bufferLimit) ∧
    (Bus.bufferLimit < length → Space.bus.readVirtual cr3 gva length space = .error (.noRoom length) space ∧
      ∃ error, Space.bus.readBytewise cr3 gva length space = .error error space ∧
        ∀ length, error ≠ .noRoom length) := by
  have steady := Space.steady_translation space cr3
  have whole := Space.readInto_eq steady (Space.physical_eq_translation space cr3) gva length
  rw [← Space.readBytewise_eq] at whole
  have beyond (long : Bus.bufferLimit < length) :
      Space.bus.readVirtual cr3 gva length space = .error (.noRoom length) space ∧
        ∃ error, Space.bus.readBytewise cr3 gva length space = .error error space ∧
          ∀ length, error ≠ .noRoom length := by
    refine ⟨by rw [Bus.readVirtual, if_pos long]; rfl, ?_⟩
    rw [Space.readBytewise_eq]
    cases reached : (Address.span gva length).mapM (space.reach (space.translation cr3)) with
    | ok found => exact absurd (Space.reached_length steady reached) (Nat.not_le_of_lt long)
    | error error =>
      refine ⟨error, rfl, ?_⟩
      rintro other rfl
      obtain ⟨missed, -, failed⟩ := exists_of_mapM_error reached
      exact Space.reach_ne_noRoom space cr3 missed other failed
  refine ⟨whole, ⟨fun same => ?_, fun short => ?_⟩, beyond⟩
  · refine Nat.le_of_not_lt fun long => ?_
    obtain ⟨ended, error, failed, other⟩ := beyond long
    rw [ended, failed] at same
    cases same
    exact other length rfl
  · rw [Bus.readVirtual, if_neg (Nat.not_lt_of_le short), whole]

/-- In empty memory the first byte already has no memory. -/
theorem readVirtual_eq_bytewise_empty : ∃ error,
    Space.bus.readBytewise 0 0 0xFFFFFFFFFFFFFFFF {} = .error error {} ∧ ∀ length, error ≠ .noRoom length :=
  ((readVirtual_eq_bytewise {} 0 0 0xFFFFFFFFFFFFFFFF).2.2 (by decide)).2

/-- Nothing can be read, yet a read of the longest range there is ends otherwise than with its first byte. -/
theorem longest_read_differs :
    Space.bus.readVirtual 0 0 0xFFFFFFFFFFFFFFFF {} = .error (.noRoom 0xFFFFFFFFFFFFFFFF) {} ∧
      Space.bus.readBytewise 0 0 0xFFFFFFFFFFFFFFFF {} = .error (.unbound 0) {} ∧
      Space.bus.readVirtual 0 0 0xFFFFFFFFFFFFFFFF {} ≠ Space.bus.readBytewise 0 0 0xFFFFFFFFFFFFFFFF {} := by
  have ended : Space.bus.readVirtual 0 0 0xFFFFFFFFFFFFFFFF {} = .error (.noRoom 0xFFFFFFFFFFFFFFFF) {} := rfl
  have failed : Space.bus.readBytewise 0 0 0xFFFFFFFFFFFFFFFF {} = .error (.unbound 0) {} := by
    have first : Space.bus.readByte 0 0 {} = .error (.unbound 0) {} := rfl
    rw [Bus.readBytewise, Address.span_succ 0 0xFFFFFFFFFFFFFFFE, List.mapM_cons]
    exact Access.bind_error (Access.bind_error first)
  refine ⟨ended, failed, ?_⟩
  rw [ended, failed]
  nofun

end GuestResume
