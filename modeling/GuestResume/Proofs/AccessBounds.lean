import GuestResume.Proofs.ResolverAccounts
import GuestResume.Proofs.VirtualReads
import GuestResume.Proofs.WalkTargets

/-! Which physical accesses virtual memory makes. A bus can be watched: it writes every access down before it
is made, and works as it does otherwise. Whatever the tables hold, and also while a write changes the tables
it goes through, each access of a walk and each piece of a range lies in one page of physical memory. So a
virtual access never fails because a physical one crosses a page. -/

namespace GuestResume

variable {σ α β : Type}

/-- One access to physical memory. -/
structure Touch where
  gpa : Address
  length : Nat

/-- The access lies in one page of physical memory. -/
structure Touch.Inside (touch : Touch) : Prop where
  page : touch.gpa.offset + touch.length ≤ Address.pageSize
  limit : touch.gpa.toNat + touch.length ≤ Address.physicalLimit

theorem Touch.inside {gpa : Address} {length : Nat} (below : gpa.toNat < Address.physicalLimit)
    (fits : gpa.offset + length ≤ Address.pageSize) : Touch.Inside ⟨gpa, length⟩ := by
  refine ⟨fits, ?_⟩
  simp only [Address.offset, Address.pageSize, Address.physicalLimit, Nat.reduceShiftLeft] at below fits ⊢
  omega

/-- Memory with the accesses to it, in order. -/
structure Watched (σ : Type) where
  memory : σ
  touches : List Touch := []

namespace Watched

/-- An access is written down before it is made. -/
def noting (touch : Touch) (operation : Access σ α) : Access (Watched σ) α := fun watched =>
  let touches := watched.touches ++ [touch]
  match operation watched.memory with
  | .ok value memory => .ok value { memory, touches }
  | .error error memory => .error error { memory, touches }

/-- Watched memory against the same memory unwatched. -/
def comparison : Comparison (Watched σ) σ where
  related watched memory := watched.memory = memory
  reports := Eq

theorem simulates_noting (touch : Touch) (operation : Access σ α) :
    comparison.Simulates (noting touch operation) operation := by
  rintro watched _ rfl
  rw [noting]
  cases operation watched.memory with
  | ok value memory => exact .ok rfl
  | error error memory => exact .error rfl rfl

end Watched

namespace Bus

def watched (bus : Bus σ) : Bus (Watched σ) where
  locate gpa := Watched.noting ⟨gpa, 1⟩ (bus.locate gpa)
  read gpa length := Watched.noting ⟨gpa, length⟩ (bus.read gpa length)
  write gpa data := Watched.noting ⟨gpa, data.length⟩ (bus.write gpa data)

/-- Watching changes nothing. -/
theorem linked_watched (bus : Bus σ) : Bus.Linked Watched.comparison.congruence bus.watched bus where
  locate gpa := Watched.simulates_noting _ (bus.locate gpa)
  read gpa length := Watched.simulates_noting _ (bus.read gpa length)
  write gpa data := Watched.simulates_noting _ (bus.write gpa data)
  unmapped _ := Comparison.simulates_throw rfl
  nonCanonical _ := Comparison.simulates_throw rfl
  noRoom _ := Comparison.simulates_throw rfl

end Bus

/-- An operation keeps something, answers with something that holds, and fails only for certain reasons. What
holds of the answer is known to the operations that follow: a piece of a range lies in one page only because
the walk before it gave a physical address as far into its page as the virtual one. -/
structure Access.Meets (kept : σ → Prop) (fails : MemoryError → Prop) (holds : α → Prop)
    (operation : Access σ α) : Prop where
  outcome : ∀ state, kept state →
    match operation state with
    | .ok value later => kept later ∧ holds value
    | .error error later => kept later ∧ fails error

namespace Access.Meets

variable {kept : σ → Prop} {fails : MemoryError → Prop}

theorem pure {holds : α → Prop} {value : α} (true : holds value) :
    Meets kept fails holds (Pure.pure value) :=
  ⟨fun _ start => ⟨start, true⟩⟩

theorem throw {holds : α → Prop} {error : MemoryError} (allowed : fails error) :
    Meets kept fails holds (MonadExcept.throw error : Access σ α) :=
  ⟨fun _ start => ⟨start, allowed⟩⟩

theorem bind {middle : α → Prop} {holds : β → Prop} {first : Access σ α} {next : α → Access σ β}
    (start : Meets kept fails middle first) (continued : ∀ value, middle value → Meets kept fails holds (next value)) :
    Meets kept fails holds (first >>= next) := by
  constructor
  intro state begins
  have met := start.outcome state begins
  cases done : first state with
  | ok value later =>
    rw [done] at met
    rw [bind_ok done]
    exact (continued value met.2).outcome later met.1
  | error error later =>
    rw [done] at met
    rw [bind_error done]
    exact met

theorem keeps {holds : α → Prop} {operation : Access σ α} {state : σ} (meets : Meets kept fails holds operation)
    (start : kept state) : kept (Access.after operation state) := by
  have met := meets.outcome state start
  cases done : operation state with
  | ok value later =>
    rw [done] at met
    exact Access.after_ok done ▸ met.1
  | error error later =>
    rw [done] at met
    exact Access.after_error done ▸ met.1

theorem reason {holds : α → Prop} {operation : Access σ α} {state later : σ} {error : MemoryError}
    (meets : Meets kept fails holds operation) (start : kept state) (failed : operation state = .error error later) :
    fails error := by
  have met := meets.outcome state start
  rw [failed] at met
  exact met.2

end Access.Meets

namespace Watched

/-- What has to be kept is kept, and all accesses so far lie inside single pages. -/
structure Confined (kept : σ → Prop) (watched : Watched σ) : Prop where
  memory : kept watched.memory
  inside : ∀ touch ∈ watched.touches, touch.Inside

theorem meets_noting {kept : σ → Prop} {fails : MemoryError → Prop} {touch : Touch} {operation : Access σ α}
    (inside : touch.Inside) (meets : Access.Meets kept fails (fun _ => True) operation) :
    Access.Meets (Confined kept) fails (fun _ => True) (noting touch operation) := by
  constructor
  intro watched earlier
  have all : ∀ other ∈ watched.touches ++ [touch], other.Inside := by
    intro other member
    obtain before | last := List.mem_append.mp member
    · exact earlier.inside other before
    · exact List.mem_singleton.mp last ▸ inside
  have met := meets.outcome watched.memory earlier.memory
  rw [noting]
  cases done : operation watched.memory with
  | ok value later =>
    rw [done] at met
    exact ⟨⟨met.1, all⟩, trivial⟩
  | error error later =>
    rw [done] at met
    exact ⟨⟨met.1, all⟩, met.2⟩

end Watched

/-- Accesses inside a page keep something and fail only for certain reasons, as lookups do. -/
structure Bus.Bounded (bus : Bus σ) (kept : σ → Prop) (fails : MemoryError → Prop) : Prop where
  read : ∀ gpa length, Touch.Inside ⟨gpa, length⟩ → Access.Meets kept fails (fun _ => True) (bus.read gpa length)
  write : ∀ gpa data, Touch.Inside ⟨gpa, data.length⟩ → Access.Meets kept fails (fun _ => True) (bus.write gpa data)
  unmapped : ∀ gva, fails (.unmapped gva)
  nonCanonical : ∀ gva, fails (.nonCanonical gva)

/-- An entry of a table lies inside the table's page. -/
theorem Touch.inside_entry (frame : Entry) {index : Nat} (inside : index < Address.entriesPerTable) :
    Touch.Inside ⟨frame.frame + UInt64.ofNat (8 * index), 8⟩ := by
  have within : 8 * index + 8 ≤ Address.pageSize := by
    simp only [Address.entriesPerTable, Address.pageSize] at inside ⊢
    omega
  have distance : 8 * index < Address.pageSize := by omega
  have below := frame.frame_below
  have aligned := frame.isAligned_frame
  have sum := aligned.toNat_add distance
  refine Touch.inside ?_ ?_
  · rw [sum]
    rw [Address.isAligned_iff] at aligned
    simp only [Address.pageSize, Address.physicalLimit, Nat.reduceShiftLeft] at aligned below distance ⊢
    omega
  · rw [aligned.offset_add distance]
    exact within

/-- A piece of a range ends in the page that it begins in. -/
theorem Chunk.inside_split {base : Address} {start remaining : Nat} {chunk : Chunk}
    (member : chunk ∈ splitFrom base start remaining) :
    chunk.address.offset + chunk.length ≤ Address.pageSize := by
  induction remaining using Nat.strongRecOn generalizing start with
  | ind remaining ih =>
    by_cases more : remaining = 0
    · rw [more, splitFrom_zero] at member
      cases member
    · obtain ⟨length, positive, within, inside, split⟩ := splitFrom_more base start more
      rw [split] at member
      obtain _ | ⟨_, later⟩ := member
      · exact inside
      · exact ih (remaining - length) (by omega) later

namespace Bus.Bounded

variable {bus : Bus σ} {kept : σ → Prop} {fails : MemoryError → Prop}

theorem presentEntry (bounded : bus.Bounded kept fails) (gva : Address) (level : Nat) (frame : Entry) :
    Access.Meets kept fails (fun _ => True) (bus.presentEntry gva level frame.frame) := by
  have inside := Touch.inside_entry frame (Address.index_lt level gva)
  have read : Access.Meets kept fails (fun _ => True) (bus.readEntry frame.frame (gva.index level)) :=
    (bounded.read _ 8 inside).bind fun _ _ => .pure trivial
  refine read.bind fun entry _ => ?_
  split
  · exact .pure trivial
  · exact .throw (bounded.unmapped gva)

theorem walk (bounded : bus.Bounded kept fails) (gva : Address) (level : Nat) (frame : Entry) :
    Access.Meets kept fails (fun target => ∃ (entry : Entry) (size : PageSize), target = entry.target size gva)
      (bus.walk gva level frame.frame) := by
  induction level generalizing frame with
  | zero => exact (bounded.presentEntry gva 0 frame).bind fun entry _ => .pure ⟨entry, .size4K, rfl⟩
  | succ level ih =>
    refine (bounded.presentEntry gva (level + 1) frame).bind fun entry _ => ?_
    split
    next size _ => exact .pure ⟨entry, size, rfl⟩
    next => exact ih entry

theorem lookup (bounded : bus.Bounded kept fails) (cr3 gva : Address) :
    Access.Meets kept fails (fun target => ∃ (entry : Entry) (size : PageSize), target = entry.target size gva)
      (bus.lookup cr3 gva) := by
  unfold Bus.lookup
  split
  · exact bounded.walk gva 3 cr3
  · exact .throw (bounded.nonCanonical gva)

/-- The physical address is as far into its page as the virtual one. -/
theorem physical (bounded : bus.Bounded kept fails) (cr3 gva : Address) :
    Access.Meets kept fails (fun gpa => gpa.toNat < Address.physicalLimit ∧ gpa.offset = gva.offset)
      (bus.physical cr3 gva) := by
  refine (bounded.lookup cr3 gva).bind ?_
  rintro _ ⟨entry, size, rfl⟩
  exact .pure ⟨entry.target_below size gva, entry.offset_target size gva⟩

theorem readChunks (bounded : bus.Bounded kept fails) (cr3 : Address) (chunks : List Chunk)
    (pieces : ∀ chunk ∈ chunks, chunk.address.offset + chunk.length ≤ Address.pageSize) :
    Access.Meets kept fails (fun _ => True) (bus.readChunks cr3 chunks) := by
  induction chunks with
  | nil => exact .pure trivial
  | cons chunk rest ih =>
    refine (bounded.physical cr3 chunk.address).bind fun gpa reached => ?_
    have fits : gpa.offset + chunk.length ≤ Address.pageSize := reached.2 ▸ pieces chunk List.mem_cons_self
    refine (bounded.read gpa chunk.length (Touch.inside reached.1 fits)).bind fun _ _ => ?_
    exact (ih fun other member => pieces other (List.mem_cons_of_mem _ member)).bind fun _ _ => .pure trivial

theorem writeChunks (bounded : bus.Bounded kept fails) (cr3 : Address) (data : List UInt8) (chunks : List Chunk)
    (pieces : ∀ chunk ∈ chunks, chunk.address.offset + chunk.length ≤ Address.pageSize) :
    Access.Meets kept fails (fun _ => True) (bus.writeChunks cr3 data chunks) := by
  induction chunks with
  | nil => exact .pure trivial
  | cons chunk rest ih =>
    refine (bounded.physical cr3 chunk.address).bind fun gpa reached => ?_
    have fits : gpa.offset + (chunk.slice data).length ≤ Address.pageSize := by
      have piece := pieces chunk List.mem_cons_self
      have short : (chunk.slice data).length ≤ chunk.length := List.length_take_le _ _
      rw [reached.2]
      omega
    refine (bounded.write gpa (chunk.slice data) (Touch.inside reached.1 fits)).bind fun _ _ => ?_
    exact ih fun other member => pieces other (List.mem_cons_of_mem _ member)

end Bus.Bounded

/-- An access that goes through a page table. -/
inductive VirtualAccess where
  | lookup (cr3 gva : Address)
  | physical (cr3 gva : Address)
  | read (cr3 gva : Address) (length : Nat)
  | write (cr3 gva : Address) (data : List UInt8)

def VirtualAccess.command : VirtualAccess → BusCommand
  | lookup cr3 gva => .lookup cr3 gva
  | physical cr3 gva => .physical cr3 gva
  | read cr3 gva length => .readVirtual cr3 gva length
  | write cr3 gva data => .writeVirtual cr3 gva data

/-- A read for which there is no buffer. -/
def VirtualAccess.Oversized (access : VirtualAccess) (length : Nat) : Prop :=
  Bus.bufferLimit < length ∧ ∃ cr3 gva, access = read cr3 gva length

namespace Bus.Bounded

variable {bus : Bus σ} {kept : σ → Prop} {fails : MemoryError → Prop}

theorem run (bounded : bus.Bounded kept fails) {access : VirtualAccess}
    (oversized : ∀ length, access.Oversized length → fails (.noRoom length)) :
    Access.Meets kept fails (fun _ => True) (bus.run access.command) := by
  cases access with
  | lookup cr3 gva => exact (bounded.lookup cr3 gva).bind fun _ _ => .pure trivial
  | physical cr3 gva => exact (bounded.physical cr3 gva).bind fun _ _ => .pure trivial
  | read cr3 gva length =>
    have whole : Access.Meets kept fails (fun _ => True) (bus.readVirtual cr3 gva length) := by
      rw [Bus.readVirtual]
      split
      next long => exact .throw (oversized length ⟨long, cr3, gva, rfl⟩)
      next => exact bounded.readChunks cr3 _ fun _ => Chunk.inside_split
    exact whole.bind fun _ _ => .pure trivial
  | write cr3 gva data =>
    exact (bounded.writeChunks cr3 data _ fun _ => Chunk.inside_split).bind fun _ _ => .pure trivial

/-- A watched bus keeps its accesses inside pages. -/
theorem watched (bounded : bus.Bounded kept fails) : bus.watched.Bounded (Watched.Confined kept) fails where
  read gpa length inside := Watched.meets_noting inside (bounded.read gpa length inside)
  write gpa data inside := Watched.meets_noting inside (bounded.write gpa data inside)
  unmapped := bounded.unmapped
  nonCanonical := bounded.nonCanonical

end Bus.Bounded

/-- A virtual access ends watched as it ends unwatched. It makes physical accesses inside single pages only, and
fails only for certain reasons. -/
structure Bus.Confines (bus : Bus σ) (fails : MemoryError → Prop) (access : VirtualAccess) (memory : σ) : Prop where
  same : Watched.comparison.Agree (bus.watched.run access.command { memory }) (bus.run access.command memory)
  inside : ∀ touch ∈ (Access.after (bus.watched.run access.command) { memory }).touches, touch.Inside
  fails : ∀ error later, bus.run access.command memory = .error error later → fails error

theorem Bus.Bounded.confines {bus : Bus σ} {kept : σ → Prop} {fails : MemoryError → Prop}
    (bounded : bus.Bounded kept fails) {access : VirtualAccess}
    (oversized : ∀ length, access.Oversized length → fails (.noRoom length)) {memory : σ} (start : kept memory) :
    bus.Confines fails access memory where
  same := bus.linked_watched.run access.command { memory } memory rfl
  inside := ((bounded.watched.run oversized).keeps ⟨start, fun _ none => absurd none List.not_mem_nil⟩).inside
  fails _ _ failed := (bounded.run oversized).reason start failed

theorem Bus.Confines.mono {bus : Bus σ} {fails wider : MemoryError → Prop} {access : VirtualAccess} {memory : σ}
    (confines : bus.Confines fails access memory) (covers : ∀ error, fails error → wider error) :
    bus.Confines wider access memory :=
  { confines with fails := fun error later failed => covers error (confines.fails error later failed) }

/-- Why a virtual access to the bound pages can fail. -/
inductive BoundFailure (access : VirtualAccess) : MemoryError → Prop where
  | nonCanonical (gva : Address) : BoundFailure access (.nonCanonical gva)
  | unmapped (gva : Address) : BoundFailure access (.unmapped gva)
  | unbound (gpa : Address) : BoundFailure access (.unbound gpa)
  | noRoom {length : Nat} (oversized : access.Oversized length) : BoundFailure access (.noRoom length)

/-- Why a virtual access can fail when pages are brought in on demand. A page that is listed and does not come is
reported by one of the errors `refusal`. -/
inductive PagedFailure (refusal : MemoryError → Prop) (access : VirtualAccess) : MemoryError → Prop where
  | nonCanonical (gva : Address) : PagedFailure refusal access (.nonCanonical gva)
  | unmapped (gva : Address) : PagedFailure refusal access (.unmapped gva)
  | missingPage (page : Address) : PagedFailure refusal access (.missingPage page)
  | undelivered {error : MemoryError} (refused : refusal error) : PagedFailure refusal access error
  | noRoom {length : Nat} (oversized : access.Oversized length) : PagedFailure refusal access (.noRoom length)

theorem PagedFailure.mono {refusal wider : MemoryError → Prop} {access : VirtualAccess} {error : MemoryError}
    (failure : PagedFailure refusal access error) (covers : ∀ error, refusal error → wider error) :
    PagedFailure wider access error := by
  cases failure with
  | nonCanonical gva => exact .nonCanonical gva
  | unmapped gva => exact .unmapped gva
  | missingPage page => exact .missingPage page
  | undelivered refused => exact .undelivered (covers error refused)
  | noRoom oversized => exact .noRoom oversized

theorem Touch.Inside.fits {gpa : Address} {length : Nat} (inside : Touch.Inside ⟨gpa, length⟩) :
    ¬Address.pageSize - gpa.offset < length := by
  have page := inside.page
  dsimp only at page
  omega

theorem Space.bounded (access : VirtualAccess) : Space.bus.Bounded (fun _ => True) (BoundFailure access) where
  read gpa length inside := by
    constructor
    intro space _
    rw [read_eq, if_neg inside.fits]
    cases space.page? gpa with
    | some page => exact ⟨trivial, trivial⟩
    | none => exact ⟨trivial, .unbound gpa⟩
  write gpa data inside := by
    constructor
    intro space _
    rw [write_eq, if_neg inside.fits]
    cases space.page? gpa with
    | some page => exact ⟨trivial, trivial⟩
    | none => exact ⟨trivial, .unbound gpa⟩
  unmapped := .unmapped
  nonCanonical := .nonCanonical

namespace Paged

variable {S : Type} [PageSource S]

/-- Memory that pages in from this source. -/
def Reads (source : S) (memory : Paged (Pager S)) : Prop :=
  memory.resolver.source = source

/-- An access that succeeds on a bound page fails only if its page does not come. -/
theorem meets_ensure_then (source : S) (virtual : VirtualAccess) (gpa : Address) {access : Access Space α}
    (granted : ∀ space : Space, space.isBound gpa → ∃ value later, access space = .ok value later) :
    Access.Meets (Reads source) (PagedFailure (PageSource.Refuses source) virtual) (fun _ => True)
      (ensure gpa >>= fun _ => onSpace access) := by
  constructor
  rintro memory rfl
  obtain ⟨pages, middle, ensured, brings, bound⟩ | ⟨page, later, ensured, brings⟩ |
    ⟨error, later, ensured, refused, brings⟩ := ensure_cases memory gpa
  · obtain ⟨value, space, done⟩ := granted middle.space bound
    rw [Access.bind_ok ensured, onSpace_ok done]
    exact ⟨brings.source, trivial⟩
  · rw [Access.bind_error ensured]
    exact ⟨brings.source, .missingPage page⟩
  · rw [Access.bind_error ensured]
    exact ⟨brings.source, .undelivered refused⟩

theorem bounded (source : S) (access : VirtualAccess) :
    bus.Bounded (Reads source) (PagedFailure (PageSource.Refuses source) access) where
  read gpa length inside := by
    have granted : ∀ space : Space, space.isBound gpa →
        ∃ bytes later, Space.bus.read gpa length space = .ok bytes later := by
      intro space bound
      obtain ⟨page, held⟩ := Space.exists_page bound
      exact ⟨_, _, Space.read_page held inside.fits⟩
    constructor
    intro memory same
    rw [read_eq, if_neg inside.fits]
    exact (meets_ensure_then source access gpa granted).outcome memory same
  write gpa data inside := by
    have granted : ∀ space : Space, space.isBound gpa →
        ∃ done later, Space.bus.write gpa data space = .ok done later := by
      intro space bound
      obtain ⟨page, held⟩ := Space.exists_page bound
      exact ⟨_, _, Space.write_page held inside.fits⟩
    constructor
    intro memory same
    rw [write_eq, if_neg inside.fits]
    exact (meets_ensure_then source access gpa granted).outcome memory same
  unmapped := .unmapped
  nonCanonical := .nonCanonical

end Paged

/-- Whatever memory holds, an access through a page table makes physical accesses inside single pages of physical
memory only. On bound pages it fails for an address that is not canonical, is not mapped or has no memory; where
pages are brought in on demand, for an address that is not canonical or not mapped, for a page that is missing, or
as the source says of a page that it lists and does not deliver: that it could not be read, if the source reports
such pages so. Besides, a read may be longer than any buffer. -/
theorem virtual_accesses_stay_inside {S : Type} [PageSource S] (access : VirtualAccess) :
    (∀ space, Space.bus.Confines (BoundFailure access) access space) ∧
    ∀ memory : Paged (Pager S),
      Paged.bus.Confines (PagedFailure (PageSource.Refuses memory.resolver.source) access) access memory ∧
      (PageSource.Reports memory.resolver.source →
        Paged.bus.Confines (PagedFailure MemoryError.IsSnapshotRead access) access memory) := by
  constructor
  · intro space
    exact (Space.bounded access).confines (fun _ => .noRoom) trivial
  · intro memory
    have confines := (Paged.bounded memory.resolver.source access).confines (fun _ => .noRoom) rfl
    refine ⟨confines, fun reports => confines.mono fun error failure => ?_⟩
    exact failure.mono fun _ refuses => reports.isSnapshotRead refuses

/-- A snapshot whose page table leads from one page to itself on all levels. -/
def Snapshot.selfMapped : Snapshot :=
  Snapshot.load {} 0x1000 (Word.toBytes 0x1003)

/-- The write overwrites the entry that it goes through. -/
theorem virtual_accesses_stay_inside_selfMapped :
    let memory : Paged (Pager Snapshot) := ⟨{ source := .selfMapped }, {}⟩
    let access : VirtualAccess := .write 0x1000 0 (List.replicate 0x1001 0xFF)
    PageSource.Reports memory.resolver.source ∧
    Paged.bus.Confines (PagedFailure MemoryError.IsSnapshotRead access) access memory := by
  intro memory access
  have reports := Snapshot.selfMapped.reports
  exact ⟨reports, ((virtual_accesses_stay_inside access).2 memory).2 reports⟩

end GuestResume
