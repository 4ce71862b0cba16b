import GuestResume.Proofs.ResolverRequests

/-! Paged memory while no page is missing. Whoever resolves missing pages, an access that the bound pages can
answer is answered from them alone, failures included, and nobody is asked. The first page that is missing is
asked for in the memory that the access has made by then; a resolver that agrees and changes nothing leaves the
access where it would fail without one. -/

namespace GuestResume

variable {η α β : Type} [Resolver η]

namespace Paged

/-- How an operation on paged memory keeps to the same operation on the bound pages: it leaves the resolver
alone up to the first missing page, and the resolver decides only what comes of that. -/
structure Follows (paged : Access (Paged η) α) (plain : Access Space α) : Prop where
  resident : ∀ memory, (∀ gpa later, plain memory.space ≠ .error (.unbound gpa) later) →
    paged memory = onSpace plain memory
  missing : ∀ space gpa later, plain space = .error (.unbound gpa) later → ¬later.isBound gpa
  refused : ∀ memory gpa space, plain memory.space = .error (.unbound gpa) space →
    match Resolver.resolve gpa { memory with space } with
    | .ok () later => ¬later.space.isBound gpa → paged memory = .error (.unbound gpa) later
    | .error error later => paged memory = .error error later

namespace Follows

theorem pure (value : α) : Follows (Pure.pure value : Access (Paged η) α) (Pure.pure value) where
  resident _ _ := rfl
  missing _ _ _ missed := nomatch missed
  refused _ _ _ missed := nomatch missed

/-- An operation that fails alike on both memories, and not for a missing page. -/
theorem fails {paged : Access (Paged η) α} {plain : Access Space α} (error : MemoryError)
    (other : ∀ gpa, error ≠ .unbound gpa) (first : ∀ memory, paged memory = .error error memory)
    (second : ∀ space, plain space = .error error space) : Follows paged plain := by
  have never : ∀ {space gpa later}, plain space ≠ .error (.unbound gpa) later := by
    intro space gpa later missed
    rw [second] at missed
    cases missed
    exact other gpa rfl
  exact {
    resident := fun memory _ => by rw [first, onSpace_error (second memory.space)]
    missing := fun _ _ _ missed => absurd missed never
    refused := fun _ _ _ missed => absurd missed never }

theorem bind {paged : Access (Paged η) α} {plain : Access Space α} {next : α → Access (Paged η) β}
    {further : α → Access Space β} (start : Follows paged plain)
    (continued : ∀ value, Follows (next value) (further value)) :
    Follows (paged >>= next) (plain >>= further) where
  resident memory reached := by
    cases done : plain memory.space with
    | ok value space =>
      have first := start.resident memory fun gpa later missed => nomatch done.symm.trans missed
      rw [onSpace_ok done] at first
      have rest : ∀ gpa later, further value space ≠ .error (.unbound gpa) later := by
        intro gpa later missed
        exact reached gpa later ((Access.bind_ok done).trans missed)
      have second := (continued value).resident { memory with space } rest
      rw [Access.bind_ok first, second, onSpace, onSpace, Access.bind_ok done]
    | error error space =>
      have first := start.resident memory fun gpa later missed => reached gpa later (Access.bind_error missed)
      rw [onSpace_error done] at first
      rw [Access.bind_error first, onSpace_error (Access.bind_error done)]
  missing space gpa later missed := by
    cases done : plain space with
    | ok value middle => exact (continued value).missing middle gpa later ((Access.bind_ok done).symm.trans missed)
    | error error middle =>
      rw [Access.bind_error done] at missed
      cases missed
      exact start.missing space gpa later done
  refused memory gpa space missed := by
    cases done : plain memory.space with
    | ok value middle =>
      have first := start.resident memory fun gpa later missed => nomatch done.symm.trans missed
      rw [onSpace_ok done] at first
      rw [Access.bind_ok done] at missed
      rw [Access.bind_ok first]
      exact (continued value).refused { memory with space := middle } gpa space missed
    | error error middle =>
      rw [Access.bind_error done] at missed
      cases missed
      have stopped := start.refused memory gpa space done
      split
      next later resolved =>
        rw [resolved] at stopped
        exact fun free => Access.bind_error (stopped free)
      next error later resolved =>
        rw [resolved] at stopped
        exact Access.bind_error stopped

/-- An access that is granted once its page is bound needs no other page. -/
theorem ensured {gpa : Address} {access : Access Space α}
    (missing : ∀ space : Space, ¬space.isBound gpa → access space = .error (.unbound gpa) space)
    (granted : ∀ space : Space, space.isBound gpa → ∃ value later, access space = .ok value later) :
    Follows (ensure gpa >>= fun _ => onSpace access : Access (Paged η) α) access := by
  have misses : ∀ {space other later}, access space = .error (.unbound other) later →
      ¬space.isBound gpa ∧ other = gpa ∧ later = space := by
    intro space other later missed
    by_cases bound : space.isBound gpa
    · obtain ⟨value, after, done⟩ := granted space bound
      exact nomatch done.symm.trans missed
    · cases (missing space bound).symm.trans missed
      exact ⟨bound, rfl, rfl⟩
  constructor
  case resident =>
    intro memory reached
    have bound : memory.space.isBound gpa := by
      by_contra free
      exact reached gpa memory.space (missing memory.space free)
    exact Access.bind_ok (ensure_bound bound)
  case missing =>
    intro space other later missed
    obtain ⟨free, rfl, rfl⟩ := misses missed
    exact free
  case refused =>
    intro memory other space missed
    obtain ⟨free, rfl, rfl⟩ := misses missed
    split
    next later resolved =>
      intro still
      have asked : ensure other memory = .error (.unbound other) later := by
        rw [ensure_unbound free, Access.bind_ok resolved, expect_eq, if_neg still]
      exact Access.bind_error asked
    next error later resolved =>
      have asked : ensure other memory = .error error later := by
        rw [ensure_unbound free, Access.bind_error resolved]
      exact Access.bind_error asked

/-- The check for the end of the page comes first on both memories. -/
theorem checked {gpa : Address} {length : Nat} {paged : Access (Paged η) α} {access : Access Space α}
    (first : ∀ memory, paged memory =
      if Address.pageSize - gpa.offset < length then .error (.crossesPage gpa length) memory
      else (ensure gpa >>= fun _ => onSpace access) memory)
    (crossing : Address.pageSize - gpa.offset < length →
      ∀ space, access space = .error (.crossesPage gpa length) space)
    (missing : ¬Address.pageSize - gpa.offset < length →
      ∀ space : Space, ¬space.isBound gpa → access space = .error (.unbound gpa) space)
    (granted : ¬Address.pageSize - gpa.offset < length →
      ∀ space : Space, space.isBound gpa → ∃ value later, access space = .ok value later) :
    Follows paged access := by
  by_cases crosses : Address.pageSize - gpa.offset < length
  · refine fails (.crossesPage gpa length) (fun _ same => nomatch same) (fun memory => ?_) (crossing crosses)
    rw [first, if_pos crosses]
  · have same : paged = (ensure gpa >>= fun _ => onSpace access) := by
      funext memory
      rw [first, if_neg crosses]
    exact same ▸ ensured (missing crosses) (granted crosses)

/-- Following survives sequencing, so it reaches everything that is put together from accesses. -/
abbrev congruence : Congruence (Paged η) Space where
  related := Follows
  pure := pure
  bind := bind

end Follows

open Follows

theorem follows_locate (gpa : Address) :
    Follows (bus.locate gpa : Access (Paged η) (Page × Nat)) (Space.bus.locate gpa) := by
  apply ensured
  · intro space free
    rw [Space.locate_eq, Space.page?_of_free free]
  · intro space bound
    obtain ⟨page, held⟩ := Space.exists_page bound
    exact ⟨_, _, by rw [Space.locate_eq, held]⟩

theorem follows_read (gpa : Address) (length : Nat) :
    Follows (bus.read gpa length : Access (Paged η) (List UInt8)) (Space.bus.read gpa length) := by
  apply checked fun memory => read_eq memory gpa length
  · intro crosses space
    rw [Space.read_eq, if_pos crosses]
  · intro fits space free
    rw [Space.read_eq, if_neg fits, Space.page?_of_free free]
  · intro fits space bound
    obtain ⟨page, held⟩ := Space.exists_page bound
    exact ⟨_, _, Space.read_page held fits⟩

theorem follows_write (gpa : Address) (data : List UInt8) :
    Follows (bus.write gpa data : Access (Paged η) Unit) (Space.bus.write gpa data) := by
  apply checked fun memory => write_eq memory gpa data
  · intro crosses space
    rw [Space.write_eq, if_pos crosses]
  · intro fits space free
    rw [Space.write_eq, if_neg fits, Space.page?_of_free free]
  · intro fits space bound
    obtain ⟨page, held⟩ := Space.exists_page bound
    exact ⟨_, _, Space.write_page held fits⟩

theorem linked_follows : Bus.Linked (congruence (η := η)) bus Space.bus where
  locate := follows_locate
  read := follows_read
  write := follows_write
  unmapped gva := fails (.unmapped gva) (fun _ same => nomatch same) (fun _ => rfl) fun _ => rfl
  nonCanonical gva := fails (.nonCanonical gva) (fun _ same => nomatch same) (fun _ => rfl) fun _ => rfl
  noRoom length := fails (.noRoom length) (fun _ same => nomatch same) (fun _ => rfl) fun _ => rfl

theorem follows_run (command : BusCommand) :
    Follows (bus.run command : Access (Paged η) MemoryReply) (Space.bus.run command) :=
  linked_follows.run command

end Paged

/-- Whatever resolves missing pages, an access through it that does not miss a page on the bound pages alone does
the same as there: it has the same result, the space is the same after it, also where it fails half way, and
the resolver is the same as before and has been asked for nothing. An access that does miss a page asks for
it in the memory as it is then. If the resolver agrees and leaves the space alone, the access fails for the
same address as on the bound pages; if the resolver fails, so does the access. -/
theorem resident_memory_unpaged (resolver : η) (space : Space) (command : BusCommand) :
    ((∀ gpa later, Space.bus.run command space ≠ .error (.unbound gpa) later) →
      Paged.bus.run command ⟨resolver, space⟩ = Paged.onSpace (Space.bus.run command) ⟨resolver, space⟩ ∧
      let unasked : Logged η := { resolver, requests := [] }
      Paged.bus.run command ⟨unasked, space⟩ = Paged.onSpace (Space.bus.run command) ⟨unasked, space⟩) ∧
    ∀ gpa later, Space.bus.run command space = .error (.unbound gpa) later →
      match Resolver.resolve gpa ⟨resolver, later⟩ with
      | .ok () memory =>
        memory.space = later → Paged.bus.run command ⟨resolver, space⟩ = .error (.unbound gpa) memory
      | .error error memory => Paged.bus.run command ⟨resolver, space⟩ = .error error memory := by
  have follows := Paged.follows_run (η := η) command
  refine ⟨fun reached => ⟨follows.resident _ reached, (Paged.follows_run command).resident _ reached⟩, ?_⟩
  intro gpa later missed
  have refused := follows.refused ⟨resolver, space⟩ gpa later missed
  split
  next memory resolved =>
    rintro rfl
    rw [resolved] at refused
    exact refused (follows.missing space gpa memory.space missed)
  next error memory resolved =>
    rw [resolved] at refused
    exact refused

/-- One page of memory, all zero. -/
def Space.onePage : Space where
  bound := (∅ : Std.TreeMap Address Page).insert 0x1000 .zero

/-- Through a resolver that binds nothing: an access inside the page, one that reaches beyond its end, and one to
a page that is missing. -/
theorem resident_memory_unpaged_onePage :
    let memory : Paged IdleResolver := ⟨{}, Space.onePage⟩
    Paged.bus.run (.read 0x1FFE 2) memory = .ok (.bytes [0, 0]) memory ∧
    Paged.bus.run (.write 0x1FFE [1, 2, 3]) memory = .error (.crossesPage 0x1FFE 3) memory ∧
    Paged.bus.run (.locate 0x2000) memory = .error (.unbound 0x2000) memory := by
  intro memory
  have start : Address.pageStart 0x1FFE = 0x1000 := by decide
  have held : Space.onePage.page? 0x1FFE = some .zero := by
    rw [Space.page?, start]
    exact Std.TreeMap.getElem?_insert_self
  have free : Space.onePage.page? 0x2000 = none :=
    Std.TreeMap.getElem?_eq_none (by rw [Space.onePage, Std.TreeMap.mem_insert]; decide)
  have zeros : Page.zero.read (Address.offset 0x1FFE) 2 = [0, 0] := by simp [Page.read, List.range'_succ]
  have read : Space.bus.run (.read 0x1FFE 2) Space.onePage = .ok (.bytes [0, 0]) Space.onePage := by
    rw [← zeros]
    exact Access.bind_ok (Space.read_page held (by decide))
  have crossing : Space.bus.run (.write 0x1FFE [1, 2, 3]) Space.onePage =
      .error (.crossesPage 0x1FFE 3) Space.onePage :=
    Access.bind_error ((Space.write_eq ..).trans (if_pos (by decide)))
  have missing : Space.bus.run (.locate 0x2000) Space.onePage = .error (.unbound 0x2000) Space.onePage := by
    apply Access.bind_error
    rw [Space.locate_eq, free]
  have unpaged := resident_memory_unpaged memory.resolver Space.onePage
  refine ⟨?_, ?_, (unpaged (.locate 0x2000)).2 _ _ missing rfl⟩
  · have same := (unpaged (.read 0x1FFE 2)).1 (by simp [read])
    exact same.1.trans (Paged.onSpace_ok read)
  · have same := (unpaged (.write 0x1FFE [1, 2, 3])).1 (by simp [crossing])
    exact same.1.trans (Paged.onSpace_error crossing)

end GuestResume
