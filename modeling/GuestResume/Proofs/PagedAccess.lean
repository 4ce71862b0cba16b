import GuestResume.Memory.Paged
import GuestResume.Proofs.SpaceAccess

/-! What it takes to bring a page in. A request for a page is counted, and it is answered from the
source, refused because the source has no such page, or given up because the page does not come. In
the last case the page that was taken for it goes back, and the source says why. -/

namespace GuestResume

variable {S η : Type}

namespace PageSource

variable [PageSource S]

/-- The page of an address as the source delivers it. -/
def page? (source : S) (gpa : Address) : Option Page :=
  if contains source gpa.pageStart then (fetch source gpa.pageStart).toOption else none

/-- What the source says about a page that it lists and does not deliver. -/
def Refuses (source : S) (error : MemoryError) : Prop :=
  ∃ page : Address, page.IsAligned ∧ contains source page ∧ fetch source page = .error error

/-- A page that is listed and not delivered is always reported as one that could not be read. -/
def Reports (source : S) : Prop :=
  ∀ page : Address, page.IsAligned → contains source page → ∀ error, fetch source page = .error error →
    ∃ reason, error = .snapshotRead page reason

end PageSource

/-- A page of the snapshot could not be read. -/
def MemoryError.IsSnapshotRead (error : MemoryError) : Prop :=
  ∃ page reason, error = .snapshotRead page reason

theorem PageSource.Reports.isSnapshotRead [PageSource S] {source : S} (reports : PageSource.Reports source)
    {error : MemoryError} (refuses : PageSource.Refuses source error) : error.IsSnapshotRead := by
  obtain ⟨page, aligned, listed, failed⟩ := refuses
  obtain ⟨reason, same⟩ := reports page aligned listed error failed
  exact ⟨page, reason, same⟩

theorem Snapshot.fetch_error {snapshot : Snapshot} {page : Address} {error : MemoryError}
    (failed : PageSource.fetch snapshot page = .error error) : error = .snapshotRead page "page not present" := by
  simp only [PageSource.fetch] at failed
  split at failed
  · cases failed
  · cases failed
    rfl

theorem Snapshot.reports (snapshot : Snapshot) : PageSource.Reports snapshot :=
  fun _ _ _ _ failed => ⟨_, fetch_error failed⟩

theorem ListedSnapshot.reports (source : ListedSnapshot) : PageSource.Reports source :=
  fun _ _ _ _ failed => ⟨_, Snapshot.fetch_error failed⟩

namespace Paged

/-- The resolver has been asked once more. -/
def asked (memory : Paged (Pager S)) : Paged (Pager S) :=
  { memory with resolver := { memory.resolver with requests := memory.resolver.requests + 1 } }

/-- A page was taken from the space, filled and bound. -/
def supplied (memory : Paged (Pager S)) (page : Address) (content : Page) : Paged (Pager S) where
  resolver := { memory.asked.resolver with loaded := memory.resolver.loaded + 1 }
  space := { memory.space.allocate with bound := memory.space.bound.insert page content }

/-- A page was taken from the space and given back. -/
def returned (memory : Paged (Pager S)) : Paged (Pager S) :=
  { memory.asked with space := memory.space.allocate.release }

theorem page?_supplied (memory : Paged (Pager S)) (page other : Address) (content : Page) :
    (memory.supplied page content).space.page? other =
      if page = other.pageStart then some content else memory.space.page? other :=
  Space.page?_bind memory.space.allocate page other content

/-- What the pager does with a request, whether it was necessary or not. -/
theorem resolve_eq [PageSource S] (memory : Paged (Pager S)) (gpa : Address) :
    Resolver.resolve gpa memory =
      if memory.space.isBound gpa then .ok () memory.asked
      else if PageSource.contains memory.resolver.source gpa.pageStart then
        match PageSource.fetch memory.resolver.source gpa.pageStart with
        | .ok content => .ok () (memory.supplied gpa.pageStart content)
        | .error error => .error error memory.returned
      else .error (.missingPage gpa.pageStart) memory.asked := by
  have start : memory.space.isBound gpa.pageStart = memory.space.isBound gpa := by
    rw [Space.isBound, Space.isBound, Address.pageStart_pageStart]
  change (if memory.space.isBound gpa.pageStart then _ else _ : Access (Paged (Pager S)) Unit)
    memory.asked = _
  rw [start]
  split
  · rfl
  next missing =>
    change (if PageSource.contains memory.resolver.source gpa.pageStart then _ else _ :
      Access (Paged (Pager S)) Unit) memory.asked = _
    split
    next present =>
      cases fetched : PageSource.fetch memory.resolver.source gpa.pageStart with
      | error error =>
        simp only [Pager.bringIn, asked, fetched]
        rfl
      | ok content =>
        have free : memory.space.bound.contains gpa.pageStart = false := by
          simpa only [Space.isBound, Bool.not_eq_true] using missing
        simp only [Pager.bringIn, asked, fetched, Space.insert, Space.allocate,
          Address.isAligned_pageStart, not_true_eq_false, if_false, free, Bool.false_eq_true, and_false]
        rfl
    · rfl

theorem ensure_bound [Resolver η] {memory : Paged η} {gpa : Address}
    (bound : memory.space.isBound gpa) : ensure gpa memory = .ok () memory := by
  change (if memory.space.isBound gpa then _ else _ : Access (Paged η) Unit) memory = _
  rw [if_pos bound]
  rfl

/-- Fails if the page of an address is not bound. -/
def expect (gpa : Address) : Access (Paged η) Unit := do
  if (← get).space.isBound gpa then pure () else throw (.unbound gpa)

theorem expect_eq (memory : Paged η) (gpa : Address) :
    expect gpa memory = if memory.space.isBound gpa then .ok () memory else .error (.unbound gpa) memory := by
  change (if memory.space.isBound gpa then _ else _ : Access (Paged η) Unit) memory = _
  split <;> rfl

/-- A page that is not bound is asked for, and has to be bound after that. -/
theorem ensure_unbound [Resolver η] {memory : Paged η} {gpa : Address}
    (missing : ¬memory.space.isBound gpa) :
    ensure gpa memory = (Resolver.resolve gpa >>= fun _ => expect gpa) memory := by
  change (if memory.space.isBound gpa then _ else _ : Access (Paged η) Unit) memory = _
  rw [if_neg missing]
  rfl

/-- A page that is bound is left alone. Otherwise the pager is asked once, and the access fails if the
page does not come. -/
theorem ensure_eq [PageSource S] (memory : Paged (Pager S)) (gpa : Address) :
    ensure gpa memory =
      if memory.space.isBound gpa then .ok () memory
      else if PageSource.contains memory.resolver.source gpa.pageStart then
        match PageSource.fetch memory.resolver.source gpa.pageStart with
        | .ok content => .ok () (memory.supplied gpa.pageStart content)
        | .error error => .error error memory.returned
      else .error (.missingPage gpa.pageStart) memory.asked := by
  by_cases bound : memory.space.isBound gpa
  · rw [ensure_bound bound, if_pos bound]
  · rw [ensure_unbound bound, if_neg bound]
    have resolved := resolve_eq memory gpa
    rw [if_neg bound] at resolved
    by_cases present : PageSource.contains memory.resolver.source gpa.pageStart
    · rw [if_pos present] at resolved ⊢
      cases fetched : PageSource.fetch memory.resolver.source gpa.pageStart with
      | error error =>
        simp only [fetched] at resolved
        exact Access.bind_error resolved
      | ok content =>
        simp only [fetched] at resolved
        have now : (memory.supplied gpa.pageStart content).space.isBound gpa := by
          rw [Space.isBound_eq, page?_supplied, if_pos rfl]
          rfl
        rw [Access.bind_ok resolved, expect_eq, if_pos now]
    · rw [if_neg present] at resolved ⊢
      exact Access.bind_error resolved

theorem onSpace_ok {α : Type} {operation : Access Space α} {memory : Paged η} {value : α} {space : Space}
    (done : operation memory.space = .ok value space) :
    onSpace operation memory = .ok value { memory with space } := by
  rw [onSpace, done]

theorem onSpace_error {α : Type} {operation : Access Space α} {memory : Paged η} {error : MemoryError}
    {space : Space} (failed : operation memory.space = .error error space) :
    onSpace operation memory = .error error { memory with space } := by
  rw [onSpace, failed]

/-- An access that crosses a page ends before anything else is done. -/
private theorem checked_eq {α : Type} (memory : Paged η) (gpa : Address) (length : Nat)
    (access : Access (Paged η) α) :
    (onSpace (Space.query fun _ => Space.inPage gpa length) >>= fun _ => access) memory =
      if Address.pageSize - gpa.offset < length then .error (.crossesPage gpa length) memory
      else access memory := by
  by_cases crosses : Address.pageSize - gpa.offset < length
  · have refused : Space.query (fun _ => Space.inPage gpa length) memory.space =
        .error (.crossesPage gpa length) memory.space := by
      simp only [Space.query, Space.inPage, if_pos crosses]
    rw [if_pos crosses]
    exact Access.bind_error (onSpace_error refused)
  · have granted : Space.query (fun _ => Space.inPage gpa length) memory.space = .ok () memory.space := by
      simp only [Space.query, Space.inPage, if_neg crosses]
    rw [if_neg crosses]
    exact Access.bind_ok (onSpace_ok granted)

theorem read_eq [Resolver η] (memory : Paged η) (gpa : Address) (length : Nat) :
    bus.read gpa length memory =
      if Address.pageSize - gpa.offset < length then .error (.crossesPage gpa length) memory
      else (ensure gpa >>= fun _ => onSpace (Space.bus.read gpa length)) memory :=
  checked_eq memory gpa length _

theorem write_eq [Resolver η] (memory : Paged η) (gpa : Address) (data : List UInt8) :
    bus.write gpa data memory =
      if Address.pageSize - gpa.offset < data.length then .error (.crossesPage gpa data.length) memory
      else (ensure gpa >>= fun _ => onSpace (Space.bus.write gpa data)) memory :=
  checked_eq memory gpa data.length _

end Paged

end GuestResume
