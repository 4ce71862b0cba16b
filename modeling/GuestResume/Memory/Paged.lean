import GuestResume.Memory.Space
import GuestResume.Memory.Snapshot

/-! Demand paging. A page that is needed and not bound is asked of a resolver once, and has to be
bound after that. -/

namespace GuestResume

structure Paged (η : Type) where
  resolver : η
  space : Space := {}

/-- Is asked for the page of an address that is not bound. It may bind pages and change itself. -/
class Resolver (η : Type) where
  resolve : Address → Access (Paged η) Unit

namespace Paged

variable {η : Type}

/-- Runs an operation on the space alone. -/
def onSpace {α : Type} (operation : Access Space α) : Access (Paged η) α := fun memory =>
  match operation memory.space with
  | .ok value space => .ok value { memory with space }
  | .error error space => .error error { memory with space }

/-- Makes sure that the page of an address is bound. -/
def ensure [Resolver η] (gpa : Address) : Access (Paged η) Unit := do
  if (← get).space.isBound gpa then pure ()
  else
    Resolver.resolve gpa
    if (← get).space.isBound gpa then pure () else throw (.unbound gpa)

/-- Reaches the bound pages and those that the resolver binds on demand. -/
def bus [Resolver η] : Bus (Paged η) where
  locate gpa := do
    ensure gpa
    onSpace (Space.bus.locate gpa)
  read gpa length := do
    onSpace (Space.query fun _ => Space.inPage gpa length)
    ensure gpa
    onSpace (Space.bus.read gpa length)
  write gpa data := do
    onSpace (Space.query fun _ => Space.inPage gpa data.length)
    ensure gpa
    onSpace (Space.bus.write gpa data)

end Paged

/-- Agrees to everything and binds nothing. -/
structure IdleResolver where
  deriving DecidableEq

instance : Resolver IdleResolver where
  resolve _ := pure ()

/-- Brings pages in from a snapshot, and counts how often it was asked and how many it brought. -/
structure Pager (S : Type) where
  source : S
  requests : Nat := 0
  loaded : Nat := 0

namespace Pager

variable {S : Type} [PageSource S]

/-- The space gives out a page for the content. It is taken back if the content does not come, and the
caller is told what the source says. -/
def bringIn (page : Address) : Access (Paged (Pager S)) Unit := fun memory =>
  let space := memory.space.allocate
  match PageSource.fetch memory.resolver.source page with
  | .error error => .error error { memory with space := space.release }
  | .ok content =>
    match Space.insert page content space with
    | .error error space => .error error { memory with space }
    | .ok _ space =>
      .ok () { resolver := { memory.resolver with loaded := memory.resolver.loaded + 1 }, space }

instance : Resolver (Pager S) where
  resolve gpa := do
    let page := gpa.pageStart
    modify fun memory =>
      { memory with resolver := { memory.resolver with requests := memory.resolver.requests + 1 } }
    let memory ← get
    if memory.space.isBound page then pure ()
    else if PageSource.contains memory.resolver.source page then bringIn page
    else throw (.missingPage page)

end Pager

end GuestResume
