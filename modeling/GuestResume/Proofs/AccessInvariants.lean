import GuestResume.Proofs.BusSimulation
import GuestResume.Proofs.PagedAccess

/-! What every access of a memory keeps. A memory is compared with itself, so that whatever reads and
writes inside a page keep is kept by all that goes through a page table, on the bound pages alone as
well as with a resolver that keeps it too. -/

namespace GuestResume

namespace Comparison

variable {σ α : Type} {kept : σ → Prop}

/-- A memory against itself, with something it has to keep. -/
def keeping (kept : σ → Prop) : Comparison σ σ where
  related first second := first = second ∧ kept first
  reports := Eq

theorem simulates_keeping {operation : Access σ α} :
    (keeping kept).Simulates operation operation ↔
      ∀ state, kept state → kept (Access.after operation state) := by
  constructor
  · intro simulates state holds
    exact (simulates state state ⟨rfl, holds⟩).after.2
  · rintro keeps state _ ⟨rfl, holds⟩
    have later := keeps state holds
    cases done : operation state with
    | ok value after => exact .ok ⟨rfl, Access.after_ok done ▸ later⟩
    | error error after => exact .error rfl ⟨rfl, Access.after_error done ▸ later⟩

theorem keeping_get : (keeping kept).Simulates (get : Access σ σ) get :=
  simulates_keeping.mpr fun _ holds => holds

end Comparison

namespace Space

open Comparison

variable {kept : Space → Prop}

theorem keeping_query {α : Type} (ask : Space → Except MemoryError α) :
    (keeping kept).Simulates (query ask) (query ask) := by
  apply simulates_keeping.mpr
  intro space holds
  have unchanged : Access.after (query ask) space = space := by
    simp only [Access.after, query]
    cases ask space <;> rfl
  rw [unchanged]
  exact holds

theorem keeping_bus (writes : ∀ gpa data space, kept space → kept (Access.after (bus.write gpa data) space)) :
    Bus.Linked (keeping kept).congruence bus bus where
  locate gpa := keeping_query fun space => space.locate gpa
  read gpa length := keeping_query fun space => space.read gpa length
  write gpa data := simulates_keeping.mpr (writes gpa data)
  unmapped _ := simulates_throw rfl
  nonCanonical _ := simulates_throw rfl
  noRoom _ := simulates_throw rfl

end Space

namespace Paged

open Comparison

variable {η : Type} (kept : Space → Prop)

theorem keeping_onSpace {α : Type} {operation : Access Space α}
    (keeps : (keeping kept).Simulates operation operation) :
    (keeping fun memory : Paged η => kept memory.space).Simulates (onSpace operation) (onSpace operation) := by
  apply simulates_keeping.mpr
  intro memory holds
  have later := simulates_keeping.mp keeps memory.space holds
  cases done : operation memory.space with
  | ok value space => rwa [Access.after_ok (onSpace_ok done), ← Access.after_ok done]
  | error error space => rwa [Access.after_error (onSpace_error done), ← Access.after_error done]

variable [Resolver η]

theorem keeping_ensure
    (resolves : ∀ gpa, (keeping fun memory : Paged η => kept memory.space).Simulates
      (Resolver.resolve gpa) (Resolver.resolve gpa)) (gpa : Address) :
    (keeping fun memory : Paged η => kept memory.space).Simulates (ensure gpa) (ensure gpa) := by
  refine keeping_get.bind fun memory => ?_
  split
  · exact simulates_pure ()
  · refine (resolves gpa).bind fun _ => keeping_get.bind fun memory => ?_
    split
    · exact simulates_pure ()
    · exact simulates_throw rfl

theorem keeping_bus
    (resolves : ∀ gpa, (keeping fun memory : Paged η => kept memory.space).Simulates
      (Resolver.resolve gpa) (Resolver.resolve gpa))
    (spaces : Bus.Linked (keeping kept).congruence Space.bus Space.bus) :
    Bus.Linked (keeping fun memory : Paged η => kept memory.space).congruence bus bus where
  locate gpa := (keeping_ensure kept resolves gpa).bind fun _ => keeping_onSpace kept (spaces.locate gpa)
  read gpa length := (keeping_onSpace kept (Space.keeping_query _)).bind fun _ =>
    (keeping_ensure kept resolves gpa).bind fun _ => keeping_onSpace kept (spaces.read gpa length)
  write gpa data := (keeping_onSpace kept (Space.keeping_query _)).bind fun _ =>
    (keeping_ensure kept resolves gpa).bind fun _ => keeping_onSpace kept (spaces.write gpa data)
  unmapped _ := simulates_throw rfl
  nonCanonical _ := simulates_throw rfl
  noRoom _ := simulates_throw rfl

theorem keeping_run
    (resolves : ∀ gpa, (keeping fun memory : Paged η => kept memory.space).Simulates
      (Resolver.resolve gpa) (Resolver.resolve gpa))
    (spaces : Bus.Linked (keeping kept).congruence Space.bus Space.bus) (command : ViewCommand) :
    (keeping fun memory : Paged η => kept memory.space).Simulates (run command) (run command) := by
  cases command with
  | ensure gpa => exact (keeping_ensure kept resolves gpa).bind fun _ => simulates_pure _
  | isBound gpa => exact keeping_get.bind fun _ => simulates_pure _
  | access command => exact (keeping_bus kept resolves spaces).run command

/-- A pager keeps what binding a page of the source and taking back a page keep. -/
theorem keeping_resolve {S : Type} [PageSource S]
    (supplies : ∀ (memory : Paged (Pager S)) gpa content, ¬memory.space.isBound gpa →
      kept memory.space → kept (memory.supplied gpa.pageStart content).space)
    (returns : ∀ memory : Paged (Pager S), kept memory.space → kept memory.returned.space)
    (gpa : Address) :
    (keeping fun memory : Paged (Pager S) => kept memory.space).Simulates
      (Resolver.resolve gpa) (Resolver.resolve gpa) := by
  apply simulates_keeping.mpr
  intro memory holds
  rw [Access.after, resolve_eq]
  by_cases bound : memory.space.isBound gpa
  · rw [if_pos bound]
    exact holds
  · rw [if_neg bound]
    by_cases listed : PageSource.contains memory.resolver.source gpa.pageStart
    · rw [if_pos listed]
      cases PageSource.fetch memory.resolver.source gpa.pageStart with
      | ok content => exact supplies memory gpa content bound holds
      | error error => exact returns memory holds
    · rw [if_neg listed]
      exact holds

theorem isBound_supplied {S : Type} {memory : Paged (Pager S)} {other : Address}
    (bound : memory.space.isBound other) (page : Address) (content : Page) :
    (memory.supplied page content).space.isBound other := by
  rw [Space.isBound_eq] at bound ⊢
  rw [page?_supplied]
  split
  · rfl
  · exact bound

/-- No access unbinds a page. -/
theorem keeping_bound {S : Type} [PageSource S] (other : Address) :
    Bus.Linked (keeping fun memory : Paged (Pager S) => memory.space.isBound other).congruence bus bus := by
  let kept : Space → Prop := fun space => space.isBound other
  refine keeping_bus kept (keeping_resolve kept ?_ fun _ bound => bound) (Space.keeping_bus ?_)
  · exact fun memory gpa content _ bound => isBound_supplied bound gpa.pageStart content
  · exact fun gpa data space bound => Space.isBound_write gpa data bound

end Paged

end GuestResume
