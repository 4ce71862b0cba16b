import GuestResume.Proofs.AccessInvariants

/-! When a resolver is asked. A resolver that writes its requests down, with whether the page was bound
at that moment, answers like the resolver without the log. The two are compared access by access, and
the log shows that only pages that are not bound are ever asked for. -/

namespace GuestResume

variable {η α : Type}

/-- An address that a resolver was asked for, and whether its page was bound at that moment. -/
structure Request where
  gpa : Address
  bound : Bool

structure Logged (η : Type) where
  resolver : η
  requests : List Request := []

namespace Paged

def unlogged (memory : Paged (Logged η)) : Paged η where
  resolver := memory.resolver.resolver
  space := memory.space

def logged (memory : Paged η) (requests : List Request) : Paged (Logged η) where
  resolver := { resolver := memory.resolver, requests }
  space := memory.space

end Paged

/-- Writes a request down and passes it on. -/
instance [Resolver η] : Resolver (Logged η) where
  resolve gpa memory :=
    let requests := memory.resolver.requests ++ [⟨gpa, memory.space.isBound gpa⟩]
    match Resolver.resolve gpa memory.unlogged with
    | .ok () later => .ok () (later.logged requests)
    | .error error later => .error error (later.logged requests)

/-- Memory with a log against memory without, where the log has no page that was bound. -/
def Logged.comparison : Comparison (Paged (Logged η)) (Paged η) where
  related noted memory :=
    noted.unlogged = memory ∧ ∀ request ∈ noted.resolver.requests, request.bound = false
  reports := Eq

namespace Logged

open Comparison

theorem related_logged (memory : Paged η) {requests : List Request}
    (missing : ∀ request ∈ requests, request.bound = false) :
    Logged.comparison.related (memory.logged requests) memory :=
  ⟨rfl, missing⟩

theorem simulates_onSpace (operation : Access Space α) :
    (Logged.comparison (η := η)).Simulates (Paged.onSpace operation) (Paged.onSpace operation) := by
  rintro noted _ ⟨rfl, missing⟩
  cases done : operation noted.space with
  | ok value space =>
    have plain : operation noted.unlogged.space = .ok value space := done
    rw [Paged.onSpace_ok done, Paged.onSpace_ok plain]
    exact .ok ⟨rfl, missing⟩
  | error error space =>
    have plain : operation noted.unlogged.space = .error error space := done
    rw [Paged.onSpace_error done, Paged.onSpace_error plain]
    exact .error rfl ⟨rfl, missing⟩

theorem simulates_expect (gpa : Address) :
    (Logged.comparison (η := η)).Simulates (Paged.expect gpa) (Paged.expect gpa) := by
  rintro noted _ ⟨rfl, missing⟩
  rw [Paged.expect_eq, Paged.expect_eq, Paged.unlogged]
  split
  · exact .ok ⟨rfl, missing⟩
  · exact .error rfl ⟨rfl, missing⟩

variable [Resolver η]

/-- A request for a page that is not bound keeps the log clean. -/
theorem agree_resolve {noted : Paged (Logged η)} {gpa : Address} (free : noted.space.isBound gpa = false)
    (missing : ∀ request ∈ noted.resolver.requests, request.bound = false) :
    Logged.comparison.Agree (Resolver.resolve gpa noted) (Resolver.resolve gpa noted.unlogged) := by
  have clean : ∀ request ∈ noted.resolver.requests ++ [⟨gpa, noted.space.isBound gpa⟩],
      request.bound = false := by
    intro request member
    obtain earlier | latest := List.mem_append.mp member
    · exact missing request earlier
    · cases List.mem_singleton.mp latest
      exact free
  change Logged.comparison.Agree
    (match Resolver.resolve gpa noted.unlogged with
      | .ok () later => .ok () (later.logged _)
      | .error error later => .error error (later.logged _)) _
  cases Resolver.resolve gpa noted.unlogged with
  | ok value later => exact .ok (related_logged later clean)
  | error error later => exact .error rfl (related_logged later clean)

theorem simulates_ensure (gpa : Address) :
    (Logged.comparison (η := η)).Simulates (Paged.ensure gpa) (Paged.ensure gpa) := by
  rintro noted _ ⟨rfl, missing⟩
  by_cases bound : noted.space.isBound gpa
  · have same : noted.unlogged.space.isBound gpa := bound
    rw [Paged.ensure_bound bound, Paged.ensure_bound same]
    exact .ok ⟨rfl, missing⟩
  · have same : ¬noted.unlogged.space.isBound gpa := bound
    rw [Paged.ensure_unbound bound, Paged.ensure_unbound same]
    exact (agree_resolve (by simpa using bound) missing).bind fun _ => simulates_expect gpa

theorem linked_bus : Bus.Linked (Logged.comparison (η := η)).congruence Paged.bus Paged.bus where
  locate gpa := (simulates_ensure gpa).bind fun _ => simulates_onSpace _
  read gpa _ := (simulates_onSpace _).bind fun _ => (simulates_ensure gpa).bind fun _ => simulates_onSpace _
  write gpa _ := (simulates_onSpace _).bind fun _ => (simulates_ensure gpa).bind fun _ => simulates_onSpace _
  unmapped _ := simulates_throw rfl
  nonCanonical _ := simulates_throw rfl
  noRoom _ := simulates_throw rfl

theorem simulates_run (command : ViewCommand) :
    (Logged.comparison (η := η)).Simulates (Paged.run command) (Paged.run command) := by
  cases command with
  | ensure gpa => exact (simulates_ensure gpa).bind fun _ => simulates_pure _
  | isBound gpa =>
    rintro noted _ ⟨rfl, missing⟩
    exact .ok ⟨rfl, missing⟩
  | access command => exact linked_bus.run command

/-- With a log or without, a sequence of operations has the same answers, and the log has only pages
that were not bound when they were asked for. -/
theorem trace_logged (resolver : η) (space : Space) (commands : List ViewCommand) :
    List.Forall₂ Logged.comparison.Agree
      (Access.trace Paged.run commands ⟨{ resolver := resolver }, space⟩)
      (Access.trace Paged.run commands ⟨resolver, space⟩) :=
  trace_agree simulates_run commands ⟨rfl, fun _ impossible => nomatch impossible⟩

end Logged

end GuestResume
