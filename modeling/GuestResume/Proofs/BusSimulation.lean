import GuestResume.Proofs.AccessRuns
import GuestResume.Proofs.BusPrograms
import Mathlib.Data.List.Forall2

/-! Two memories compared access by access. When their reads and writes agree inside one page, so does
everything that goes through a page table, whatever the tables hold: the walk asks both memories for
the same entries as long as they answer alike. -/

namespace GuestResume

/-- Which states of two memories belong together, and which error of the first memory stands for an
error of the second. -/
structure Comparison (σ τ : Type) where
  related : σ → τ → Prop
  reports : MemoryError → MemoryError → Prop

namespace Comparison

variable {σ τ α β : Type} {comparison : Comparison σ τ}

/-- Outcomes agree if both are values, the same ones, or both are errors that stand for each other. -/
inductive Agree (comparison : Comparison σ τ) :
    EStateM.Result MemoryError σ α → EStateM.Result MemoryError τ α → Prop where
  | ok {value first second} (states : comparison.related first second) :
      Agree comparison (.ok value first) (.ok value second)
  | error {error other first second} (errors : comparison.reports error other)
      (states : comparison.related first second) :
      Agree comparison (.error error first) (.error other second)

theorem Agree.after {first : Access σ α} {second : Access τ α} {state : σ} {other : τ}
    (agree : comparison.Agree (first state) (second other)) :
    comparison.related (Access.after first state) (Access.after second other) := by
  unfold Access.after
  generalize first state = outcome, second other = answer at agree
  cases agree with
  | ok states => exact states
  | error errors states => exact states

/-- Next to a query, an operation has a value exactly if the query has it. -/
theorem Agree.ofExcept_ok {outcome : EStateM.Result MemoryError σ α} {answer : Except MemoryError α} {state : τ}
    (agree : comparison.Agree outcome (Access.ofExcept answer state)) {value : α} :
    (∃ later, outcome = .ok value later) ↔ answer = .ok value := by
  cases answer with
  | ok other =>
    obtain states | _ := agree
    constructor
    · rintro ⟨later, same⟩
      cases same
      rfl
    · intro same
      cases same
      exact ⟨_, rfl⟩
  | error error =>
    obtain _ | ⟨errors, states⟩ := agree
    constructor
    · rintro ⟨later, impossible⟩
      cases impossible
    · intro impossible
      cases impossible

def Simulates (comparison : Comparison σ τ) (first : Access σ α) (second : Access τ α) : Prop :=
  ∀ state other, comparison.related state other → comparison.Agree (first state) (second other)

theorem simulates_pure (value : α) : comparison.Simulates (pure value) (pure value) :=
  fun _ _ states => .ok states

theorem simulates_throw {error : MemoryError} (errors : comparison.reports error error) :
    comparison.Simulates (throw error : Access σ α) (throw error) :=
  fun _ _ states => .error errors states

theorem Agree.bind {first : Access σ α} {second : Access τ α} {next : α → Access σ β}
    {further : α → Access τ β} {state : σ} {other : τ} (agree : comparison.Agree (first state) (second other))
    (continued : ∀ value, comparison.Simulates (next value) (further value)) :
    comparison.Agree ((first >>= next) state) ((second >>= further) other) := by
  generalize done : first state = outcome, matched : second other = answer at agree
  cases agree with
  | ok states =>
    rw [Access.bind_ok done, Access.bind_ok matched]
    exact continued _ _ _ states
  | error errors states =>
    rw [Access.bind_error done, Access.bind_error matched]
    exact .error errors states

theorem Simulates.bind {first : Access σ α} {second : Access τ α} {next : α → Access σ β}
    {further : α → Access τ β} (start : comparison.Simulates first second)
    (continued : ∀ value, comparison.Simulates (next value) (further value)) :
    comparison.Simulates (first >>= next) (second >>= further) :=
  fun state other states => (start state other states).bind continued

/-- Agreement survives sequencing, so it reaches everything that is put together from accesses. -/
abbrev congruence (comparison : Comparison σ τ) : Congruence σ τ where
  related := comparison.Simulates
  pure := simulates_pure
  bind := Simulates.bind

theorem trace_agree {κ : Type} {first : κ → Access σ α} {second : κ → Access τ α}
    (step : ∀ operation, comparison.Simulates (first operation) (second operation))
    (operations : List κ) {state : σ} {other : τ} (states : comparison.related state other) :
    List.Forall₂ comparison.Agree (Access.trace first operations state)
      (Access.trace second operations other) := by
  induction operations generalizing state other with
  | nil => exact .nil
  | cons operation rest ih =>
    have agree := step operation state other states
    exact .cons agree (ih agree.after)

theorem afterAll_related {κ : Type} {first : κ → Access σ α} {second : κ → Access τ α}
    (step : ∀ operation, comparison.Simulates (first operation) (second operation))
    (operations : List κ) {state : σ} {other : τ} (states : comparison.related state other) :
    comparison.related (Access.afterAll first operations state)
      (Access.afterAll second operations other) := by
  induction operations generalizing state other with
  | nil => exact states
  | cons operation rest ih => exact ih (step operation state other states).after

end Comparison

end GuestResume
