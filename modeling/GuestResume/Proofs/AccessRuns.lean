import GuestResume.Memory.Error

/-! Sequences of operations on a state. A failing operation keeps what it did before the failure, and
the next one goes on from there. -/

namespace GuestResume.Access

variable {ε σ α β κ : Type} {first : EStateM ε σ α} {next : α → EStateM ε σ β} {before later : σ}

theorem bind_ok {value : α} (done : first before = .ok value later) :
    (first >>= next) before = next value later := by
  change EStateM.bind first next before = _
  rw [EStateM.bind, done]

theorem bind_error {error : ε} (failed : first before = .error error later) :
    (first >>= next) before = .error error later := by
  change EStateM.bind first next before = _
  rw [EStateM.bind, failed]

/-- The outcome of a query that leaves its state as it is. -/
def ofExcept (answer : Except ε α) : EStateM ε σ α := fun state =>
  match answer with
  | .ok value => .ok value state
  | .error error => .error error state

/-- The state that an operation leaves behind, whether it succeeds or fails. -/
def after (operation : EStateM ε σ α) (state : σ) : σ :=
  match operation state with
  | .ok _ state => state
  | .error _ state => state

theorem after_ok {value : α} (done : first before = .ok value later) : after first before = later := by
  rw [after, done]

theorem after_error {error : ε} (failed : first before = .error error later) :
    after first before = later := by
  rw [after, failed]

theorem after_map (first : EStateM ε σ α) (told : α → β) (state : σ) :
    after (first >>= fun value => pure (told value)) state = after first state := by
  cases done : first state with
  | ok value later =>
    rw [after_ok done, after, bind_ok done]
    rfl
  | error error later => rw [after_error done, after, bind_error done]

theorem after_ofExcept (answer : Except ε α) (state : σ) : after (ofExcept answer) state = state := by
  cases answer <;> rfl

def succeeds (operation : EStateM ε σ α) (state : σ) : Bool :=
  match operation state with
  | .ok _ _ => true
  | .error _ _ => false

theorem succeeds_iff {operation : EStateM ε σ α} {state : σ} :
    succeeds operation state ↔ ∃ value later, operation state = .ok value later := by
  rw [succeeds]
  cases operation state with
  | ok value later => exact ⟨fun _ => ⟨value, later, rfl⟩, fun _ => rfl⟩
  | error error later =>
    constructor
    · intro impossible
      cases impossible
    · intro ⟨_, _, impossible⟩
      cases impossible

def afterAll (run : κ → EStateM ε σ α) (operations : List κ) (state : σ) : σ :=
  operations.foldl (fun state operation => after (run operation) state) state

/-- The outcome of each operation of a sequence, with the state after it. -/
def trace (run : κ → EStateM ε σ α) : List κ → σ → List (EStateM.Result ε σ α)
  | [], _ => []
  | operation :: rest, state => run operation state :: trace run rest (after (run operation) state)

theorem afterAll_keeps {run : κ → EStateM ε σ α} {operations : List κ} (kept : σ → Prop)
    (step : ∀ operation ∈ operations, ∀ state, kept state → kept (after (run operation) state))
    {state : σ} (start : kept state) : kept (afterAll run operations state) := by
  induction operations generalizing state with
  | nil => exact start
  | cons operation rest ih =>
    exact ih (fun other member => step other (List.mem_cons_of_mem _ member))
      (step operation List.mem_cons_self state start)

end GuestResume.Access
