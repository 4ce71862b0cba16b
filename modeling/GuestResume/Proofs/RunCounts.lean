import GuestResume.Proofs.SessionHistory

/-! What a run counts. The engine is asked for one step after the other, each under its number, and the
session counts those that succeed. A budget bounds how many are asked for, and a run that ends at its
budget has made exactly that many. -/

namespace GuestResume

namespace Event

/-- The number of the step that the engine is asked to make, whether it succeeds or not. -/
def number? : Event → Option Nat
  | stepped number | failed number _ => some number
  | asked .. => none

def succeeded : Event → Bool
  | stepped _ => true
  | _ => false

end Event

namespace Drive

variable {ε η κ : Type} {start fuel : Nat} {drive asked after middle : Drive ε η κ}
  {phase : Phase} {verdict : Verdict} {events more : List Event} {ending : Except SessionError Ending}

/-- The steps made since `start` do not go beyond the budget. -/
structure Within (start : Nat) (drive : Drive ε η κ) : Prop where
  begun : start ≤ drive.session.steps
  budget : ∀ limit, drive.session.config.maxSteps = some limit → drive.session.steps ≤ start + limit

theorem within_start (drive : Drive ε η κ) : drive.Within drive.session.steps :=
  ⟨Nat.le_refl _, fun _ _ => Nat.le_add_right _ _⟩

theorem spent_limit {limit : Nat} (budget : drive.session.config.maxSteps = some limit) (start : Nat) :
    drive.spent start = decide (limit ≤ drive.session.steps - start) := by
  simp only [spent, budget]

theorem limit_of_spent (used : drive.spent start = true) :
    ∃ limit, drive.session.config.maxSteps = some limit ∧ limit ≤ drive.session.steps - start := by
  cases budget : drive.session.config.maxSteps with
  | none => simp [spent, budget] at used
  | some limit =>
    rw [spent_limit budget, decide_eq_true_eq] at used
    exact ⟨limit, rfl, used⟩

/-- What the events of a run tell about its steps: the numbers that the engine was given follow one another,
and those of the steps that succeed are counted. A run that fails ends with one step more. -/
inductive Counts (drive : Drive ε η κ) (events : List Event) :
    Except SessionError Ending → Drive ε η κ → Prop where
  | finished {reason : Ending} {after : Drive ε η κ}
      (counter : after.session.steps = drive.session.steps + events.countP Event.succeeded)
      (numbers : events.filterMap Event.number? =
        List.range' drive.session.steps (events.countP Event.succeeded)) :
      Counts drive events (.ok reason) after
  | failed {error : SessionError} {after : Drive ε η κ}
      (counter : after.session.steps = drive.session.steps + events.countP Event.succeeded)
      (numbers : events.filterMap Event.number? =
        List.range' drive.session.steps (events.countP Event.succeeded + 1))
      (last : events.getLast? = some (.failed after.session.steps error)) :
      Counts drive events (.error error) after

theorem Counts.steps (counts : Counts drive events ending after) :
    after.session.steps = drive.session.steps + events.countP Event.succeeded := by
  cases counts with
  | finished counter | failed counter => exact counter

variable [Observer κ]

/-- Asking hooks changes the hooks and nothing else, but for a stop request. -/
theorem ask_eq (answer : drive.ask phase = (verdict, asked)) :
    ∃ raised, asked = drive.setHooks asked.session.hooks raised := by
  cases answer
  exact ⟨_, rfl⟩

theorem steps_ask (answer : drive.ask phase = (verdict, asked)) : asked.session.steps = drive.session.steps := by
  cases answer
  rfl

theorem numbers_asking (drive : Drive ε η κ) (phase : Phase) :
    (drive.asking phase).filterMap Event.number? = [] := by
  apply List.filterMap_eq_nil_iff.mpr
  intro event member
  obtain ⟨hook, verdict, rfl⟩ := Hook.mem_events member
  rfl

theorem successes_asking (drive : Drive ε η κ) (phase : Phase) :
    (drive.asking phase).countP Event.succeeded = 0 := by
  apply List.countP_eq_zero.mpr
  intro event member
  obtain ⟨hook, verdict, rfl⟩ := Hook.mem_events member
  exact Bool.false_ne_true

/-- Around a step, only the step itself is counted. -/
theorem numbers_around (drive stepped : Drive ε η κ) (number : Nat) :
    (drive.asking .before ++ .stepped number :: stepped.asking .after).filterMap Event.number? = [number] := by
  simp [numbers_asking, Event.number?]

theorem successes_around (drive stepped : Drive ε η κ) (number : Nat) :
    (drive.asking .before ++ .stepped number :: stepped.asking .after).countP Event.succeeded = 1 := by
  rw [List.countP_append, List.countP_cons_of_pos rfl, successes_asking, successes_asking]

variable [Engine ε η]

theorem TurnCase.counts_ended (turned : TurnCase start drive events (.ended ending after)) :
    Counts drive events ending after := by
  cases turned with
  | requested | spent => exact .finished rfl rfl
  | heldBack _ _ stops =>
    apply Counts.finished
    · simp only [successes_asking, Nat.add_zero]
      exact steps_ask stops
    · simp only [successes_asking, numbers_asking, List.range'_zero]
  | @failed asked error engine machine _ _ proceeds fails =>
    have steps := steps_ask proceeds
    -- Whether the error is kept or not, no step is counted.
    have counter : (if error.isFatal then (asked.putBack engine machine).latch error
        else asked.putBack engine machine).session.steps = asked.session.steps := by
      split <;> rfl
    have none : (drive.asking .before ++ [Event.failed asked.session.steps error]).countP Event.succeeded = 0 := by
      rw [List.countP_append, successes_asking]
      rfl
    apply Counts.failed
    · rw [counter, none, steps, Nat.add_zero]
    · rw [none, List.filterMap_append, numbers_asking, steps]
      rfl
    · rw [counter, List.getLast?_append, List.getLast?_singleton, Option.some_or]
  | @stopped asked _ _ _ _ _ proceeds _ stops =>
    have steps := steps_ask proceeds
    apply Counts.finished
    · rw [successes_around, steps_ask stops, ← steps]
      rfl
    · rw [successes_around, numbers_around, steps]
      rfl

/-- A turn that leads to another one makes one step. -/
theorem TurnCase.steps_running (turned : TurnCase start drive events (.running middle)) :
    middle.session.steps = drive.session.steps + 1 ∧ middle.session.config = drive.session.config ∧
      events.countP Event.succeeded = 1 ∧ events.filterMap Event.number? = [drive.session.steps] := by
  cases turned with
  | running _ _ proceeds _ continues =>
    obtain ⟨_, asked⟩ := ask_eq proceeds
    obtain ⟨_, after⟩ := ask_eq continues
    rw [after, successes_around, numbers_around, ← steps_ask proceeds, asked]
    exact ⟨rfl, rfl, rfl, rfl⟩

theorem TurnCase.counts_later (turned : TurnCase start drive events (.running middle))
    (counts : Counts middle more ending after) : Counts drive (events ++ more) ending after := by
  obtain ⟨steps, -, once, number⟩ := turned.steps_running
  have successes : (events ++ more).countP Event.succeeded = more.countP Event.succeeded + 1 := by
    rw [List.countP_append, once, Nat.add_comm]
  cases counts with
  | finished counter numbers =>
    apply Counts.finished
    · rw [counter, successes, steps]
      omega
    · rw [List.filterMap_append, number, numbers, successes, steps, List.range'_succ]
      rfl
  | failed counter numbers last =>
    apply Counts.failed
    · rw [counter, successes, steps]
      omega
    · rw [List.filterMap_append, number, numbers, successes, steps, List.range'_succ]
      rfl
    · rw [List.getLast?_append, last, Option.some_or]

theorem counts_turns (turned : turns start fuel drive = some (ending, after)) :
    Counts drive (turnsEvents start fuel drive) ending after :=
  turns_induction TurnCase.counts_ended TurnCase.counts_later turned

theorem TurnCase.left_running (turned : TurnCase start drive events (.running middle)) :
    drive.spent start = false := by
  cases turned with
  | running _ left => exact left

theorem TurnCase.within (turned : TurnCase start drive events (.running middle))
    (within : drive.Within start) : middle.Within start := by
  obtain ⟨steps, config, -, -⟩ := turned.steps_running
  refine ⟨Nat.le_trans within.begun (by omega), fun limit budget => ?_⟩
  have left := turned.left_running
  rw [spent_limit (config ▸ budget), decide_eq_false_iff_not] at left
  have begun := within.begun
  omega

/-- No more steps are asked for than the budget has left. -/
theorem numbers_within (turned : turns start fuel drive = some (ending, after)) (within : drive.Within start) :
    ∀ limit, drive.session.config.maxSteps = some limit →
      drive.session.steps + ((turnsEvents start fuel drive).filterMap Event.number?).length ≤ start + limit := by
  refine turns_induction (motive := fun drive events => drive.Within start →
    ∀ limit, drive.session.config.maxSteps = some limit →
      drive.session.steps + (events.filterMap Event.number?).length ≤ start + limit) ?_ ?_ turned within
  · intro drive events turn within limit budget
    have upTo := within.budget limit budget
    cases turn with
    | requested | spent => exact upTo
    | heldBack =>
      rw [numbers_asking]
      exact upTo
    | failed _ left | stopped _ left =>
      rw [spent_limit budget, decide_eq_false_iff_not] at left
      have begun := within.begun
      simp only [List.filterMap_append, numbers_asking, List.filterMap_cons, Event.number?, List.filterMap_nil,
        List.nil_append, List.length_singleton]
      omega
  · intro drive middle events more turn later within limit budget
    obtain ⟨steps, config, -, number⟩ := turn.steps_running
    have further := later (turn.within within) limit ((congrArg Config.maxSteps config).trans budget)
    rw [List.filterMap_append, number, List.length_append, List.length_singleton]
    omega

/-- A run that ends at its budget has used it up. -/
theorem steps_stepLimit (turned : turns start fuel drive = some (.ok .stepLimit, after))
    (within : drive.Within start) :
    ∃ limit, drive.session.config.maxSteps = some limit ∧ after.session.steps = start + limit := by
  refine turns_induction (motive := fun drive _ => drive.Within start →
    ∃ limit, drive.session.config.maxSteps = some limit ∧ after.session.steps = start + limit) ?_ ?_ turned within
  · intro drive events turn within
    cases turn with
    | spent _ used =>
      obtain ⟨limit, budget, reached⟩ := limit_of_spent used
      have upTo := within.budget limit budget
      have begun := within.begun
      exact ⟨limit, budget, by omega⟩
  · intro drive middle events more turn later within
    obtain ⟨-, config, -, -⟩ := turn.steps_running
    obtain ⟨limit, budget, exact⟩ := later (turn.within within)
    exact ⟨limit, (congrArg Config.maxSteps config).symm.trans budget, exact⟩

/-- A healthy session in a valid mode begins to run. -/
theorem turns_run {outcome : Except SessionError Summary} (ran : drive.run fuel = some (outcome, after))
    (healthy : drive.session.failure = none) (valid : drive.session.cpu.mode ≠ .invalid) :
    ∃ ending, turns drive.session.steps fuel { drive with session := drive.session.setStop false } =
        some (ending, after) ∧
      outcome = ending.map (⟨after.session.steps - drive.session.steps, ·⟩) ∧
      drive.events fuel =
        turnsEvents drive.session.steps fuel { drive with session := drive.session.setStop false } := by
  obtain ⟨_, failed, _⟩ | ⟨_, _, invalid, _⟩ | ⟨_, ending, _, _, turned, answer, same⟩ := run_cases ran
  · rw [healthy] at failed
    cases failed
  · exact absurd (Cpu.validMode_eq_error.mp invalid).1 valid
  · exact ⟨ending, turned, answer, same⟩

end Drive

end GuestResume
