import GuestResume.Proofs.RunCounts
import GuestResume.Session.Command
import Mathlib.Control.Monad.Basic

/-! Runs can be split at their budget. As long as neither of two budgets is used up, a turn is the same under
both; so runs that follow one another, each to the end of its budget, do what one run does whose budget is
as large as theirs together. -/

namespace GuestResume

namespace Drive

variable {ε η κ : Type} {start begun fuel limit room count : Nat} {drive asked after middle : Drive ε η κ}
  {phase : Phase} {verdict : Verdict} {events : List Event}

/-- The same drive with another step budget. -/
def withBudget (limit : Nat) (drive : Drive ε η κ) : Drive ε η κ :=
  { drive with session.config.maxSteps := some limit }

theorem spent_withBudget (limit begun : Nat) (drive : Drive ε η κ) :
    (drive.withBudget limit).spent begun = decide (limit ≤ drive.session.steps - begun) :=
  spent_limit rfl begun

/-- Where no stop is requested, dropping the request is no change. -/
theorem setStop_quiet (quiet : drive.session.machine.stopRequested = false) :
    { drive with session := drive.session.setStop false } = drive := by
  rw [Session.setStop, ← quiet]

variable [Observer κ]

/-- Hooks do not look at the budget. -/
theorem ask_withBudget (answer : drive.ask phase = (verdict, asked)) (limit : Nat) :
    (drive.withBudget limit).ask phase = (verdict, asked.withBudget limit) := by
  cases answer
  rfl

variable [Engine ε η]

theorem turn_running {engine : ε} {machine : Machine η} (quiet : drive.session.machine.stopRequested = false)
    (left : drive.spent start = false) (proceeds : drive.ask .before = (.proceed, asked))
    (done : Engine.step asked.session.steps (asked.engine, asked.session.machine) = .ok () (engine, machine))
    (continues : (asked.putBack engine machine).countStep.ask .after = (.proceed, after)) :
    drive.turn start = .running after := by
  have before : drive.askBefore = (.proceed, asked) := proceeds
  have behind : (asked.putBack engine machine).countStep.askAfter = (.proceed, after) := continues
  simp only [turn, quiet, left, before, step, done, behind, Bool.false_eq_true, if_false]

theorem turns_spent (quiet : drive.session.machine.stopRequested = false) (used : drive.spent start = true)
    (fuel : Nat) : turns start (fuel + 1) drive = some (.ok .stepLimit, drive) := by
  simp only [turns, turn, quiet, used, Bool.false_eq_true, if_false, if_true]

/-- A turn that leads to another one does so under every budget that is not used up. -/
theorem TurnCase.turn_withBudget (turned : TurnCase start drive events (.running middle))
    (left : (drive.withBudget room).spent begun = false) :
    (drive.withBudget room).turn begun = .running (middle.withBudget room) := by
  cases turned with
  | running quiet _ proceeds done continues =>
    exact turn_running quiet left (ask_withBudget proceeds room) done (ask_withBudget continues room)

/-- Under the budget, turns lead from one state to the other, whatever follows. -/
def Passes (room begun : Nat) (drive after : Drive ε η κ) : Prop :=
  ∃ count, ∀ fuel, turns begun (count + fuel) (drive.withBudget room) = turns begun fuel (after.withBudget room)

theorem Passes.refl (room begun : Nat) (drive : Drive ε η κ) : Passes room begun drive drive :=
  ⟨0, fun fuel => by rw [Nat.zero_add]⟩

theorem Passes.trans (first : Passes room begun drive middle) (second : Passes room begun middle after) :
    Passes room begun drive after := by
  obtain ⟨some, earlier⟩ := first
  obtain ⟨more, later⟩ := second
  refine ⟨some + more, fun fuel => ?_⟩
  rw [Nat.add_assoc, earlier, later]

theorem TurnCase.passes (turned : TurnCase start drive events (.running middle))
    (left : (drive.withBudget room).spent begun = false) : Passes room begun drive middle := by
  refine ⟨1, fun fuel => ?_⟩
  rw [Nat.add_comm, turns, turned.turn_withBudget left]

/-- Turns that end at a budget are made under another one too, as far as that one reaches. -/
theorem passes_turns (turned : turns start fuel drive = some (.ok .stepLimit, after))
    (budget : drive.session.config.maxSteps = some limit) (begins : begun ≤ drive.session.steps)
    (reaches : start + limit ≤ begun + room) : Passes room begun drive after := by
  refine turns_induction (motive := fun drive _ => drive.session.config.maxSteps = some limit →
    begun ≤ drive.session.steps → Passes room begun drive after) ?_ ?_ turned budget begins
  · intro drive events turn _ _
    cases turn with
    | spent => exact .refl room begun _
  · intro drive middle events more turn later budget begins
    obtain ⟨steps, config, -, -⟩ := turn.steps_running
    have left := turn.left_running
    rw [spent_limit budget, decide_eq_false_iff_not] at left
    have free : (drive.withBudget room).spent begun = false := by
      rw [spent_withBudget, decide_eq_false_iff_not]
      omega
    exact (turn.passes free).trans (later ((congrArg Config.maxSteps config).trans budget) (by omega))

/-- A run that ends at its budget leaves no request behind. -/
theorem quiet_stepLimit (turned : turns start fuel drive = some (.ok .stepLimit, after)) :
    after.session.machine.stopRequested = false ∧ after.session.config = drive.session.config := by
  refine turns_induction (motive := fun drive _ => after.session.machine.stopRequested = false ∧
    after.session.config = drive.session.config) ?_ ?_ turned
  · intro drive events turn
    cases turn with
    | spent quiet => exact ⟨quiet, rfl⟩
  · intro drive middle events more turn later
    obtain ⟨-, config, -, -⟩ := turn.steps_running
    exact ⟨later.1, later.2.trans config⟩

/-- A session that has not failed for good and whose registers make a mode answers with its turns. -/
theorem run_turns {ending : Except SessionError Ending} {mode : Mode} (healthy : drive.session.failure = none)
    (valid : drive.session.cpu.validMode = .ok mode)
    (turned : turns drive.session.steps fuel { drive with session := drive.session.setStop false } =
      some (ending, after)) :
    drive.run fuel = some (ending.map (⟨after.session.steps - drive.session.steps, ·⟩), after) := by
  simp only [run, healthy, valid, turned, Option.map_some]

/-- A run that ends at its budget has begun. -/
theorem turns_stepLimit {steps : Nat} (ran : drive.run fuel = some (.ok ⟨steps, .stepLimit⟩, after)) :
    drive.session.failure = none ∧ (∃ mode, drive.session.cpu.validMode = .ok mode) ∧
      turns drive.session.steps fuel { drive with session := drive.session.setStop false } =
        some (.ok .stepLimit, after) := by
  obtain ⟨_, _, impossible, _⟩ | ⟨_, _, _, impossible, _⟩ |
    ⟨mode, ending, healthy, valid, turned, answer, _⟩ := run_cases ran
  · cases impossible
  · cases impossible
  · cases ending with
    | error => cases answer
    | ok reason =>
      cases answer
      exact ⟨healthy, ⟨mode, valid⟩, turned⟩

/-- What runs to the end of their budgets, together so many steps, come to: any run with room for the steps
comes by the same state. -/
structure Covers (total : Nat) (drive after : Drive ε η κ) : Prop where
  steps : after.session.steps = drive.session.steps + total
  quiet : after.session.machine.stopRequested = false
  config : after.session.config = drive.session.config
  passes : ∀ {room begun : Nat}, begun ≤ drive.session.steps → drive.session.steps + total ≤ begun + room →
    Passes room begun { drive with session := drive.session.setStop false } after

theorem covers_run {steps : Nat} (budget : drive.session.config.maxSteps = some limit)
    (ran : drive.run fuel = some (.ok ⟨steps, .stepLimit⟩, after)) : Covers limit drive after := by
  obtain ⟨-, -, turned⟩ := turns_stepLimit ran
  obtain ⟨quiet, config⟩ := quiet_stepLimit turned
  obtain ⟨other, same, exhausted⟩ := steps_stepLimit turned
    (within_start { drive with session := drive.session.setStop false })
  cases budget.symm.trans same
  exact ⟨exhausted, quiet, config, passes_turns turned budget⟩

theorem Covers.append {total more : Nat} (first : Covers total drive middle) (second : Covers more middle after) :
    Covers (total + more) drive after where
  steps := by rw [second.steps, first.steps, Nat.add_assoc]
  quiet := second.quiet
  config := second.config.trans first.config
  passes := by
    intro room begun begins reaches
    have steps := first.steps
    have earlier := first.passes begins (Nat.le_trans (Nat.add_le_add_left (Nat.le_add_right ..) _) reaches)
    have later : Passes room begun _ after := second.passes (by omega) (by omega)
    rw [setStop_quiet first.quiet] at later
    exact earlier.trans later

/-- Runs that follow one another, as many as counted, each of which ends at its budget. -/
inductive Exhausts : Nat → Drive ε η κ → Drive ε η κ → Prop where
  | once {fuel steps : Nat} {drive after : Drive ε η κ}
      (ran : drive.run fuel = some (.ok ⟨steps, .stepLimit⟩, after)) : Exhausts 1 drive after
  | again {count fuel steps : Nat} {drive middle after : Drive ε η κ} (earlier : Exhausts count drive middle)
      (ran : middle.run fuel = some (.ok ⟨steps, .stepLimit⟩, after)) : Exhausts (count + 1) drive after

theorem Exhausts.covers (runs : Exhausts count drive after) (budget : drive.session.config.maxSteps = some limit) :
    Covers (count * limit) drive after := by
  induction runs with
  | once ran =>
    rw [Nat.one_mul]
    exact covers_run budget ran
  | again _ ran ih =>
    have earlier := ih budget
    have later := covers_run ((congrArg Config.maxSteps earlier.config).trans budget) ran
    rw [Nat.succ_mul]
    exact earlier.append later

theorem Exhausts.begins (runs : Exhausts count drive after) :
    drive.session.failure = none ∧ ∃ mode, drive.session.cpu.validMode = .ok mode := by
  induction runs with
  | once ran =>
    obtain ⟨healthy, valid, -⟩ := turns_stepLimit ran
    exact ⟨healthy, valid⟩
  | again _ _ ih => exact ih

end Drive

/-- Runs that follow one another, each to the end of its budget, come to what one run comes to whose budget is
as large as theirs together: it ends at its budget after as many steps, and leaves the same engine and the
same session but for the budget. -/
theorem runs_split_at_budget {ε η κ : Type} [Engine ε η] [Observer κ] {limit count : Nat}
    {drive after : Drive ε η κ} (budget : drive.session.config.maxSteps = some limit)
    (runs : drive.Exhausts count after) :
    ∃ fuel, ∀ more, (drive.withBudget (count * limit)).run (fuel + more) =
      some (.ok ⟨count * limit, .stepLimit⟩, after.withBudget (count * limit)) := by
  have covers := runs.covers budget
  generalize count * limit = total at covers
  have healthy : (drive.withBudget total).session.failure = none := runs.begins.1
  obtain ⟨mode, valid⟩ : ∃ mode, (drive.withBudget total).session.cpu.validMode = .ok mode := runs.begins.2
  have quiet : (after.withBudget total).session.machine.stopRequested = false := covers.quiet
  have used : (after.withBudget total).spent drive.session.steps = true := by
    rw [Drive.spent_withBudget, covers.steps, Nat.add_sub_cancel_left]
    exact decide_eq_true (Nat.le_refl total)
  obtain ⟨turns, passes⟩ := covers.passes (Nat.le_refl _) (Nat.le_refl _)
  refine ⟨turns + 1, fun more => ?_⟩
  have ends := (passes (more + 1)).trans (Drive.turns_spent quiet used more)
  have ran : (drive.withBudget total).run (turns + (more + 1)) =
      some (.ok ⟨after.session.steps - drive.session.steps, .stepLimit⟩, after.withBudget total) :=
    Drive.run_turns healthy valid ends
  rwa [covers.steps, Nat.add_sub_cancel_left, Nat.add_comm more, ← Nat.add_assoc] at ran

/-- A session with a budget of two steps and a counter among its hooks, and an engine that notes the numbers of
its steps. -/
def Drive.notesSteps : Drive Script (Pager Snapshot) Watcher where
  engine := { steps := #[[.stepIndex, .advance 1]], repeats := true }
  session := (Session.new { maxSteps := some 2 } { source := {} }).withHook (.observer (.counter none 0 0))

theorem runs_split_at_budget_notesSteps :
    ∃ after, Drive.notesSteps.session.config.maxSteps = some 2 ∧ Drive.notesSteps.Exhausts 2 after ∧
      ∃ fuel, (Drive.notesSteps.withBudget 4).run fuel = some (.ok ⟨4, .stepLimit⟩, after.withBudget 4) := by
  have ends : ((Drive.notesSteps.run 3).bind fun first =>
      (first.2.run 3).map fun second => (first.1, second.1)) =
      some (.ok ⟨2, .stepLimit⟩, .ok ⟨2, .stepLimit⟩) := by
    decide +kernel
  obtain ⟨⟨outcome, middle⟩, ran, rest⟩ := Option.bind_eq_some_iff.mp ends
  obtain ⟨⟨answer, after⟩, again, same⟩ := Option.map_eq_some_iff.mp rest
  obtain ⟨rfl, rfl⟩ := Prod.mk.inj same
  have runs : Drive.notesSteps.Exhausts 2 after := .again (.once ran) again
  obtain ⟨fuel, answers⟩ := runs_split_at_budget rfl runs
  exact ⟨after, rfl, runs, fuel, answers 0⟩

end GuestResume
