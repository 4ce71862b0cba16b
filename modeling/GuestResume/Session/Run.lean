import GuestResume.Session.Basic

/-! Running a session: steps of an engine until a stop is requested, the step budget is used up, a
hook ends the run, or a step fails. A fatal failure is kept, and every later run fails with it. -/

namespace GuestResume

inductive Ending where
  | requested
  | hook
  | stepLimit
  deriving DecidableEq

structure Summary where
  steps : Nat
  reason : Ending
  deriving DecidableEq

/-- A session together with the engine that works on it. -/
structure Drive (ε η κ : Type) where
  engine : ε
  session : Session η κ

/-- A turn either ends the run or leads to the next turn. -/
inductive Turn (α : Type) where
  | ended (outcome : Except SessionError Ending) (state : α)
  | running (state : α)

namespace Drive

variable {ε η κ : Type} [Engine ε η] [Observer κ]

/-- The hooks as they are after they were asked, and the stop request if it was raised meanwhile. -/
def setHooks (drive : Drive ε η κ) (hooks : List (Hook κ)) (raises : Bool) : Drive ε η κ :=
  { drive with session :=
      { drive.session.setStop (raises || drive.session.machine.stopRequested) with hooks } }

/-- Puts back the engine and the machine after a step. -/
def putBack (drive : Drive ε η κ) (engine : ε) (machine : Machine η) : Drive ε η κ :=
  { engine, session := { drive.session with machine } }

def countStep (drive : Drive ε η κ) : Drive ε η κ :=
  { drive with session := { drive.session with steps := drive.session.steps + 1 } }

/-- Keeps a fatal error for good. The stop request stays up. -/
def latch (drive : Drive ε η κ) (error : SessionError) : Drive ε η κ :=
  { drive with session := { drive.session.setStop true with failure := some error } }

/-- Whether the steps since `start` use up the budget. -/
def spent (drive : Drive ε η κ) (start : Nat) : Bool :=
  match drive.session.config.maxSteps with
  | some limit => limit ≤ drive.session.steps - start
  | none => false

def askBefore (drive : Drive ε η κ) : Verdict × Drive ε η κ :=
  let reply := Hook.askAll (Hook.before drive.session.cpu) drive.session.machine.stopRequested drive.session.hooks
  (reply.verdict, drive.setHooks reply.asked reply.raises)

def askAfter (drive : Drive ε η κ) : Verdict × Drive ε η κ :=
  let reply := Hook.askAll (Hook.after drive.session.cpu) drive.session.machine.stopRequested drive.session.hooks
  (reply.verdict, drive.setHooks reply.asked reply.raises)

/-- One step and the hooks after it. -/
def step (drive : Drive ε η κ) : Turn (Drive ε η κ) :=
  match Engine.step drive.session.steps (drive.engine, drive.session.machine) with
  | .error error (engine, machine) =>
    let drive := drive.putBack engine machine
    .ended (.error error) (if error.isFatal then drive.latch error else drive)
  | .ok () (engine, machine) =>
    match (drive.putBack engine machine).countStep.askAfter with
    | (.stop, drive) => .ended (.ok .hook) drive
    | (.proceed, drive) => .running drive

/-- A stop request is looked at first, then the budget, then the hooks before the step. -/
def turn (start : Nat) (drive : Drive ε η κ) : Turn (Drive ε η κ) :=
  if drive.session.machine.stopRequested then .ended (.ok .requested) drive
  else if drive.spent start then .ended (.ok .stepLimit) drive
  else match drive.askBefore with
    | (.stop, drive) => .ended (.ok .hook) drive
    | (.proceed, drive) => drive.step

/-- Turns until one ends the run. There is no answer if `fuel` turns are not enough. -/
def turns (start : Nat) : Nat → Drive ε η κ → Option (Except SessionError Ending × Drive ε η κ)
  | 0, _ => none
  | fuel + 1, drive =>
    match drive.turn start with
    | .ended outcome drive => some (outcome, drive)
    | .running drive => turns start fuel drive

/-- A session that has failed for good answers with its failure, and one whose registers make no
mode is refused; both stay as they are. Otherwise an earlier stop request is dropped and the run
begins. -/
def run (fuel : Nat) (drive : Drive ε η κ) : Option (Except SessionError Summary × Drive ε η κ) :=
  match drive.session.failure, drive.session.cpu.validMode with
  | some error, _ => some (.error error, drive)
  | none, .error error => some (.error (.cpu error), drive)
  | none, .ok _ =>
    let start := drive.session.steps
    let fresh := { drive with session := drive.session.setStop false }
    (turns start fuel fresh).map fun (outcome, drive) =>
      (outcome.map fun reason => ⟨drive.session.steps - start, reason⟩, drive)

end Drive

end GuestResume
