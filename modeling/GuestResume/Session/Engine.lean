import GuestResume.Cpu.Basic
import GuestResume.Memory.Paged
import GuestResume.Memory.Walk
import GuestResume.Session.Error

/-! What executes instructions is left open. An engine is asked for one step at a time; it works on
the machine, may fail, and may ask for the run to end after the step. -/

namespace GuestResume

/-- Processor and memory of a guest, and whether the run has been asked to end. -/
structure Machine (η : Type) where
  cpu : Cpu := {}
  memory : Paged η
  stopRequested : Bool := false

/-- One step of an engine with state `ε`. What a failing step has done stays done. -/
abbrev Step (ε η α : Type) : Type :=
  EStateM SessionError (ε × Machine η) α

/-- The step is given its number, counted over the life of the session. -/
class Engine (ε η : Type) where
  step : Nat → Step ε η Unit

namespace Step

variable {ε η α : Type}

def machine : Step ε η (Machine η) := do
  return (← get).2

def engine : Step ε η ε := do
  return (← get).1

def setEngine (engine : ε) : Step ε η Unit :=
  modify fun (_, machine) => (engine, machine)

def setCpu (cpu : Cpu) : Step ε η Unit :=
  modify fun (engine, machine) => (engine, { machine with cpu })

def advance (distance : UInt64) : Step ε η Unit := do
  let cpu := (← machine).cpu
  setCpu { cpu with rip := cpu.rip + distance }

def askStop : Step ε η Unit :=
  modify fun (engine, machine) => (engine, { machine with stopRequested := true })

def onMemory (operation : Access (Paged η) α) : Step ε η α := fun (engine, machine) =>
  match operation machine.memory with
  | .ok value memory => .ok value (engine, { machine with memory })
  | .error error memory => .error (.memory error) (engine, { machine with memory })

/-- A failure of the engine itself, at the current instruction. -/
def fail (message : String) : Step ε η α := do
  throw (.engine (← machine).cpu.rip message)

variable [Resolver η]

/-- Through the page table that the processor has loaded. -/
def readVirtual (gva : Address) (length : Nat) : Step ε η (List UInt8) := do
  onMemory (Paged.bus.readVirtual (← machine).cpu.cr3 gva length)

def writeVirtual (gva : Address) (data : List UInt8) : Step ε η Unit := do
  onMemory (Paged.bus.writeVirtual (← machine).cpu.cr3 gva data)

end Step

end GuestResume
