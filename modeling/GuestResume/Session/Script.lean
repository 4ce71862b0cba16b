import GuestResume.Cpu.Command
import GuestResume.Memory.Command
import GuestResume.Session.Engine

/-! Engines that do as they are told: one that knows two instructions, one that reads the same byte
over and over, and one that follows a script of actions and keeps a log of their answers. -/

namespace GuestResume

/-- Knows a one-byte no-operation and a one-byte halt. -/
structure ByteEngine where
  deriving DecidableEq

instance {η : Type} [Resolver η] : Engine ByteEngine η where
  step _ := do
    let rip := (← Step.machine).cpu.rip
    match ← Step.readVirtual rip 1 with
    | [0x90] => pure ()
    | [0xF4] => Step.askStop
    | opcode => Step.fail ("unsupported opcode 0x" ++ Text.hexBytes opcode)
    Step.advance 1

/-- Reads one physical byte in every step. -/
structure Toucher where
  gpa : Address
  deriving DecidableEq

instance {η : Type} [Resolver η] : Engine Toucher η where
  step _ := do
    discard (Step.onMemory (Paged.bus.read (← Step.engine).gpa 1))
    Step.advance 1

inductive Action where
  | readVirtual (gva : Address) (length : Nat)
  | writeVirtual (gva : Address) (data : List UInt8)
  | advance (distance : UInt64)
  | stop
  | stepIndex
  | fail (message : String)
  | cpu (command : CpuCommand)
  | memory (command : ViewCommand)

inductive ActionReply where
  | done
  | bytes (values : List UInt8)
  | index (value : Nat)
  | cpu (reply : CpuReply)
  | memory (reply : MemoryReply)

/-- The actions of every step. After the last one the script starts over or asks for the end. -/
structure Script where
  steps : Array (List Action)
  repeats : Bool := false
  position : Nat := 0
  log : Array ActionReply := #[]

namespace Script

/-- The actions at the current position. -/
def current? (script : Script) : Option (List Action) :=
  script.steps[if script.repeats then script.position % script.steps.size else script.position]?

variable {η : Type} [Resolver η]

def perform (index : Nat) : Action → Step Script η ActionReply
  | .readVirtual gva length => do return .bytes (← Step.readVirtual gva length)
  | .writeVirtual gva data => do
    Step.writeVirtual gva data
    return .done
  | .advance distance => do
    Step.advance distance
    return .done
  | .stop => do
    Step.askStop
    return .done
  | .stepIndex => return .index index
  | .fail message => Step.fail message
  | .cpu command => do
    match CpuDesk.run { cpu := (← Step.machine).cpu } command with
    | .ok (reply, desk) =>
      Step.setCpu desk.cpu
      return .cpu reply
    | .error error => throw (.cpu error)
  | .memory command => do return .memory (← Step.onMemory (Paged.run command))

/-- An action that fails leaves no answer and ends the step. -/
def performAll (index : Nat) : List Action → Step Script η Unit
  | [] => return ()
  | action :: rest => do
    let reply ← perform index action
    let script ← Step.engine
    Step.setEngine { script with log := script.log.push reply }
    performAll index rest

instance : Engine Script η where
  step index := do
    let script ← Step.engine
    match script.current? with
    | none => Step.askStop
    | some actions =>
      Step.setEngine { script with position := script.position + 1 }
      performAll index actions

end Script

end GuestResume
