import GuestResume.Session.Run
import GuestResume.Session.Script
import GuestResume.Memory.Desk

/-! Operations on a session as data. They act on a console: a session that pages from a snapshot,
what its caller holds, and one processor state put aside. -/

namespace GuestResume

/-- Hooks that count how often they are asked. -/
inductive Watcher where
  /-- Lets a number of steps begin. -/
  | budget (left asked : Nat)
  /-- Ends the run after the step with the given number, counted from one. -/
  | counter (stopAfter : Option Nat) (before after : Nat)
  deriving DecidableEq

namespace Watcher

def askBefore : Watcher → Reply Watcher
  | budget 0 asked => { verdict := .stop, asked := budget 0 (asked + 1) }
  | budget (left + 1) asked => { asked := budget left (asked + 1) }
  | counter stopAfter before after => { asked := counter stopAfter (before + 1) after }

def askAfter : Watcher → Reply Watcher
  | budget left asked => { asked := budget left asked }
  | counter stopAfter before after =>
    { verdict := if stopAfter = some (after + 1) then .stop else .proceed
      asked := counter stopAfter before (after + 1) }

instance : Observer Watcher where
  before _ _ := askBefore
  after _ _ := askAfter

/-- How often the hook was asked before and after steps. -/
def asked : Hook Watcher → Nat × Nat
  | .stopAt _ => (0, 0)
  | .observer (.budget _ asked) => (asked, 0)
  | .observer (.counter _ before after) => (before, after)

end Watcher

inductive EngineChoice where
  | bytes
  | toucher (gpa : Address)
  | script (steps : List (List Action)) (repeats : Bool)

inductive SessionCommand where
  | memory (command : MemoryCommand)
  | cpu (command : CpuCommand)
  | install (layout : Nat) (base : Option Address)
  | load (thread : Thread)
  | withHook (hook : Hook Watcher)
  | askStop
  | run (engine : EngineChoice)
  | release
  | config

inductive SessionReply where
  | done
  | memory (reply : MemoryReply)
  | cpu (reply : CpuReply)
  | address (value : Address)
  | state (cpu : Cpu)
  | run (outcome : Except SessionError Summary) (log : Option (List ActionReply))
  | count (value : Nat)
  | config (value : Config)

inductive ConsoleError where
  | session (error : SessionError)
  | notHeld
  | unfinished

structure Console (S : Type) where
  session : Session (Pager S) Watcher
  holdings : Holdings := {}
  saved : Cpu := {}

namespace Console

variable {S α : Type} [PageSource S]

abbrev Run (S α : Type) : Type :=
  EStateM ConsoleError (Console S) α

def current : Run S (Session (Pager S) Watcher) := do
  return (← get).session

def setSession (session : Session (Pager S) Watcher) : Run S Unit :=
  modify fun console => { console with session }

def onDesk (operation : MemoryDesk.Run S α) : Run S α := fun console =>
  let desk : MemoryDesk S := ⟨console.session.machine.memory, console.holdings⟩
  let back (desk : MemoryDesk S) : Console S :=
    { console with session := console.session.setMemory desk.memory, holdings := desk.holdings }
  match operation desk with
  | .ok value desk => .ok value (back desk)
  | .error (.memory error) desk => .error (.session (.memory error)) (back desk)
  | .error .notHeld desk => .error .notHeld (back desk)

def runCpu (command : CpuCommand) : Run S CpuReply := do
  let console ← get
  match CpuDesk.run ⟨console.session.cpu, console.saved⟩ command with
  | .ok (reply, desk) =>
    set { console with session := console.session.setCpu desk.cpu, saved := desk.saved }
    return reply
  | .error error => throw (.session (.cpu error))

def install (number : Nat) (base : Option Address) : Run S Address := do
  let console ← get
  let back (session : Session (Pager S) Watcher) (layout : Layout) : Console S :=
    { console with session, holdings := console.holdings.setLayout number layout }
  match Session.install base (console.session, console.holdings.layout number) with
  | .ok root (session, layout) =>
    set (back session layout)
    return root
  | .error error (session, layout) =>
    set (back session layout)
    throw (.session (.memory error))

/-- Runs a fresh engine and gives it back. -/
def drive {ε : Type} [Engine ε (Pager S)] (fuel : Nat) (engine : ε) :
    Run S (Except SessionError Summary × ε) := do
  match Drive.run fuel ⟨engine, ← current⟩ with
  | some (outcome, drive) =>
    setSession drive.session
    return (outcome, drive.engine)
  | none => throw .unfinished

def runEngine (fuel : Nat) : EngineChoice → Run S SessionReply
  | .bytes => do return .run (← drive fuel ({} : ByteEngine)).1 none
  | .toucher gpa => do return .run (← drive fuel (⟨gpa⟩ : Toucher)).1 none
  | .script steps repeats => do
    let (outcome, script) ← drive fuel ({ steps := steps.toArray, repeats } : Script)
    return .run outcome (some script.log.toList)

def run (fuel : Nat) : SessionCommand → Run S SessionReply
  | .memory command => do return .memory (← onDesk (MemoryDesk.run command))
  | .cpu command => do return .cpu (← runCpu command)
  | .install layout base => do return .address (← install layout base)
  | .load thread => do
    let session := (← current).load thread
    setSession session
    return .state session.cpu
  | .withHook hook => do
    setSession ((← current).withHook hook)
    return .done
  | .askStop => do
    setSession ((← current).setStop true)
    return .done
  | .run engine => runEngine fuel engine
  | .release => do
    let (count, session) := (← current).release
    setSession session
    return .count count
  | .config => do return .config (← current).config

end Console

end GuestResume
