import GuestResume.Session.Engine
import GuestResume.Session.Hook

/-! A session: a machine with its settings and hooks, the number of steps it has made, and the fatal
error that ended it, if one did. -/

namespace GuestResume

structure Session (η κ : Type) where
  config : Config
  machine : Machine η
  hooks : List (Hook κ)
  steps : Nat := 0
  failure : Option SessionError := none

namespace Session

variable {η κ : Type}

/-- The configured stop address is the first hook. -/
def new (config : Config) (resolver : η) : Session η κ where
  config := config
  machine := { memory := { resolver, space := { policy := config.policy } } }
  hooks := (config.stopAddress.map Hook.stopAt).toList

def cpu (session : Session η κ) : Cpu :=
  session.machine.cpu

def space (session : Session η κ) : Space :=
  session.machine.memory.space

def setCpu (session : Session η κ) (cpu : Cpu) : Session η κ :=
  { session with machine := { session.machine with cpu } }

def setMemory (session : Session η κ) (memory : Paged η) : Session η κ :=
  { session with machine := { session.machine with memory } }

def setSpace (session : Session η κ) (space : Space) : Session η κ :=
  session.setMemory { session.machine.memory with space }

def setStop (session : Session η κ) (requested : Bool) : Session η κ :=
  { session with machine := { session.machine with stopRequested := requested } }

def withHook (session : Session η κ) (hook : Hook κ) : Session η κ :=
  { session with hooks := session.hooks ++ [hook] }

/-- The hooks that were added after the session was made. -/
def addedHooks (session : Session η κ) : List (Hook κ) :=
  session.hooks.drop session.config.stopAddress.toList.length

def load (session : Session η κ) (thread : Thread) : Session η κ :=
  session.setCpu (session.cpu.resume thread)

/-- Unbinds and takes back all pages, and tells how many there were. -/
def release (session : Session η κ) : Nat × Session η κ :=
  let (count, space) := session.space.clear
  (count, session.setSpace space)

/-- Where a layout's table goes: to the given place, else the configured one, else above the
frames. -/
def tableBase (session : Session η κ) (layout : Layout) (base : Option Address) : Address :=
  (base <|> session.config.tableBase).getD layout.freeBase

/-- Writes a layout out, binds its table and makes it the current one. A table that cannot be bound
leaves the layout frozen and everything else as it was, its pages taken back. -/
def install (base : Option Address) : EStateM MemoryError (Session η κ × Layout) Address :=
  fun (session, layout) =>
    match session.space.commit layout (session.tableBase layout base) with
    | .error error => .error error (session, layout)
    | .ok (image, layout, space) =>
      match Space.bindImage image space with
      | .error error space => .error error (session.setSpace space, layout)
      | .ok root space =>
        .ok root ((session.setSpace space).setCpu { session.cpu with cr3 := root }, layout)

end Session

end GuestResume
