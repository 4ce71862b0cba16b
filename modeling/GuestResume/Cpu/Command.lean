import GuestResume.Cpu.Dump
import GuestResume.Register.Command

/-! Operations on a processor as data. They act on a desk with two states, the one at work and one
that was put aside. -/

namespace GuestResume

inductive ControlName where
  | cr0
  | cr4
  | efer
  | rflags
  | xcr0
  deriving DecidableEq

def ControlName.table : ControlName → FlagTable
  | cr0 => .cr0
  | cr4 => .cr4
  | efer => .efer
  | rflags => .rflags
  | xcr0 => .xcr0

namespace Cpu

def register (cpu : Cpu) : (name : ControlName) → Register name.table
  | .cr0 => cpu.cr0
  | .cr4 => cpu.cr4
  | .efer => cpu.efer
  | .rflags => cpu.rflags
  | .xcr0 => cpu.xcr0

def setRegister (cpu : Cpu) : (name : ControlName) → Register name.table → Cpu
  | .cr0, value => { cpu with cr0 := value }
  | .cr4, value => { cpu with cr4 := value }
  | .efer, value => { cpu with efer := value }
  | .rflags, value => { cpu with rflags := value }
  | .xcr0, value => { cpu with xcr0 := value }

end Cpu

inductive CpuCommand where
  | gpr (register : Gpr)
  | withGpr (register : Gpr) (value : UInt64)
  | setRip (value : UInt64)
  | setCr3 (value : UInt64)
  | setGdtr (table : TableRegister)
  | setIdtr (table : TableRegister)
  | setSegment (name : SegmentName) (descriptor : Descriptor)
  | register (name : ControlName) (command : RegisterCommand name.table)
  | enter (entry : ModeEntry) (code data : UInt16)
  | resume (thread : Thread)
  | enableVectors
  | mode
  | validMode
  | modeBasis
  | dump
  | dumpFull
  | reset
  | save
  | restore
  | same

inductive CpuReply where
  | done
  | word (value : UInt64)
  | truth (value : Bool)
  | text (value : String)
  | mode (value : Mode)
  | modeBasis (value : ModeBasis)
  | register (value : RegisterReply)
  /-- The stack pointer and the accumulator of a thread. -/
  | thread (rsp rax : UInt64)
  deriving DecidableEq

structure CpuDesk where
  cpu : Cpu := {}
  saved : Cpu := {}
  deriving DecidableEq

namespace CpuDesk

/-- Replaces the state at work. -/
def put (desk : CpuDesk) (cpu : Cpu) : Except CpuError (CpuReply × CpuDesk) :=
  .ok (.done, { desk with cpu })

def run (desk : CpuDesk) (command : CpuCommand) : Except CpuError (CpuReply × CpuDesk) :=
  let cpu := desk.cpu
  match command with
  | .gpr register => .ok (.word (cpu.gpr register), desk)
  | .withGpr register value => desk.put (cpu.withGpr register value)
  | .setRip value => desk.put { cpu with rip := value }
  | .setCr3 value => desk.put { cpu with cr3 := value }
  | .setGdtr table => desk.put { cpu with gdtr := table }
  | .setIdtr table => desk.put { cpu with idtr := table }
  | .setSegment name descriptor =>
    desk.put { cpu with segments := cpu.segments.set name descriptor }
  | .register name command =>
    match (cpu.register name).run command with
    | .ok (reply, value) => .ok (.register reply, { desk with cpu := cpu.setRegister name value })
    | .error error => .error (.unknownFlag error)
  | .enter entry code data => desk.put (cpu.enter entry code data)
  | .resume thread =>
    let reply := .thread (thread.gprs.get .rsp) (thread.gprs.get .rax)
    .ok (reply, { desk with cpu := cpu.resume thread })
  | .enableVectors => desk.put cpu.enableVectors
  | .mode => .ok (.mode cpu.mode, desk)
  | .validMode => cpu.validMode.map fun mode => (.mode mode, desk)
  | .modeBasis => .ok (.modeBasis cpu.modeBasis, desk)
  | .dump => .ok (.text cpu.dump, desk)
  | .dumpFull => .ok (.text cpu.dumpFull, desk)
  | .reset => desk.put {}
  | .save => .ok (.done, { desk with saved := cpu })
  | .restore => desk.put desk.saved
  | .same => .ok (.truth (cpu = desk.saved), desk)

end CpuDesk

end GuestResume
