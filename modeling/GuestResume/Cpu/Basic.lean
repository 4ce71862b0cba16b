import GuestResume.Cpu.Thread

/-! The state of a processor, as far as it is needed to resume a thread: registers, segments and
descriptor tables. A fresh processor is in real mode. -/

namespace GuestResume

structure Cpu where
  gprs : GprFile := {}
  rip : UInt64 := 0
  rflags : Register .rflags := {}
  segments : Segments := {}
  gdtr : TableRegister := {}
  idtr : TableRegister := {}
  cr0 : Register .cr0 := {}
  cr3 : UInt64 := 0
  cr4 : Register .cr4 := {}
  efer : Register .efer := {}
  xcr0 : Register .xcr0 := {}
  deriving DecidableEq

namespace Cpu

def gpr (cpu : Cpu) (register : Gpr) : UInt64 :=
  cpu.gprs.get register

def withGpr (cpu : Cpu) (register : Gpr) (value : UInt64) : Cpu :=
  { cpu with gprs := cpu.gprs.set register value }

def modeBasis (cpu : Cpu) : ModeBasis where
  cr0 := cpu.cr0
  cr4 := cpu.cr4
  efer := cpu.efer
  rflags := cpu.rflags
  codeRights := cpu.segments.cs.rights

def mode (cpu : Cpu) : Mode :=
  cpu.modeBasis.mode

def validMode (cpu : Cpu) : Except CpuError Mode :=
  cpu.modeBasis.validMode

/-- Installs an entry's registers and flat segments for its mode. -/
def enter (cpu : Cpu) (entry : ModeEntry) (code data : UInt16) : Cpu :=
  { cpu with
    cr0 := entry.cr0
    cr4 := entry.cr4
    efer := entry.efer
    rflags := entry.rflags
    segments := .flat entry.mode code data }

/-- Control registers that do not make long mode give way to those of a fresh entry. -/
def ensureLong (cpu : Cpu) : Cpu :=
  if cpu.mode = .longMode then cpu
  else
    { cpu with
      cr0 := ModeEntry.long.cr0
      cr4 := ModeEntry.long.cr4
      efer := ModeEntry.long.efer }

/-- Loads a captured thread. Whether long mode is on already is decided with the thread's own code
segment. What the thread does not carry stays. -/
def resume (cpu : Cpu) (thread : Thread) : Cpu :=
  let loaded :=
    { cpu with
      gprs := thread.gprs
      rip := thread.rip
      rflags := { value := FlagTable.rflags.reset ||| thread.rflags }
      segments := .ofThread thread }
  { loaded.ensureLong with
    cr3 := thread.cr3.getD cpu.cr3
    gdtr := thread.gdtr.getD cpu.gdtr
    idtr := thread.idtr.getD cpu.idtr }

/-- Lets the guest use SSE and AVX registers. -/
def enableVectors (cpu : Cpu) : Cpu :=
  { cpu with
    cr0 := (cpu.cr0.set Cr0.mp true).set Cr0.em false
    cr4 := (cpu.cr4.set Cr4.osfxsr true).set Cr4.osxsave true
    xcr0 := (cpu.xcr0.set Xcr0.sse true).set Xcr0.ymm true }

end Cpu

end GuestResume
