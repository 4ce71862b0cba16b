import GuestResume.Cpu.Segment

/-! The registers of a captured thread. A dump of the kernel also carries the root of the page table
and the descriptor tables; a dump of one process leaves them out. -/

namespace GuestResume

inductive Gpr where
  | rax | rcx | rdx | rbx | rsp | rbp | rsi | rdi
  | r8 | r9 | r10 | r11 | r12 | r13 | r14 | r15
  deriving DecidableEq

namespace Gpr

/-- In the order of their numbers. -/
def all : List Gpr :=
  [rax, rcx, rdx, rbx, rsp, rbp, rsi, rdi, r8, r9, r10, r11, r12, r13, r14, r15]

def number : Gpr → Fin 16
  | rax => 0
  | rcx => 1
  | rdx => 2
  | rbx => 3
  | rsp => 4
  | rbp => 5
  | rsi => 6
  | rdi => 7
  | r8 => 8
  | r9 => 9
  | r10 => 10
  | r11 => 11
  | r12 => 12
  | r13 => 13
  | r14 => 14
  | r15 => 15

def name : Gpr → String
  | rax => "rax"
  | rcx => "rcx"
  | rdx => "rdx"
  | rbx => "rbx"
  | rsp => "rsp"
  | rbp => "rbp"
  | rsi => "rsi"
  | rdi => "rdi"
  | r8 => "r8"
  | r9 => "r9"
  | r10 => "r10"
  | r11 => "r11"
  | r12 => "r12"
  | r13 => "r13"
  | r14 => "r14"
  | r15 => "r15"

end Gpr

/-- The sixteen general-purpose registers. -/
structure GprFile where
  values : Vector UInt64 16 := Vector.replicate 16 0
  deriving DecidableEq

namespace GprFile

def get (file : GprFile) (register : Gpr) : UInt64 :=
  file.values[register.number]

def set (file : GprFile) (register : Gpr) (value : UInt64) : GprFile :=
  { values := file.values.set register.number value }

end GprFile

structure Thread where
  gprs : GprFile := {}
  rip : UInt64 := 0
  rflags : UInt64 := 0
  cs : UInt16 := 0
  ss : UInt16 := 0
  ds : UInt16 := 0
  es : UInt16 := 0
  fs : UInt16 := 0
  gs : UInt16 := 0
  fsBase : Option UInt64 := none
  gsBase : Option UInt64 := none
  cr3 : Option UInt64 := none
  gdtr : Option TableRegister := none
  idtr : Option TableRegister := none
  deriving DecidableEq

/-- FS and GS keep the captured bases, made canonical. Limits do not matter in 64-bit mode; that of
GS is one page and counted in bytes. -/
def Segments.ofThread (thread : Thread) : Segments :=
  let data := Descriptor.data .longMode
  let gs := data thread.gs
  { es := data thread.es
    cs := .code .longMode thread.cs
    ss := data thread.ss
    ds := data thread.ds
    fs := { data thread.fs with base := Address.signExtend (thread.fsBase.getD 0) }
    gs := { gs with
      base := Address.signExtend (thread.gsBase.getD 0)
      limit := 0xFFF
      rights := gs.rights.without .granularity } }

end GuestResume
