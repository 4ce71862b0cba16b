import GuestResume.Cpu.Basic

/-! A processor state as a debugger prints it: general registers three to a line, the instruction
and stack pointers, the flags by mnemonic, the selectors. The full form goes on with the control
registers, the page-table root, the segment bases and the descriptor tables. -/

namespace GuestResume.Cpu

/-- The two letters for a flag that is set, and those for one that is clear. -/
def mnemonics : List (FlagTable.rflags.Member × String × String) :=
  [(Rflags.overflow, "ov", "nv"), (Rflags.direction, "dn", "up"), (Rflags.interrupt, "ei", "di"),
    (Rflags.sign, "ng", "pl"), (Rflags.zero, "zr", "nz"), (Rflags.auxiliary, "ac", "na"),
    (Rflags.parity, "pe", "po"), (Rflags.carry, "cy", "nc")]

def flagWords (cpu : Cpu) : List String :=
  mnemonics.map fun (flag, on, off) => if cpu.rflags.get flag then on else off

def ioPrivilege (cpu : Cpu) : Nat :=
  2 * (cpu.rflags.get Rflags.ioplHigh).toNat + (cpu.rflags.get Rflags.ioplLow).toNat

def gprRows : List (List Gpr) :=
  [[.rax, .rbx, .rcx], [.rdx, .rsi, .rdi], [.r8, .r9, .r10], [.r11, .r12, .r13], [.r14, .r15, .rbp]]

/-- Labels are three characters wide. -/
def gprCell (cpu : Cpu) (register : Gpr) : String :=
  let label := String.ofList (register.name.toList.leftpad 3 ' ')
  label ++ "=" ++ Text.hexPadded 16 (cpu.gpr register).toNat

def gprLine (cpu : Cpu) (row : List Gpr) : String :=
  " ".intercalate (row.map cpu.gprCell)

def pointerLine (cpu : Cpu) : String :=
  "rip=" ++ Text.hexPadded 16 cpu.rip.toNat ++ " rsp=" ++ Text.hexPadded 16 (cpu.gpr .rsp).toNat

def flagLine (cpu : Cpu) : String :=
  "iopl=" ++ Text.padRight 9 (toString cpu.ioPrivilege) ++ " " ++ " ".intercalate cpu.flagWords

def selectorCell (label : String) (descriptor : Descriptor) : String :=
  label ++ "=" ++ Text.hexPadded 4 descriptor.selector.toNat

def segmentLine (cpu : Cpu) : String :=
  let s := cpu.segments
  "  ".intercalate
    [selectorCell "cs" s.cs, selectorCell "ss" s.ss, selectorCell "ds" s.ds, selectorCell "es" s.es,
      selectorCell "fs" s.fs, selectorCell "gs" s.gs] ++
    "             efl=" ++ Text.hexPadded 8 cpu.rflags.value.toNat

def dumpLines (cpu : Cpu) : List String :=
  gprRows.map cpu.gprLine ++ [cpu.pointerLine, cpu.flagLine, cpu.segmentLine]

def baseLine (cpu : Cpu) : String :=
  "cr3=" ++ Text.hexPadded 16 cpu.cr3.toNat ++
    " fsbase=" ++ Text.hexPadded 16 cpu.segments.fs.base.toNat ++
    " gsbase=" ++ Text.hexPadded 16 cpu.segments.gs.base.toNat

def tableCell (label : String) (table : TableRegister) : String :=
  label ++ "=" ++ Text.hexPadded 16 table.base.toNat ++ ":" ++ Text.hexPadded 4 table.limit.toNat

def tableLine (cpu : Cpu) : String :=
  tableCell "gdtr" cpu.gdtr ++ " " ++ tableCell "idtr" cpu.idtr ++ " mode=" ++ cpu.mode.name

def systemLines (cpu : Cpu) : List String :=
  [cpu.cr0.renderFull, cpu.cr4.renderFull, cpu.efer.renderFull, cpu.xcr0.renderFull, cpu.baseLine,
    cpu.tableLine]

def dump (cpu : Cpu) : String :=
  "\n".intercalate cpu.dumpLines

def dumpFull (cpu : Cpu) : String :=
  "\n".intercalate (cpu.dumpLines ++ cpu.systemLines)

end GuestResume.Cpu
