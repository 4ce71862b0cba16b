import GuestResume.Register.Basic

/-! The flags of CR0, CR4, EFER, RFLAGS and XCR0 on 64-bit processors. CR0's extension type, bit one
of RFLAGS, and the outermost bits of XCR0 are fixed by the hardware. -/

namespace GuestResume

namespace FlagTable

def cr0 : FlagTable where
  name := "CR0"
  flags := [
    ⟨31, "PG", "Paging", true⟩,
    ⟨30, "CD", "Cache Disable", true⟩,
    ⟨29, "NW", "Not Writethrough", true⟩,
    ⟨18, "AM", "Alignment Mask", true⟩,
    ⟨16, "WP", "Write Protect", true⟩,
    ⟨5, "NE", "Numeric Error", true⟩,
    ⟨4, "ET", "Extension Type", false⟩,
    ⟨3, "TS", "Task Switched", true⟩,
    ⟨2, "EM", "Emulation", true⟩,
    ⟨1, "MP", "Monitor Coprocessor", true⟩,
    ⟨0, "PE", "Protection Enabled", true⟩]

def cr4 : FlagTable where
  name := "CR4"
  flags := [
    ⟨18, "OSXSAVE", "XSAVE and Processor Extended States Enable", true⟩,
    ⟨16, "FSGSBASE", "Enable RDFSBASE/RDGSBASE/WRFSBASE/WRGSBASE", true⟩,
    ⟨10, "OSXMMEXCPT", "Operating System Unmasked Exception Support", true⟩,
    ⟨9, "OSFXSR", "Operating System FXSAVE/FXRSTOR Support", true⟩,
    ⟨8, "PCE", "Performance-Monitoring Counter Enable", true⟩,
    ⟨7, "PGE", "Page-Global Enable", true⟩,
    ⟨6, "MCE", "Machine Check Enable", true⟩,
    ⟨5, "PAE", "Physical-Address Extension", true⟩,
    ⟨4, "PSE", "Page Size Extensions", true⟩,
    ⟨3, "DE", "Debugging Extensions", true⟩,
    ⟨2, "TSD", "Time Stamp Disable", true⟩,
    ⟨1, "PVI", "Protected-Mode Virtual Interrupts", true⟩,
    ⟨0, "VME", "Virtual-8086 Mode Extensions", true⟩]

/-- Extended features. -/
def efer : FlagTable where
  name := "EFER"
  flags := [
    ⟨15, "TCE", "Translation Cache Extension", true⟩,
    ⟨14, "FFXSR", "Fast FXSAVE/FXRSTOR", true⟩,
    ⟨13, "LMSLE", "Long Mode Segment Limit Enable", true⟩,
    ⟨12, "SVME", "Secure Virtual Machine Enable", true⟩,
    ⟨11, "NXE", "No-Execute Enable", true⟩,
    ⟨10, "LMA", "Long Mode Active", true⟩,
    ⟨8, "LME", "Long Mode Enable", true⟩,
    ⟨0, "SCE", "System Call Extensions", true⟩]

def rflags : FlagTable where
  name := "RFLAGS"
  reset := 0x2
  flags := [
    ⟨21, "ID", "ID Flag", true⟩,
    ⟨20, "VIP", "Virtual Interrupt Pending", true⟩,
    ⟨19, "VIF", "Virtual Interrupt Flag", true⟩,
    ⟨18, "AC", "Alignment Check", true⟩,
    ⟨17, "VM", "Virtual-8086 Mode", true⟩,
    ⟨16, "RF", "Resume Flag", true⟩,
    ⟨14, "NT", "Nested Task", true⟩,
    ⟨13, "IOPL1", "I/O Privilege Level (high bit)", true⟩,
    ⟨12, "IOPL0", "I/O Privilege Level (low bit)", true⟩,
    ⟨11, "OF", "Overflow Flag", true⟩,
    ⟨10, "DF", "Direction Flag", true⟩,
    ⟨9, "IF", "Interrupt Flag", true⟩,
    ⟨8, "TF", "Trap Flag", true⟩,
    ⟨7, "SF", "Sign Flag", true⟩,
    ⟨6, "ZF", "Zero Flag", true⟩,
    ⟨4, "AF", "Auxiliary Flag", true⟩,
    ⟨2, "PF", "Parity Flag", true⟩,
    ⟨1, "Reserved1", "Reserved, Read as One", false⟩,
    ⟨0, "CF", "Carry Flag", true⟩]

/-- Extended processor states. The x87 state is always enabled. -/
def xcr0 : FlagTable where
  name := "XCR0"
  reset := 0x1
  flags := [
    ⟨63, "X", "Reserved for XCR0 bit vector expansion", false⟩,
    ⟨62, "LWP", "Lightweight Profiling state management", true⟩,
    ⟨2, "YMM", "256-bit SSE state management (required for AVX)", true⟩,
    ⟨1, "SSE", "128-bit SSE state management (required if YMM is set)", true⟩,
    ⟨0, "x87", "x87 FPU state management (must be 1)", false⟩]

end FlagTable

namespace Cr0

def pg : FlagTable.cr0.Member := FlagTable.cr0.atBit 31
def am : FlagTable.cr0.Member := FlagTable.cr0.atBit 18
def wp : FlagTable.cr0.Member := FlagTable.cr0.atBit 16
def ne : FlagTable.cr0.Member := FlagTable.cr0.atBit 5
def et : FlagTable.cr0.Member := FlagTable.cr0.atBit 4
def em : FlagTable.cr0.Member := FlagTable.cr0.atBit 2
def mp : FlagTable.cr0.Member := FlagTable.cr0.atBit 1
def pe : FlagTable.cr0.Member := FlagTable.cr0.atBit 0

end Cr0

namespace Cr4

def osxsave : FlagTable.cr4.Member := FlagTable.cr4.atBit 18
def osfxsr : FlagTable.cr4.Member := FlagTable.cr4.atBit 9
def pge : FlagTable.cr4.Member := FlagTable.cr4.atBit 7
def pae : FlagTable.cr4.Member := FlagTable.cr4.atBit 5

end Cr4

namespace Efer

def nxe : FlagTable.efer.Member := FlagTable.efer.atBit 11
def lma : FlagTable.efer.Member := FlagTable.efer.atBit 10
def lme : FlagTable.efer.Member := FlagTable.efer.atBit 8
def sce : FlagTable.efer.Member := FlagTable.efer.atBit 0

end Efer

namespace Rflags

def vm : FlagTable.rflags.Member := FlagTable.rflags.atBit 17
def ioplHigh : FlagTable.rflags.Member := FlagTable.rflags.atBit 13
def ioplLow : FlagTable.rflags.Member := FlagTable.rflags.atBit 12
def overflow : FlagTable.rflags.Member := FlagTable.rflags.atBit 11
def direction : FlagTable.rflags.Member := FlagTable.rflags.atBit 10
def interrupt : FlagTable.rflags.Member := FlagTable.rflags.atBit 9
def sign : FlagTable.rflags.Member := FlagTable.rflags.atBit 7
def zero : FlagTable.rflags.Member := FlagTable.rflags.atBit 6
def auxiliary : FlagTable.rflags.Member := FlagTable.rflags.atBit 4
def parity : FlagTable.rflags.Member := FlagTable.rflags.atBit 2
def carry : FlagTable.rflags.Member := FlagTable.rflags.atBit 0

end Rflags

namespace Xcr0

def ymm : FlagTable.xcr0.Member := FlagTable.xcr0.atBit 2
def sse : FlagTable.xcr0.Member := FlagTable.xcr0.atBit 1

end Xcr0

end GuestResume
