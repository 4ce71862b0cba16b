import GuestResume.Register.Tables
import GuestResume.Cpu.AccessRights

/-! The operating mode is never stored: it is read off the control registers and the rights of
the code segment. The modes exclude one another, and registers that fit none of them are invalid. -/

namespace GuestResume

inductive Mode where
  | realMode
  | protectedMode
  | virtual8086
  | longMode
  | invalid
  deriving DecidableEq

def Mode.name : Mode → String
  | realMode => "real"
  | protectedMode => "protected"
  | virtual8086 => "virtual-8086"
  | longMode => "long"
  | invalid => "invalid"

/-- What the mode depends on. -/
structure ModeBasis where
  cr0 : Register .cr0 := {}
  cr4 : Register .cr4 := {}
  efer : Register .efer := {}
  rflags : Register .rflags := {}
  codeRights : AccessRights := {}
  deriving DecidableEq

namespace ModeBasis

def isLong (r : ModeBasis) : Bool :=
  r.efer.get Efer.lme && r.cr4.get Cr4.pae && r.cr0.get Cr0.pe && r.codeRights.isLong

def isLegacyProtected (r : ModeBasis) : Bool :=
  r.cr0.get Cr0.pe && !r.efer.get Efer.lme && !r.cr4.get Cr4.pae && !r.codeRights.isLong

def isProtected (r : ModeBasis) : Bool :=
  r.isLegacyProtected && !r.rflags.get Rflags.vm

def isVirtual8086 (r : ModeBasis) : Bool :=
  r.isLegacyProtected && r.rflags.get Rflags.vm

def isReal (r : ModeBasis) : Bool :=
  !r.codeRights.isLong && !r.cr0.get Cr0.pe && !r.cr0.get Cr0.pg &&
    !r.cr4.get Cr4.pae && !r.cr4.get Cr4.pge

def mode (r : ModeBasis) : Mode :=
  if r.isLong then .longMode
  else if r.isProtected then .protectedMode
  else if r.isVirtual8086 then .virtual8086
  else if r.isReal then .realMode
  else .invalid

def render (r : ModeBasis) : String :=
  "cr0=" ++ Text.hex r.cr0.value.toNat ++ " cr4=" ++ Text.hex r.cr4.value.toNat ++
    " efer=" ++ Text.hex r.efer.value.toNat ++ " rflags=" ++ Text.hex r.rflags.value.toNat ++
    " cs.attr=" ++ Text.hex r.codeRights.bits.toNat

end ModeBasis

/-- Why an operation on the processor fails. -/
inductive CpuError where
  | unknownFlag (error : UnknownFlag)
  | invalidMode (registers : ModeBasis)
  deriving DecidableEq

namespace CpuError

def message : CpuError → String
  | unknownFlag error => error.message
  | invalidMode registers =>
    "register state does not describe a valid cpu mode (" ++ registers.render ++ ")"

def isFatal : CpuError → Bool
  | unknownFlag _ => false
  | invalidMode _ => true

end CpuError

def ModeBasis.validMode (r : ModeBasis) : Except CpuError Mode :=
  if r.mode = .invalid then .error (.invalidMode r) else .ok r.mode

/-- Register values for entering a mode afresh. -/
structure ModeEntry where
  mode : Mode
  cr0 : Register .cr0 := {}
  cr4 : Register .cr4 := {}
  efer : Register .efer := {}
  rflags : Register .rflags := {}
  deriving DecidableEq

namespace ModeEntry

/-- The hardware sets the extension type, so the entry loads it. -/
def long : ModeEntry where
  mode := .longMode
  cr0 :=
    ({ value := Cr0.et.val.mask } : Register .cr0).enable
      [Cr0.pg, Cr0.am, Cr0.wp, Cr0.ne, Cr0.pe]
  cr4 := ({} : Register .cr4).set Cr4.pae true
  efer := ({} : Register .efer).enable [Efer.nxe, Efer.lma, Efer.lme, Efer.sce]

def real : ModeEntry where
  mode := .realMode

/-- Without paging. -/
def flat : ModeEntry where
  mode := .protectedMode
  cr0 := ({} : Register .cr0).set Cr0.pe true

def virtual8086 : ModeEntry :=
  { flat with
    mode := .virtual8086
    rflags := flat.rflags.set Rflags.vm true }

/-- One entry for every mode that can be entered. -/
def all : List ModeEntry :=
  [real, flat, virtual8086, long]

theorem mem_all {entry : ModeEntry} :
    entry ∈ all ↔ entry = real ∨ entry = flat ∨ entry = virtual8086 ∨ entry = long := by
  simp [all]

def registers (entry : ModeEntry) (codeRights : AccessRights) : ModeBasis where
  cr0 := entry.cr0
  cr4 := entry.cr4
  efer := entry.efer
  rflags := entry.rflags
  codeRights := codeRights

end ModeEntry

end GuestResume
