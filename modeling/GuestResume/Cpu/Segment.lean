import GuestResume.Cpu.Mode
import GuestResume.Memory.Address

/-! Segment descriptors. They are made for a mode, flat where the mode allows it and with paragraph
bases where it does not, or for resuming a captured 64-bit thread. -/

namespace GuestResume

structure Descriptor where
  selector : UInt16 := 0
  base : UInt64 := 0
  limit : UInt32 := 0
  rights : AccessRights := {}
  present : Bool := false
  deriving DecidableEq

namespace Descriptor

def flatLimit : UInt32 := 0xFFFFFFFF

def paragraphLimit : UInt32 := 0xFFFF

/-- Covers the whole address space. Its privilege is the one the selector requests. -/
def flat (selector : UInt16) (rights : AccessRights) : Descriptor where
  selector
  limit := flatLimit
  rights := rights.withPrivilege selector
  present := true

/-- Sixteen times the selector is the base. Virtual 8086 tasks run at the lowest privilege. -/
def paragraph (mode : Mode) (selector : UInt16) (kind : AccessRights) : Descriptor where
  selector
  base := selector.toUInt64 <<< 4
  limit := paragraphLimit
  rights :=
    let rights := (AccessRights.present.union .codeData).union (.union .readWrite .accessed)
    let rights := rights.union kind
    if mode = .virtual8086 then rights.withPrivilege 3 else rights
  present := true

def code (mode : Mode) (selector : UInt16) : Descriptor :=
  match mode with
  | .longMode => flat selector .longCode
  | .protectedMode => flat selector .flatCode
  | .realMode | .virtual8086 | .invalid => paragraph mode selector .executable

/-- For data and stacks. -/
def data (mode : Mode) (selector : UInt16) : Descriptor :=
  match mode with
  | .longMode | .protectedMode => flat selector .flatData
  | .realMode | .virtual8086 | .invalid => paragraph mode selector {}

end Descriptor

/-- Where a descriptor table lies. -/
structure TableRegister where
  base : UInt64 := 0
  limit : UInt16 := 0
  deriving DecidableEq

inductive SegmentName where
  | es
  | cs
  | ss
  | ds
  | fs
  | gs
  deriving DecidableEq

structure Segments where
  es : Descriptor := {}
  cs : Descriptor := {}
  ss : Descriptor := {}
  ds : Descriptor := {}
  fs : Descriptor := {}
  gs : Descriptor := {}
  deriving DecidableEq

namespace Segments

def set (segments : Segments) (name : SegmentName) (descriptor : Descriptor) : Segments :=
  match name with
  | .es => { segments with es := descriptor }
  | .cs => { segments with cs := descriptor }
  | .ss => { segments with ss := descriptor }
  | .ds => { segments with ds := descriptor }
  | .fs => { segments with fs := descriptor }
  | .gs => { segments with gs := descriptor }

/-- One data segment for everything but code. -/
def flat (mode : Mode) (code data : UInt16) : Segments :=
  let data := Descriptor.data mode data
  { es := data, cs := .code mode code, ss := data, ds := data, fs := data, gs := data }

end Segments

end GuestResume
