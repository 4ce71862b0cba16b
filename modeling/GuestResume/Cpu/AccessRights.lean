/-! The attribute word of a segment: what it holds, who may use it, and whether it is there. -/

namespace GuestResume

/-- The access byte of a segment descriptor in bits 0 to 7 and its upper flags in bits 8 to 11. The
bits above have no meaning and are kept. -/
structure AccessRights where
  bits : UInt16 := 0
  deriving DecidableEq

namespace AccessRights

/-- The named bits, lowest first. -/
def names : List String :=
  ["ACCESSED", "READ_WRITE", "CONFORMING", "EXECUTABLE", "CODE_DATA", "DPL_LOW", "DPL_HIGH",
    "PRESENT", "AVAILABLE", "LONG", "DEFAULT_SIZE", "GRANULARITY"]

def accessed : AccessRights := ⟨0x1⟩

/-- Readable for code, writable for data. -/
def readWrite : AccessRights := ⟨0x2⟩

def executable : AccessRights := ⟨0x8⟩

/-- Clear for system segments. -/
def codeData : AccessRights := ⟨0x10⟩

def present : AccessRights := ⟨0x80⟩

def long : AccessRights := ⟨0x200⟩

def granularity : AccessRights := ⟨0x800⟩

def union (a b : AccessRights) : AccessRights :=
  ⟨a.bits ||| b.bits⟩

def without (a b : AccessRights) : AccessRights :=
  ⟨a.bits &&& ~~~b.bits⟩

def contains (a b : AccessRights) : Bool :=
  a.bits &&& b.bits = b.bits

/-- A present 64-bit code segment. -/
def longCode : AccessRights := ⟨0x29B⟩

/-- A present, writable 32-bit data segment counted in pages. -/
def flatData : AccessRights := ⟨0xC93⟩

/-- A present, readable 32-bit code segment counted in pages. -/
def flatCode : AccessRights := ⟨0xC9B⟩

def privilege (a : AccessRights) : UInt16 :=
  (a.bits >>> 5) &&& 3

/-- Only the low two bits of the level count. -/
def withPrivilege (a : AccessRights) (level : UInt16) : AccessRights :=
  ⟨(a.bits &&& ~~~(0x60 : UInt16)) ||| ((level &&& 3) <<< 5)⟩

def isLong (a : AccessRights) : Bool :=
  a.contains long

def setNames (a : AccessRights) : List String :=
  (names.zipIdx.filter fun (_, bit) => a.bits.toNat.testBit bit).map Prod.fst

/-- Drops the bits without a name. -/
def truncate (a : AccessRights) : AccessRights :=
  ⟨a.bits &&& 0xFFF⟩

end AccessRights

end GuestResume
