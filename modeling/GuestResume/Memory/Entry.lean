import GuestResume.Memory.Error

/-! Entries of a page table, and the two permissions a mapped page can have. An entry holds a frame
in bits 51 to 12 and flags around it. -/

namespace GuestResume

abbrev Entry := UInt64

namespace Entry

def present : Entry := 0x1

def writable : Entry := 0x2

def user : Entry := 0x4

/-- On levels 1 and 2: the entry maps memory itself, without a table below. -/
def large : Entry := 0x80

/-- Bits 0 to 8, and execution disable in bit 63. -/
def namedFlags : Entry := 0x80000000000001FF

/-- The flags of an entry that leads to another table. -/
def nodeFlags : Entry := present ||| writable ||| user

def frameMask : PageSize → Entry
  | .size4K => 0x000FFFFFFFFFF000
  | .size2M => 0x000FFFFFFFE00000
  | .size1G => 0x000FFFFFC0000000

def isPresent (entry : Entry) : Bool :=
  entry &&& present ≠ 0

def isLarge (entry : Entry) : Bool :=
  entry &&& large ≠ 0

def frame (entry : Entry) (size : PageSize := .size4K) : Address :=
  entry &&& frameMask size

def flags (entry : Entry) : Entry :=
  entry &&& namedFlags

def make (frame : Address) (flags : Entry) : Entry :=
  (frame &&& frameMask .size4K) ||| flags

end Entry

inductive Permission where
  | code
  | data
  deriving DecidableEq

namespace Permission

/-- Code is readable by the user; data is writable as well. -/
def flags : Permission → Entry
  | code => Entry.present ||| Entry.user
  | data => Entry.nodeFlags

def ofTag (tag : UInt32) : Except MemoryError Permission :=
  if tag = 0 then .ok code
  else if tag = 1 then .ok data
  else .error (.invalidPermission tag)

def name : Permission → String
  | code => "code"
  | data => "data"

end Permission

end GuestResume
