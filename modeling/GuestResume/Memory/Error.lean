import GuestResume.Memory.Address
import GuestResume.Text.Hex

/-! Why an operation on guest memory fails. A session cannot go on after a page that the snapshot
does not hold or could not deliver; every other failure is the caller's to handle, except that nobody
handles a buffer that cannot be had: the program ends there. -/

namespace GuestResume

inductive MemoryError where
  | invalidPermission (tag : UInt32)
  | unmapped (address : Address)
  | nonCanonical (address : Address)
  | alreadyBound (page : Address)
  | unbound (address : Address)
  | crossesPage (address : Address) (length : Nat)
  | unaligned (address : Address)
  | tableFrozen
  | beyondLimit (address : Address)
  | frameOverlap (frame : Address)
  | missingPage (page : Address)
  | snapshotRead (page : Address) (reason : String)
  /-- There is no buffer of this length, so that the caller is told nothing any more. -/
  | noRoom (length : Nat)
  deriving DecidableEq

namespace MemoryError

def message : MemoryError → String
  | invalidPermission tag =>
    "invalid permission tag " ++ toString tag.toNat ++ " (expected 0 for code or 1 for data)"
  | unmapped address => "virtual address " ++ Text.hex address.toNat ++ " is not mapped"
  | nonCanonical address => "virtual address " ++ Text.hex address.toNat ++ " is not canonical"
  | alreadyBound page => "guest physical page " ++ Text.hex page.toNat ++ " is already bound"
  | unbound address =>
    "guest physical address " ++ Text.hex address.toNat ++ " has no host binding"
  | crossesPage address length =>
    "physical access of " ++ toString length ++ " bytes at " ++ Text.hex address.toNat ++
      " crosses a page boundary"
  | unaligned address => "address " ++ Text.hex address.toNat ++ " is not page aligned"
  | tableFrozen => "page table has already been committed"
  | beyondLimit address =>
    "guest physical address " ++ Text.hex address.toNat ++
      " is beyond the 52-bit physical address limit"
  | frameOverlap frame =>
    "page-table node at " ++ Text.hex frame.toNat ++ " overlaps a mapped frame"
  | missingPage page =>
    "guest physical page " ++ Text.hex page.toNat ++ " is not present in the snapshot"
  | snapshotRead page reason =>
    "failed to read snapshot page " ++ Text.hex page.toNat ++ ": " ++ reason
  | noRoom _ => "capacity overflow"

def isFatal : MemoryError → Bool
  | missingPage .. | snapshotRead .. => true
  | _ => false

end MemoryError

/-- An operation on a state that may fail. What it changed before a failure stays changed. -/
abbrev Access (σ α : Type) := EStateM MemoryError σ α

end GuestResume
