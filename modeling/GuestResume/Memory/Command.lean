import GuestResume.Memory.Paged
import GuestResume.Memory.Records

/-! Operations on guest memory as data, and their answers. Slots, images and layouts are named by
the numbers under which the caller holds them. -/

namespace GuestResume

/-- Accesses that every bus can answer. -/
inductive BusCommand where
  | locate (gpa : Address)
  | read (gpa : Address) (length : Nat)
  | write (gpa : Address) (data : List UInt8)
  | lookup (cr3 gva : Address)
  | physical (cr3 gva : Address)
  | readVirtual (cr3 gva : Address) (length : Nat)
  | writeVirtual (cr3 gva : Address) (data : List UInt8)

inductive ViewCommand where
  | ensure (gpa : Address)
  | isBound (gpa : Address)
  | access (command : BusCommand)

inductive LayoutCommand where
  | insert (gva gpa : Address) (permission : Permission)
  | insertByTag (gva gpa : Address) (tag : UInt32)
  | insertAll (rows : List (Address × Address × UInt32))
  | physical (gva : Address)
  | permission (gva : Address)
  | mappings
  | summary

inductive SpaceCommand where
  | allocate
  | writeSlot (slot offset : Nat) (data : List UInt8)
  | readSlot (slot : Nat)
  | insert (gpa : Address) (slot : Nat)
  | bindNew (gpa : Address) (data : List UInt8)
  | remove (gpa : Address)
  | release (slot : Nat)
  | clear
  | isBound (gpa : Address)
  | isEmpty
  | policy
  | bindings
  | access (command : BusCommand)
  | readWord (gpa : Address)
  | writeWord (gpa : Address) (word : UInt64)
  | records (cr3 : Address)
  | commit (layout : Nat) (base : Option Address)
  | assemble (root : Address) (pages : List (Address × Nat))
  | dismantle (image : Nat)
  | bindImage (image : Nat)

inductive MemoryCommand where
  | layout (number : Nat) (command : LayoutCommand)
  | space (command : SpaceCommand)
  | view (command : ViewCommand)
  /-- Through a resolver that binds nothing. -/
  | idleView (command : ViewCommand)
  | resolve (gpa : Address)
  | sourceContains (gpa : Address)

inductive MemoryReply where
  | done
  | truth (value : Bool)
  | count (value : Nat)
  | word (value : UInt64)
  | bytes (values : List UInt8)
  | page (content : Page)
  | slot (number : Nat)
  | replaced (any : Bool)
  | displaced (slot : Option Nat)
  | address (value : Address)
  | addresses (values : List Address)
  | target (value : Target)
  | records (values : List Record)
  | permission (value : Option Permission)
  | policy (value : BindingPolicy)
  | mappings (values : List Mapping)
  | layout (value : Layout)
  | committed (number : Nat) (image : TableImage)
  | assembled (number : Nat) (image : TableImage)
  /-- Where each page had to be bound, and the slot that it is in now. -/
  | dismantled (pages : List (Address × Nat))

namespace Bus

variable {σ : Type} (bus : Bus σ)

def run : BusCommand → Access σ MemoryReply
  | .locate gpa => do return .count (← bus.locate gpa).2
  | .read gpa length => do return .bytes (← bus.read gpa length)
  | .write gpa data => do
    bus.write gpa data
    return .done
  | .lookup cr3 gva => do return .target (← bus.lookup cr3 gva)
  | .physical cr3 gva => do return .address (← bus.physical cr3 gva)
  | .readVirtual cr3 gva length => do return .bytes (← bus.readVirtual cr3 gva length)
  | .writeVirtual cr3 gva data => do
    bus.writeVirtual cr3 gva data
    return .done

end Bus

def Paged.run {η : Type} [Resolver η] : ViewCommand → Access (Paged η) MemoryReply
  | .ensure gpa => do
    ensure gpa
    return .done
  | .isBound gpa => do return .truth ((← get).space.isBound gpa)
  | .access command => bus.run command

end GuestResume
