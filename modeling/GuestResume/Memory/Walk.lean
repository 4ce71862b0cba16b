import GuestResume.Memory.Bus
import GuestResume.Memory.Chunk

/-! Virtual memory through a page table that lies in memory itself, whatever its content. Every page
of a range is looked up when its turn comes, so a write may change the table it goes through. -/

namespace GuestResume

structure Target where
  address : Address
  size : PageSize
  deriving DecidableEq

namespace Entry

/-- How much a present entry maps by itself. On levels 1 and 2 that is for the entry to say. -/
def leafSize? (level : Nat) (entry : Entry) : Option PageSize :=
  match level with
  | 0 => some .size4K
  | 1 => if entry.isLarge then some .size2M else none
  | 2 => if entry.isLarge then some .size1G else none
  | _ => none

def target (entry : Entry) (size : PageSize) (gva : Address) : Target :=
  ⟨entry.frame size + UInt64.ofNat (gva.toNat % size.bytes), size⟩

end Entry

namespace Bus

variable {σ : Type} (bus : Bus σ)

/-- The entry for `gva` in a table of the given level. -/
def presentEntry (gva : Address) (level : Nat) (table : Address) : Access σ Entry := do
  let entry ← bus.readEntry table (gva.index level)
  if entry.isPresent then return entry else throw (.unmapped gva)

/-- Follows the entries for `gva` from a table of the given level down. -/
def walk (gva : Address) : Nat → Address → Access σ Target
  | 0, table => do
    let entry ← bus.presentEntry gva 0 table
    return entry.target .size4K gva
  | level + 1, table => do
    let entry ← bus.presentEntry gva (level + 1) table
    match entry.leafSize? (level + 1) with
    | some size => return entry.target size gva
    | none => walk gva level entry.frame

def lookup (cr3 gva : Address) : Access σ Target :=
  if gva.IsCanonical then bus.walk gva 3 (Entry.frame cr3) else throw (.nonCanonical gva)

def physical (cr3 gva : Address) : Access σ Address := do
  return (← bus.lookup cr3 gva).address

def readChunks (cr3 : Address) : List Chunk → Access σ (List UInt8)
  | [] => return []
  | chunk :: rest => do
    let bytes ← bus.read (← bus.physical cr3 chunk.address) chunk.length
    return bytes ++ (← readChunks cr3 rest)

/-- Into a buffer that is there, page by page, each page looked up when its turn comes. -/
def readInto (cr3 gva : Address) (length : Nat) : Access σ (List UInt8) :=
  bus.readChunks cr3 (Chunk.split gva length)

/-- The most bytes that a buffer can have. -/
def bufferLimit : Nat :=
  0x7FFFFFFFFFFFFFFF

/-- The buffer is taken before anything is looked up. -/
def readVirtual (cr3 gva : Address) (length : Nat) : Access σ (List UInt8) :=
  if bufferLimit < length then throw (.noRoom length) else bus.readInto cr3 gva length

def writeChunks (cr3 : Address) (data : List UInt8) : List Chunk → Access σ Unit
  | [] => return ()
  | chunk :: rest => do
    bus.write (← bus.physical cr3 chunk.address) (chunk.slice data)
    writeChunks cr3 data rest

/-- Pages before one that fails stay written. -/
def writeVirtual (cr3 gva : Address) (data : List UInt8) : Access σ Unit :=
  bus.writeChunks cr3 data (Chunk.split gva data.length)

end Bus

end GuestResume
