import GuestResume.Memory.Entry
import GuestResume.Memory.Page

/-! A bus is any way of reaching physical memory: the bound pages alone, or the bound pages and
those that can still be brought in. Whatever goes through a page table is said once, over an
arbitrary bus. -/

namespace GuestResume

/-- Reads and writes stay inside one page. Locating an address tells its page and the distance into
it. -/
structure Bus (σ : Type) where
  locate : Address → Access σ (Page × Nat)
  read : Address → Nat → Access σ (List UInt8)
  write : Address → List UInt8 → Access σ Unit

namespace Bus

variable {σ : Type} (bus : Bus σ)

def readWord (gpa : Address) : Access σ UInt64 := do
  return Word.ofBytes (← bus.read gpa 8)

def writeWord (gpa : Address) (word : UInt64) : Access σ Unit :=
  bus.write gpa (Word.toBytes word)

def readEntry (table : Address) (index : Nat) : Access σ Entry :=
  bus.readWord (table + UInt64.ofNat (8 * index))

end Bus

end GuestResume
