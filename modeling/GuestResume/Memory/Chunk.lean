import GuestResume.Memory.Address

/-! A range of bytes cut at the page boundaries. Addresses go round at the end of the address
space. -/

namespace GuestResume

/-- The part of a range that lies in one page: its address, and which bytes of the range it is. -/
structure Chunk where
  address : Address
  start : Nat
  length : Nat
  deriving DecidableEq

namespace Chunk

def splitFrom (base : Address) (start remaining : Nat) : List Chunk :=
  if remaining = 0 then []
  else
    let address : Address := base + UInt64.ofNat start
    let length := min (Address.pageSize - address.offset) remaining
    ⟨address, start, length⟩ :: splitFrom base (start + length) (remaining - length)
termination_by remaining
decreasing_by
  have inside := Address.offset_lt (base + UInt64.ofNat start)
  omega

def split (base : Address) (length : Nat) : List Chunk :=
  splitFrom base 0 length

/-- The chunk's bytes out of those of the whole range. -/
def slice (chunk : Chunk) (data : List UInt8) : List UInt8 :=
  (data.drop chunk.start).take chunk.length

end Chunk

end GuestResume
