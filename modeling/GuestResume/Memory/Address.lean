/-! Guest addresses. Physical addresses have 52 bits and virtual ones 48, of which the top bit is
repeated up to bit 63 in the canonical form. A virtual address selects one entry per level of the
page table, level 3 at the root and level 0 at the leaves. -/

namespace GuestResume

abbrev Address := UInt64

namespace Address

def pageBits : Nat := 12

def pageSize : Nat := 4096

def pageMask : Address := 0xFFF

/-- The first address beyond physical memory. -/
def physicalLimit : Nat := 1 <<< 52

def entriesPerTable : Nat := 512

/-- The distance from the start of the page. -/
def offset (a : Address) : Nat :=
  a.toNat % pageSize

theorem offset_lt (a : Address) : a.offset < pageSize :=
  Nat.mod_lt _ (by decide)

def pageStart (a : Address) : Address :=
  a - UInt64.ofNat a.offset

def IsAligned (a : Address) : Prop :=
  a.offset = 0

instance (a : Address) : Decidable a.IsAligned :=
  inferInstanceAs (Decidable (a.offset = 0))

def IsCanonical (a : Address) : Prop :=
  a < 0x800000000000 ∨ 0xFFFF800000000000 ≤ a

instance (a : Address) : Decidable a.IsCanonical :=
  inferInstanceAs (Decidable (_ ∨ _))

/-- The canonical address with the same low 48 bits. -/
def signExtend (a : Address) : Address :=
  let low := a % 0x1000000000000
  if low < 0x800000000000 then low else low + 0xFFFF000000000000

/-- The entry that an address selects in a table of the given level. -/
def index (level : Nat) (a : Address) : Nat :=
  a.toNat >>> (pageBits + 9 * level) % entriesPerTable

/-- The selected entries from the root down. -/
def indices (a : Address) : List Nat :=
  [3, 2, 1, 0].map a.index

/-- The canonical page address that selects these entries, given from the root down. An index that
does not fit into nine bits runs into the bits of the index before it. -/
def ofIndices (path : List Nat) : Address :=
  signExtend (UInt64.ofNat (path.foldl (fun prior index => prior <<< 9 ||| index) 0 <<< pageBits))

end Address

/-- How much memory one leaf entry maps: level 0, 1 and 2 of the table in turn. -/
inductive PageSize where
  | size4K
  | size2M
  | size1G
  deriving DecidableEq

def PageSize.bytes : PageSize → Nat
  | .size4K => 1 <<< 12
  | .size2M => 1 <<< 21
  | .size1G => 1 <<< 30

def PageSize.all : List PageSize :=
  [.size4K, .size2M, .size1G]

end GuestResume
