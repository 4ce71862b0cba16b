import GuestResume.Memory.Layout
import GuestResume.Memory.Page

/-! A layout written out as the pages of a four-level table. The tables follow one another in
memory, each before the tables below it and these in ascending order of their indices, so that a
layout has one image for every base. -/

namespace GuestResume

/-- The page of one table and where it has to be bound. -/
structure TablePage where
  address : Address
  page : Page
  deriving DecidableEq

/-- Pages that are not bound yet. -/
structure TableImage where
  root : Address
  pages : List TablePage
  deriving DecidableEq

namespace Tree

def pagesAfter (base : Address) (count : Nat) : Address :=
  base + UInt64.ofNat (Address.pageSize * count)

/-- Gives every subtree the address of its first table, from `base` upwards. -/
def place {height : Nat} (base : Address) :
    List (Nat × Tree height) → List (Nat × Tree height × Address)
  | [] => []
  | (index, child) :: rest =>
    (index, child, base) :: place (pagesAfter base child.tableCount) rest

/-- The entry that leads to a tree whose first table lies at `base`. -/
def entry (base : Address) : {height : Nat} → Tree height → Entry
  | 0, leaf => Entry.make leaf.frame leaf.permission.flags
  | _ + 1, _ => Entry.make base Entry.nodeFlags

def image (base : Address) : {height : Nat} → Tree height → List TablePage
  | 0, _ => []
  | _ + 1, tree =>
    let placed := place (pagesAfter base 1) tree.children
    let words := placed.map fun (index, child, address) => (index, child.entry address)
    ⟨base, Page.ofWords words⟩ :: placed.flatMap fun (_, child, address) => child.image address

end Tree

namespace Layout

/-- The lowest frame among the pages from `base` up to `limit`. -/
def overlap? (layout : Layout) (base : Address) (limit : Nat) : Option Address :=
  (layout.frames.filter fun frame => base ≤ frame ∧ frame.toNat < limit).min?

def image (layout : Layout) (base : Address) : Except MemoryError TableImage :=
  let limit := base.toNat + Address.pageSize * layout.tableCount
  if layout.frozen then .error .tableFrozen
  else if ¬base.IsAligned then .error (.unaligned base)
  else if Address.physicalLimit < limit then .error (.beyondLimit base)
  else match layout.overlap? base limit with
    | some frame => .error (.frameOverlap frame)
    | none => .ok ⟨base, layout.tree.image base⟩

def freeze (layout : Layout) : Layout :=
  { layout with frozen := true }

end Layout

end GuestResume
