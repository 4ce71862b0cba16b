import GuestResume.Memory.Walk

/-! The enumeration of a page table: all leaves that a walk can end at. Tables are read whole and
level by level; a table that is reached twice is read twice. -/

namespace GuestResume

/-- A leaf entry of a table. -/
structure Record where
  page : Address
  frame : Address
  size : PageSize
  flags : Entry
  deriving DecidableEq

/-- A table and the indices that lead to it from the root. -/
structure Subtable where
  table : Address
  path : List Nat
  deriving DecidableEq

namespace Subtable

/-- What an entry maps by itself, if it is present and maps anything. -/
def record? (subtable : Subtable) (level index : Nat) (entry : Entry) : Option Record :=
  if entry.isPresent then
    (entry.leafSize? level).map fun size =>
      ⟨Address.ofIndices (subtable.path ++ index :: List.replicate level 0), entry.frame size, size,
        entry.flags⟩
  else none

/-- The table below an entry that is present and maps nothing by itself. -/
def below? (subtable : Subtable) (level index : Nat) (entry : Entry) : Option Subtable :=
  if entry.isPresent ∧ entry.leafSize? level = none then
    some ⟨entry.frame, subtable.path ++ [index]⟩
  else none

def records (level : Nat) (subtable : Subtable) (entries : List Entry) : List Record :=
  entries.zipIdx.filterMap fun (entry, index) => subtable.record? level index entry

def below (level : Nat) (subtable : Subtable) (entries : List Entry) : List Subtable :=
  entries.zipIdx.filterMap fun (entry, index) => subtable.below? level index entry

end Subtable

namespace Bus

variable {σ : Type} (bus : Bus σ)

def readTable (subtable : Subtable) : Access σ (Subtable × List Entry) := do
  return (subtable, ← (List.range Address.entriesPerTable).mapM (bus.readEntry subtable.table))

/-- The leaves in and below tables of one level, a level at a time. -/
def enumerate : Nat → List Subtable → Access σ (List Record)
  | 0, subtables => do
    let tables ← subtables.mapM bus.readTable
    return tables.flatMap fun (subtable, entries) => subtable.records 0 entries
  | level + 1, subtables => do
    let tables ← subtables.mapM bus.readTable
    let lower ← enumerate level
      (tables.flatMap fun (subtable, entries) => subtable.below (level + 1) entries)
    return (tables.flatMap fun (subtable, entries) => subtable.records (level + 1) entries) ++ lower

/-- Every present leaf, in ascending order of the virtual pages. -/
def records (cr3 : Address) : Access σ (List Record) := do
  let found ← bus.enumerate 3 [⟨Entry.frame cr3, []⟩]
  return found.mergeSort fun a b => a.page ≤ b.page

end Bus

end GuestResume
