import GuestResume.Memory.Command

/-! Guest memory with its caller, who holds pages that were handed over and not given back, table
images that are not bound yet, and layouts. Pages and images carry numbers in the order in which they
came; a number is not used again. -/

namespace GuestResume

/-- What the caller of a space holds. A slot or image that was given away stays empty. -/
structure Holdings where
  slots : Array (Option Page) := #[]
  images : Array (Option TableImage) := #[]
  layouts : Std.TreeMap Nat Layout := ∅

namespace Holdings

def layout (holdings : Holdings) (number : Nat) : Layout :=
  holdings.layouts[number]?.getD {}

def setLayout (holdings : Holdings) (number : Nat) (layout : Layout) : Holdings :=
  { holdings with layouts := holdings.layouts.insert number layout }

/-- What is held under any number. -/
def inUse {α : Type} (numbered : Array (Option α)) : List α :=
  numbered.toList.filterMap id

/-- The pages in hand and those of unbound table images. -/
def pageCount (holdings : Holdings) : Nat :=
  (inUse holdings.slots).length + ((inUse holdings.images).flatMap TableImage.pages).length

end Holdings

/-- Either memory refuses, or the caller names something that it does not hold. -/
inductive DeskError where
  | memory (error : MemoryError)
  | notHeld
  deriving DecidableEq

/-- Memory with its caller. -/
structure MemoryDesk (S : Type) where
  memory : Paged (Pager S)
  holdings : Holdings := {}

namespace MemoryDesk

variable {S α : Type} [PageSource S]

abbrev Run (S α : Type) : Type :=
  EStateM DeskError (MemoryDesk S) α

def onMemory (operation : Access (Paged (Pager S)) α) : Run S α := fun desk =>
  match operation desk.memory with
  | .ok value memory => .ok value { desk with memory }
  | .error error memory => .error (.memory error) { desk with memory }

def onSpace (operation : Access Space α) : Run S α :=
  onMemory (Paged.onSpace operation)

/-- The same access past a resolver that binds nothing. -/
def onIdle (operation : Access (Paged IdleResolver) α) : Run S α :=
  onSpace fun space =>
    match operation ⟨{}, space⟩ with
    | .ok value memory => .ok value memory.space
    | .error error memory => .error error memory.space

def ofExcept : Except MemoryError α → Run S α
  | .ok value => pure value
  | .error error => throw (.memory error)

def held : Run S Holdings := do
  return (← get).holdings

def setHoldings (holdings : Holdings) : Run S Unit :=
  modify fun desk => { desk with holdings }

def keepPage (page : Page) : Run S Nat := do
  let holdings ← held
  setHoldings { holdings with slots := holdings.slots.push (some page) }
  return holdings.slots.size

def keepImage (image : TableImage) : Run S Nat := do
  let holdings ← held
  setHoldings { holdings with images := holdings.images.push (some image) }
  return holdings.images.size

def heldPage (slot : Nat) : Run S Page := do
  match (← held).slots[slot]? with
  | some (some page) => return page
  | _ => throw .notHeld

def putPage (slot : Nat) (page : Option Page) : Run S Unit := do
  let holdings ← held
  setHoldings { holdings with slots := holdings.slots.setIfInBounds slot page }

/-- The caller no longer holds the page. -/
def takePage (slot : Nat) : Run S Page := do
  let page ← heldPage slot
  putPage slot none
  return page

def takeImage (number : Nat) : Run S TableImage := do
  let holdings ← held
  match holdings.images[number]? with
  | some (some image) =>
    setHoldings { holdings with images := holdings.images.setIfInBounds number none }
    return image
  | _ => throw .notHeld

/-- A caller that names something it does not hold changes nothing. -/
def attempt (operation : Run S α) : Run S α := fun desk =>
  match operation desk with
  | .error .notHeld _ => .error .notHeld desk
  | result => result

def takePages : List (Address × Nat) → Run S (List TablePage)
  | [] => return []
  | (address, slot) :: rest => do
    let page ← takePage slot
    return ⟨address, page⟩ :: (← takePages rest)

def keepPages : List TablePage → Run S (List (Address × Nat))
  | [] => return []
  | table :: rest => do
    let slot ← keepPage table.page
    return (table.address, slot) :: (← keepPages rest)

def layout (number : Nat) : Run S Layout := do
  return (← held).layout number

def setLayout (number : Nat) (layout : Layout) : Run S Unit := do
  setHoldings ((← held).setLayout number layout)

/-- Row by row up to the first that is refused. -/
def insertAll (number : Nat) : List (Address × Address × UInt32) → Run S Unit
  | [] => return ()
  | (gva, gpa, tag) :: rest => do
    setLayout number (← ofExcept ((← layout number).insertByTag gva gpa tag))
    insertAll number rest

def runLayout (number : Nat) : LayoutCommand → Run S MemoryReply
  | .insert gva gpa permission => do
    setLayout number (← ofExcept ((← layout number).insert gva gpa permission))
    return .done
  | .insertByTag gva gpa tag => do
    insertAll number [(gva, gpa, tag)]
    return .done
  | .insertAll rows => do
    insertAll number rows
    return .done
  | .physical gva => do return .address (← ofExcept ((← layout number).physical gva))
  | .permission gva => do return .permission ((← layout number).permission? gva)
  | .mappings => do return .mappings (← layout number).mappings
  | .summary => do return .layout (← layout number)

def space : Run S Space := do
  return (← get).memory.space

def allocate : Run S Page := do
  onSpace (modify Space.allocate)
  return .zero

def release : Run S Unit :=
  onSpace (modify Space.release)

def runSpace : SpaceCommand → Run S MemoryReply
  | .allocate => do return .slot (← keepPage (← allocate))
  | .writeSlot slot offset data => do
    let page ← heldPage slot
    putPage slot (some (page.write offset data))
    return .done
  | .readSlot slot => do return .page (← heldPage slot)
  | .insert gpa slot => do
    let page ← takePage slot
    match ← onSpace (Space.insert gpa page) with
    | some old => return .displaced (some (← keepPage old))
    | none => return .displaced none
  | .bindNew gpa data => do
    let page ← allocate
    match ← onSpace (Space.insert gpa (page.write 0 data)) with
    | some _ =>
      release
      return .replaced true
    | none => return .replaced false
  | .remove gpa => do return .slot (← keepPage (← onSpace (Space.remove gpa)))
  | .release slot => do
    discard (takePage slot)
    release
    return .done
  | .clear => do
    let (count, space) := (← space).clear
    onSpace (set space)
    return .count count
  | .isBound gpa => do return .truth ((← space).isBound gpa)
  | .isEmpty => do return .truth (← space).bound.isEmpty
  | .policy => do return .policy (← space).policy
  | .bindings => do return .addresses (← space).bound.keys
  | .access command => onSpace (Space.bus.run command)
  | .readWord gpa => do return .word (← onSpace (Space.bus.readWord gpa))
  | .writeWord gpa word => do
    onSpace (Space.bus.writeWord gpa word)
    return .done
  | .records cr3 => do return .records (← onSpace (Space.bus.records cr3))
  | .commit number base => do
    let layout ← layout number
    let (image, layout, space) ← ofExcept ((← space).commit layout (base.getD layout.freeBase))
    setLayout number layout
    onSpace (set space)
    return .committed (← keepImage image) image
  | .assemble root pages => do
    let image : TableImage := ⟨root, ← attempt (takePages pages)⟩
    return .assembled (← keepImage image) image
  | .dismantle number => do
    let image ← takeImage number
    return .dismantled (← keepPages image.pages)
  | .bindImage number => do
    let image ← takeImage number
    return .address (← onSpace (Space.bindImage image))

def run : MemoryCommand → Run S MemoryReply
  | .layout number command => runLayout number command
  | .space command => runSpace command
  | .view command => onMemory (Paged.run command)
  | .idleView command => onIdle (Paged.run command)
  | .resolve gpa => do
    onMemory (Resolver.resolve gpa)
    return .done
  | .sourceContains gpa => do
    return .truth (PageSource.contains (← get).memory.resolver.source gpa)

end MemoryDesk

end GuestResume
