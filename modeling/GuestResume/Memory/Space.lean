import GuestResume.Memory.Table
import GuestResume.Memory.Bus
import GuestResume.Memory.Policy

/-! Guest physical memory: pages bound at page addresses. The space gives out fresh pages and takes
pages back, and counts both. A page that it refuses to bind is taken back at once. -/

namespace GuestResume

structure Space where
  policy : BindingPolicy := .reject
  bound : Std.TreeMap Address Page := ∅
  allocated : Nat := 0
  released : Nat := 0
  /-- Whether ever more pages were taken back than had been given out. -/
  overdrawn : Bool := false

namespace Space

def live (space : Space) : Nat :=
  space.allocated - space.released

def page? (space : Space) (gpa : Address) : Option Page :=
  space.bound[gpa.pageStart]?

theorem page?_bind (space : Space) (gpa other : Address) (page : Page) :
    ({ space with bound := space.bound.insert gpa page } : Space).page? other =
      if gpa = other.pageStart then some page else space.page? other := by
  simp [page?, Std.TreeMap.getElem?_insert]

def isBound (space : Space) (gpa : Address) : Bool :=
  space.bound.contains gpa.pageStart

/-- The byte at an address whose page is bound. -/
def byte? (space : Space) (gpa : Address) : Option UInt8 :=
  (space.page? gpa).map fun page => page.byte gpa.offset

/-- Accounts for pages given out. A fresh page is zero. -/
def allocate (space : Space) (count : Nat := 1) : Space :=
  { space with allocated := space.allocated + count }

/-- Accounts for pages taken back. -/
def release (space : Space) (count : Nat := 1) : Space :=
  { space with
    released := space.released + count
    overdrawn := space.overdrawn || space.allocated < space.released + count }

/-- Binds a page and hands back the one it displaces. -/
def insert (gpa : Address) (page : Page) : Access Space (Option Page) := fun space =>
  if ¬gpa.IsAligned then .error (.unaligned gpa) space.release
  else if space.policy = .reject ∧ space.bound.contains gpa then
    .error (.alreadyBound gpa) space.release
  else .ok space.bound[gpa]? { space with bound := space.bound.insert gpa page }

/-- Unbinds the page that holds the address and hands it over. -/
def remove (gpa : Address) : Access Space Page := fun space =>
  match space.page? gpa with
  | some page => .ok page { space with bound := space.bound.erase gpa.pageStart }
  | none => .error (.unbound gpa) space

/-- Takes a layout's table pages from the space. A failure takes none. -/
def commit (space : Space) (layout : Layout) (base : Address) :
    Except MemoryError (TableImage × Layout × Space) := do
  let image ← layout.image base
  return (image, layout.freeze, space.allocate image.pages.length)

/-- Binds table pages in order, each displaced page taken back. From a page that is refused on, all
are taken back. -/
def insertTables : List TablePage → Access Space Unit
  | [] => pure ()
  | table :: rest => fun space =>
    match insert table.address table.page space with
    | .ok (some _) space => insertTables rest space.release
    | .ok none space => insertTables rest space
    | .error error space => .error error (space.release rest.length)

/-- Binds a table image. Where pages are not replaced, a taken address refuses the whole image. -/
def bindImage (image : TableImage) : Access Space Address := fun space =>
  let taken := if space.policy = .reject then
    (image.pages.map TablePage.address).find? space.bound.contains else none
  match taken with
  | some gpa => .error (.alreadyBound gpa) (space.release image.pages.length)
  | none => (do insertTables image.pages; return image.root) space

def clear (space : Space) : Nat × Space :=
  (space.bound.size, { space with bound := ∅ }.release space.bound.size)

/-- An access lies inside one page, and this check comes before all others. -/
def inPage (gpa : Address) (length : Nat) : Except MemoryError Unit :=
  if Address.pageSize - gpa.offset < length then .error (.crossesPage gpa length) else .ok ()

/-- The page that holds the address, and how far into it the address is. -/
def locate (space : Space) (gpa : Address) : Except MemoryError (Page × Nat) :=
  match space.page? gpa with
  | some page => .ok (page, gpa.offset)
  | none => .error (.unbound gpa)

def read (space : Space) (gpa : Address) (length : Nat) : Except MemoryError (List UInt8) := do
  inPage gpa length
  let (page, offset) ← space.locate gpa
  return page.read offset length

def write (gpa : Address) (data : List UInt8) : Access Space Unit := fun space =>
  match inPage gpa data.length, space.locate gpa with
  | .error error, _ => .error error space
  | .ok _, .error error => .error error space
  | .ok _, .ok (page, offset) =>
    .ok () { space with bound := space.bound.insert gpa.pageStart (page.write offset data) }

/-- A query that leaves the space as it is. -/
def query {α : Type} (ask : Space → Except MemoryError α) : Access Space α := fun space =>
  match ask space with
  | .ok answer => .ok answer space
  | .error error => .error error space

/-- Reaches the bound pages and no others. -/
def bus : Bus Space where
  locate gpa := query fun space => space.locate gpa
  read gpa length := query fun space => space.read gpa length
  write := write

end Space

end GuestResume
