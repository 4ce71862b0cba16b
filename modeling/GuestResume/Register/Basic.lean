import GuestResume.Text.Hex
import GuestResume.Text.Quoted

/-! Control registers as words read through a table of named flags. A flag that software may not
write keeps the value it was loaded with, whatever is written or merged afterwards, and so do the
bits that no flag names. -/

namespace GuestResume

structure Flag where
  bit : Nat
  name : String
  description : String
  writable : Bool
  deriving DecidableEq

def Flag.mask (flag : Flag) : UInt64 :=
  UInt64.ofNat (1 <<< flag.bit)

/-- A register's name, its flags in the order of the listing, and its value after reset. -/
structure FlagTable where
  name : String
  flags : List Flag
  reset : UInt64 := 0

namespace FlagTable

/-- A flag of this table, which no other table's register accepts. -/
abbrev Member (table : FlagTable) : Type :=
  { flag : Flag // flag ∈ table.flags }

def find? (table : FlagTable) (name : String) : Option table.Member :=
  table.flags.attach.find? fun flag => flag.val.name == name

/-- The flag at a bit that the table is known to name. -/
def atBit (table : FlagTable) (bit : Nat)
    (named : (table.flags.find? fun flag => flag.bit == bit).isSome := by decide) : table.Member :=
  ⟨(table.flags.find? fun flag => flag.bit == bit).get named,
    List.mem_of_find?_eq_some (Option.some_get named).symm⟩

def writableBits (table : FlagTable) : UInt64 :=
  table.flags.foldl (fun mask flag => if flag.writable then mask ||| flag.mask else mask) 0

end FlagTable

/-- A name that a register's table does not list. -/
structure UnknownFlag where
  register : String
  flag : String
  deriving DecidableEq

def UnknownFlag.message (error : UnknownFlag) : String :=
  error.register ++ " has no flag named " ++ Text.quote error.flag

structure Register (table : FlagTable) where
  value : UInt64 := table.reset
  deriving DecidableEq

namespace Register

variable {table : FlagTable}

instance : Inhabited (Register table) := ⟨{}⟩

def get (register : Register table) (flag : table.Member) : Bool :=
  register.value &&& flag.val.mask ≠ 0

def set (register : Register table) (flag : table.Member) (on : Bool) : Register table :=
  if !flag.val.writable then register
  else if on then { value := register.value ||| flag.val.mask }
  else { value := register.value &&& ~~~flag.val.mask }

/-- Sets flags one after another. -/
def enable (register : Register table) (flags : List table.Member) : Register table :=
  flags.foldl (fun register flag => register.set flag true) register

def lookup (_register : Register table) (name : String) : Except UnknownFlag table.Member :=
  match table.find? name with
  | some flag => .ok flag
  | none => .error ⟨table.name, name⟩

def read (register : Register table) (name : String) : Except UnknownFlag Bool :=
  (register.lookup name).map register.get

def write (register : Register table) (name : String) (on : Bool) :
    Except UnknownFlag (Register table) :=
  (register.lookup name).map (register.set · on)

/-- Takes over the writable bits that are one in `raw`. No bit is ever cleared. -/
def merge (register : Register table) (raw : UInt64) : Register table :=
  { value := register.value ||| (raw &&& table.writableBits) }

def setFlags (register : Register table) : List Flag :=
  table.flags.filter fun flag => register.value &&& flag.mask ≠ 0

/-- The register's name with the names of its set flags in table order. -/
def render (register : Register table) : String :=
  table.name ++ "(flags=" ++ ",".intercalate (register.setFlags.map Flag.name) ++ ")"

/-- The flags together with the whole value, which also shows the bits without a name. -/
def renderFull (register : Register table) : String :=
  register.render ++ " = " ++ Text.hex register.value.toNat

end Register

end GuestResume
