import GuestResume.Register.Basic

/-! Operations on one register as data, so that a history of them is a list. Only access to a name
that the table does not list fails, and a failing operation leaves the register alone. -/

namespace GuestResume

inductive RegisterCommand (table : FlagTable) where
  | get (flag : table.Member)
  | set (flag : table.Member) (on : Bool)
  | read (name : String)
  | write (name : String) (on : Bool)
  | merge (raw : UInt64)
  | load (raw : UInt64)
  | reset
  | value
  | name
  | render
  | renderFull
  | equals (raw : UInt64)
  | find (name : String)
  | describe (flag : table.Member)
  | mask (flag : table.Member)
  | writableBits
  | flags

inductive RegisterReply where
  | done
  | truth (value : Bool)
  | word (value : UInt64)
  | text (value : String)
  | flag (found : Option Flag)
  | flags (listed : List Flag)
  deriving DecidableEq

namespace Register

variable {table : FlagTable}

/-- Looking at a register leaves it as it is. -/
def inspect (register : Register table) : RegisterCommand table → Except UnknownFlag RegisterReply
  | .get flag => .ok (.truth (register.get flag))
  | .read name => (register.read name).map .truth
  | .value => .ok (.word register.value)
  | .name => .ok (.text table.name)
  | .render => .ok (.text register.render)
  | .renderFull => .ok (.text register.renderFull)
  | .equals raw => .ok (.truth (register = { value := raw }))
  | .find name => .ok (.flag ((table.find? name).map Subtype.val))
  | .describe flag => .ok (.flag (some flag.val))
  | .mask flag => .ok (.word flag.val.mask)
  | .writableBits => .ok (.word table.writableBits)
  | .flags => .ok (.flags table.flags)
  | .set .. | .write .. | .merge .. | .load .. | .reset => .ok .done

def run (register : Register table) (command : RegisterCommand table) :
    Except UnknownFlag (RegisterReply × Register table) :=
  match command with
  | .set flag on => .ok (.done, register.set flag on)
  | .write name on => (register.write name on).map fun register => (.done, register)
  | .merge raw => .ok (.done, register.merge raw)
  | .load raw => .ok (.done, { value := raw })
  | .reset => .ok (.done, {})
  | other => (register.inspect other).map fun reply => (reply, register)

end Register

end GuestResume
