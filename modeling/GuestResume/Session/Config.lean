import GuestResume.Memory.Address
import GuestResume.Memory.Policy
import GuestResume.Text.Hex
import GuestResume.Text.Numeral

/-! The settings of a session, read from named variables. A variable that is not set leaves its
setting at the default, and the first one with a bad value fails the whole. -/

namespace GuestResume

structure Config where
  policy : BindingPolicy := .reject
  /-- Where page tables go unless a place is given with the layout. -/
  tableBase : Option Address := none
  /-- The most steps that one run may take. -/
  maxSteps : Option Nat := none
  /-- A run ends after the step that reaches this instruction. -/
  stopAddress : Option Address := none
  deriving DecidableEq

inductive Setting where
  | bindingPolicy
  | tableBase
  | maxSteps
  | stopAddress
  deriving DecidableEq

namespace Setting

def all : List Setting :=
  [bindingPolicy, tableBase, maxSteps, stopAddress]

def name : Setting → String
  | bindingPolicy => "SNAPEMU_BINDING_POLICY"
  | tableBase => "SNAPEMU_PAGE_TABLE_BASE"
  | maxSteps => "SNAPEMU_MAX_STEPS"
  | stopAddress => "SNAPEMU_STOP_ADDRESS"

end Setting

structure ConfigError where
  setting : Setting
  reason : String
  deriving DecidableEq

def ConfigError.message (error : ConfigError) : String :=
  "invalid value for env var " ++ error.setting.name ++ ": " ++ error.reason

namespace Config

def policyOf (lookup : String → Option String) : Except ConfigError BindingPolicy :=
  match lookup Setting.bindingPolicy.name with
  | none => .ok .reject
  | some text => (BindingPolicy.ofText text).mapError (⟨.bindingPolicy, ·⟩)

def wordOf (lookup : String → Option String) (setting : Setting) :
    Except ConfigError (Option UInt64) :=
  match lookup setting.name with
  | none => .ok none
  | some text =>
    match Text.word? text with
    | some value => .ok (some value)
    | none =>
      .error ⟨setting, "`" ++ text ++ "` is not a decimal or 0x-prefixed hex integer"⟩

def tableBaseOf (lookup : String → Option String) : Except ConfigError (Option Address) :=
  match wordOf lookup .tableBase with
  | .ok (some base) =>
    if Address.IsAligned base then .ok (some base)
    else .error ⟨.tableBase, Text.hex base.toNat ++ " is not page aligned"⟩
  | other => other

def ofLookup (lookup : String → Option String) : Except ConfigError Config := do
  let policy ← policyOf lookup
  let tableBase ← tableBaseOf lookup
  let maxSteps ← wordOf lookup .maxSteps
  let stopAddress ← wordOf lookup .stopAddress
  return { policy, tableBase, maxSteps := maxSteps.map UInt64.toNat, stopAddress }

end Config

end GuestResume
