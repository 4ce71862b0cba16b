import GuestResume.Cpu.Mode
import GuestResume.Memory.Error
import GuestResume.Session.Config

/-! Why an operation on a session fails. After a fatal error the session cannot be run again. -/

namespace GuestResume

inductive SessionError where
  | memory (error : MemoryError)
  | cpu (error : CpuError)
  | config (error : ConfigError)
  | engine (rip : UInt64) (message : String)
  deriving DecidableEq

namespace SessionError

def message : SessionError → String
  | memory error => error.message
  | cpu error => error.message
  | config error => error.message
  | engine rip message =>
    "execution engine failed at rip " ++ Text.hex rip.toNat ++ ": " ++ message

def isFatal : SessionError → Bool
  | memory error => error.isFatal
  | cpu error => error.isFatal
  | config _ => false
  | engine .. => true

end SessionError

end GuestResume
