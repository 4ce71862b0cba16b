import GuestResume.Cpu.Basic

/-! Hooks look at the processor before and after every step and may end the run. They are asked in
the order in which they were added, and none is asked after one that ends the run. A hook may also hold
the stop request of its session: it sees whether the run has been asked to end, and can ask for that
itself, which ends the run only when the request is looked at next. -/

namespace GuestResume

inductive Verdict where
  | proceed
  | stop
  deriving DecidableEq

/-- What comes of asking: the verdict, whether a stop was requested on the way, and what was asked as it
is from then on. -/
structure Reply (α : Type) where
  verdict : Verdict := .proceed
  raises : Bool := false
  asked : α

def Reply.map {α β : Type} (place : α → β) (reply : Reply α) : Reply β :=
  { reply with asked := place reply.asked }

/-- An observer with a state of its own. It is told whether a stop is requested. -/
class Observer (κ : Type) where
  before : Cpu → Bool → κ → Reply κ
  after : Cpu → Bool → κ → Reply κ

inductive Hook (κ : Type) where
  /-- Ends the run after the step that reaches the address. -/
  | stopAt (address : Address)
  | observer (hook : κ)

namespace Hook

variable {κ : Type} [Observer κ]

def before (cpu : Cpu) (requested : Bool) : Hook κ → Reply (Hook κ)
  | stopAt address => { asked := stopAt address }
  | observer hook => (Observer.before cpu requested hook).map observer

def after (cpu : Cpu) (requested : Bool) : Hook κ → Reply (Hook κ)
  | stopAt address => { verdict := if cpu.rip = address then .stop else .proceed, asked := stopAt address }
  | observer hook => (Observer.after cpu requested hook).map observer

/-- Asks hooks in order up to the first that ends the run. -/
def askAll (ask : Bool → Hook κ → Reply (Hook κ)) (requested : Bool) : List (Hook κ) → Reply (List (Hook κ))
  | [] => { asked := [] }
  | hook :: rest =>
    match ask requested hook with
    | ⟨.stop, raises, hook⟩ => ⟨.stop, raises, hook :: rest⟩
    | ⟨.proceed, raises, hook⟩ =>
      let others := askAll ask (raises || requested) rest
      ⟨others.verdict, others.raises || raises, hook :: others.asked⟩

end Hook

end GuestResume
