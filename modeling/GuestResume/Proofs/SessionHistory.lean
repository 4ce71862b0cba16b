import GuestResume.Proofs.LayoutInstall
import GuestResume.Proofs.RunTrace
import GuestResume.Session.Command
import Mathlib.Logic.Relation

/-! The life of a session. A run ends with an answer, with a step that failed harmlessly, or with one
that failed for good; in the last case the failure is kept. No call takes a kept failure away, and with
a kept failure a run does nothing. -/

namespace GuestResume

namespace Drive

variable {ε η κ : Type} [Observer κ] {start fuel : Nat} {drive asked after : Drive ε η κ}
  {verdict : Verdict} {events : List Event}

theorem failure_ask {phase : Phase} (answer : drive.ask phase = (verdict, asked)) :
    asked.session.failure = drive.session.failure := by
  cases answer
  rfl

theorem failed_not_mem_asking (drive : Drive ε η κ) (phase : Phase) (number : Nat) (error : SessionError) :
    .failed number error ∉ drive.asking phase := by
  intro member
  obtain ⟨_, _, impossible⟩ := Hook.mem_events member
  cases impossible

theorem failed_not_mem_stepped {asked stepped : Drive ε η κ} {step number : Nat} {error : SessionError} :
    .failed number error ∉ asked.asking .before ++ .stepped step :: stepped.asking .after := by
  intro member
  obtain early | late := List.mem_append.mp member
  · exact failed_not_mem_asking asked .before number error early
  · cases late with
    | tail _ late => exact failed_not_mem_asking stepped .after number error late

/-- How a run ends, as far as failures go: without any, with a harmless one, or with one that is kept. -/
inductive Ends (drive : Drive ε η κ) (events : List Event) :
    Except SessionError Ending → Drive ε η κ → Prop where
  | finished {reason : Ending} {after : Drive ε η κ} (sound : ∀ number error, .failed number error ∉ events)
      (kept : after.session.failure = drive.session.failure) : Ends drive events (.ok reason) after
  | aborted {number : Nat} {error : SessionError} {after : Drive ε η κ} (failed : .failed number error ∈ events)
      (only : ∀ other cause, .failed other cause ∈ events → cause = error) (harmless : error.isFatal = false)
      (kept : after.session.failure = drive.session.failure) : Ends drive events (.error error) after
  | fatal {number : Nat} {error : SessionError} {after : Drive ε η κ} (failed : .failed number error ∈ events)
      (only : ∀ other cause, .failed other cause ∈ events → cause = error) (fatal : error.isFatal = true)
      (latched : after.session.failure = some error)
      (raised : after.session.machine.stopRequested = true) : Ends drive events (.error error) after

variable [Engine ε η]

theorem TurnCase.ends {outcome : Except SessionError Ending}
    (turned : TurnCase start drive events (.ended outcome after)) : Ends drive events outcome after := by
  cases turned with
  | requested | spent => exact .finished (fun _ _ none => nomatch none) rfl
  | heldBack _ _ stops => exact .finished (failed_not_mem_asking drive .before) (failure_ask stops)
  | stopped _ _ proceeds _ stops =>
    have first := failure_ask proceeds
    exact .finished (fun _ _ => failed_not_mem_stepped) ((failure_ask stops).trans first)
  | @failed asked error engine machine _ _ proceeds fails =>
    have failed : .failed asked.session.steps error ∈
        drive.asking .before ++ [.failed asked.session.steps error] := by simp
    have only : ∀ other cause, .failed other cause ∈
        drive.asking .before ++ [.failed asked.session.steps error] → cause = error := by
      intro other cause member
      obtain early | late := List.mem_append.mp member
      · exact absurd early (failed_not_mem_asking drive .before other cause)
      · cases List.mem_singleton.mp late
        rfl
    have first := failure_ask proceeds
    cases fatal : error.isFatal with
    | true => exact .fatal failed only fatal rfl rfl
    | false => exact .aborted failed only fatal first

theorem TurnCase.ends_later {middle : Drive ε η κ} {more : List Event} {ending : Except SessionError Ending}
    (turned : TurnCase start drive events (.running middle)) (ends : Ends middle more ending after) :
    Ends drive (events ++ more) ending after := by
  cases turned with
  | running _ _ proceeds done continues =>
    have first := failure_ask proceeds
    have same := (failure_ask continues).trans first
    cases ends with
    | finished sound kept =>
      refine .finished (fun number error member => ?_) (kept.trans same)
      exact (List.mem_append.mp member).elim failed_not_mem_stepped (sound number error)
    | aborted failed only harmless kept =>
      refine .aborted (List.mem_append_right _ failed) (fun other cause member => ?_) harmless (kept.trans same)
      exact (List.mem_append.mp member).elim (fun early => absurd early failed_not_mem_stepped) (only other cause)
    | fatal failed only fatal latched raised =>
      refine .fatal (List.mem_append_right _ failed) (fun other cause member => ?_) fatal latched raised
      exact (List.mem_append.mp member).elim (fun early => absurd early failed_not_mem_stepped) (only other cause)

theorem ends_turns {ending : Except SessionError Ending}
    (turned : turns start fuel drive = some (ending, after)) :
    Ends drive (turnsEvents start fuel drive) ending after :=
  turns_induction TurnCase.ends TurnCase.ends_later turned

/-- A run that begins ends in one of the three ways. -/
theorem ends_run {outcome : Except SessionError Summary} (ran : drive.run fuel = some (outcome, after))
    (healthy : drive.session.failure = none) {mode : Mode} (valid : drive.session.cpu.validMode = .ok mode) :
    ∃ ending, outcome = ending.map (⟨after.session.steps - drive.session.steps, ·⟩) ∧
      Ends drive (drive.events fuel) ending after := by
  obtain ⟨_, failed, _⟩ | ⟨_, _, invalid, _⟩ | ⟨_, ending, _, _, turned, same, events⟩ := run_cases ran
  · rw [healthy] at failed
    cases failed
  · rw [valid] at invalid
    cases invalid
  · refine ⟨ending, same, ?_⟩
    rw [events]
    cases ends_turns turned with
    | finished sound kept => exact .finished sound kept
    | aborted failed only harmless kept => exact .aborted failed only harmless kept
    | fatal failed only fatal latched raised => exact .fatal failed only fatal latched raised

theorem failure_run {outcome : Except SessionError Summary} (ran : drive.run fuel = some (outcome, after)) :
    after.session.failure = drive.session.failure ∨
      ∃ error, error.isFatal = true ∧ after.session.failure = some error := by
  obtain ⟨_, _, _, rfl, _⟩ | ⟨_, _, _, _, rfl, _⟩ | ⟨_, _, healthy, valid, _⟩ := run_cases ran
  · exact .inl rfl
  · exact .inl rfl
  · obtain ⟨ending, -, ends⟩ := ends_run ran healthy valid
    cases ends with
    | finished _ kept => exact .inl kept
    | aborted _ _ _ kept => exact .inl kept
    | fatal _ _ fatal latched => exact .inr ⟨_, fatal, latched⟩

end Drive

namespace Session

variable {η κ : Type} {before after : Session η κ} {error : SessionError}

/-- A session that has failed for good. -/
structure Failed (session : Session η κ) (error : SessionError) : Prop where
  failure : session.failure = some error
  stopped : session.machine.stopRequested = true

theorem install_keeps (session : Session η κ) (layout : Layout) (base : Option Address) :
    let installed := (Access.after (install base) (session, layout)).1
    installed.failure = session.failure ∧ installed.steps = session.steps ∧
      installed.machine.stopRequested = session.machine.stopRequested := by
  obtain ⟨space, cpu, same⟩ := session.after_install layout base
  rw [same]
  exact ⟨rfl, rfl, rfl⟩

variable [Observer κ]

/-- One call on a session. A run may use any engine, and an access does anything to the memory. -/
inductive Moves : Session η κ → Session η κ → Prop where
  | run {ε : Type} [Engine ε η] {session : Session η κ} {engine : ε} {fuel : Nat}
      {outcome : Except SessionError Summary} {after : Drive ε η κ}
      (ran : Drive.run fuel ⟨engine, session⟩ = some (outcome, after)) : Moves session after.session
  | install {session : Session η κ} (layout : Layout) (base : Option Address) :
      Moves session (Access.after (Session.install base) (session, layout)).1
  | load {session : Session η κ} (thread : Thread) : Moves session (session.load thread)
  | edit {session : Session η κ} (cpu : Cpu) : Moves session (session.setCpu cpu)
  | access {session : Session η κ} {α : Type} (operation : Access (Paged η) α) :
      Moves session (session.setMemory (Access.after operation session.machine.memory))
  | release {session : Session η κ} : Moves session session.release.2
  | withHook {session : Session η κ} (hook : Hook κ) : Moves session (session.withHook hook)
  | askStop {session : Session η κ} : Moves session (session.setStop true)

/-- With a kept failure a run does nothing, whatever the engine. -/
theorem Failed.run {ε : Type} [Engine ε η] {session : Session η κ} (failed : session.Failed error)
    (engine : ε) (fuel : Nat) :
    Drive.run fuel ⟨engine, session⟩ = some (.error error, ⟨engine, session⟩) ∧
      Drive.events fuel ⟨engine, session⟩ = [] := by
  simp only [Drive.run, Drive.events, failed.failure, and_self]

theorem Failed.moves (failed : before.Failed error) (moved : Moves before after) :
    after.Failed error ∧ after.steps = before.steps := by
  cases moved with
  | run ran =>
    rw [(failed.run _ _).1] at ran
    cases ran
    exact ⟨failed, rfl⟩
  | install layout base =>
    obtain ⟨failure, steps, stopped⟩ := install_keeps before layout base
    exact ⟨⟨failure.trans failed.failure, stopped.trans failed.stopped⟩, steps⟩
  | load | edit | access | release | withHook => exact ⟨⟨failed.failure, failed.stopped⟩, rfl⟩
  | askStop => exact ⟨⟨failed.failure, rfl⟩, rfl⟩

theorem Failed.reaches (failed : before.Failed error) (reached : Relation.ReflTransGen Moves before after) :
    after.Failed error ∧ after.steps = before.steps := by
  induction reached with
  | refl => exact ⟨failed, rfl⟩
  | tail _ moved ih =>
    obtain ⟨failed, steps⟩ := ih
    obtain ⟨still, same⟩ := failed.moves moved
    exact ⟨still, same.trans steps⟩

/-- A session keeps fatal errors only. -/
theorem Moves.fatal (moved : Moves before after)
    (fatal : ∀ error, before.failure = some error → error.isFatal) :
    ∀ error, after.failure = some error → error.isFatal := by
  cases moved with
  | run ran =>
    intro error failed
    obtain kept | ⟨other, isFatal, latched⟩ := Drive.failure_run ran
    · exact fatal error (kept.symm.trans failed)
    · cases latched.symm.trans failed
      exact isFatal
  | install layout base =>
    rw [(install_keeps before layout base).1]
    exact fatal
  | load | edit | access | release | withHook | askStop => exact fatal

theorem reached_fatal {config : Config} {resolver : η} {session : Session η κ}
    (reached : Relation.ReflTransGen Moves (Session.new config resolver) session) :
    ∀ error, session.failure = some error → error.isFatal := by
  induction reached with
  | refl =>
    intro error impossible
    cases impossible
  | tail _ moved ih => exact moved.fatal ih

/-- Whatever is done with the session, the error stays, no step is counted, the stop request stays up, and no
run asks a hook, makes a step or changes anything. -/
def EndedBy (session : Session η κ) (error : SessionError) : Prop :=
  ∀ later, Relation.ReflTransGen Moves session later →
    later.failure = some error ∧ later.steps = session.steps ∧ later.machine.stopRequested = true ∧
      ∀ {ε : Type} [Engine ε η] (engine : ε) (fuel : Nat),
        Drive.run fuel ⟨engine, later⟩ = some (.error error, ⟨engine, later⟩) ∧
        Drive.events fuel ⟨engine, later⟩ = []

theorem Failed.endedBy (failed : before.Failed error) : before.EndedBy error := by
  intro later reached
  obtain ⟨still, steps⟩ := failed.reaches reached
  exact ⟨still.failure, steps, still.stopped, still.run⟩

end Session

theorem Cpu.validMode_eq_error {cpu : Cpu} {error : CpuError} :
    cpu.validMode = .error error ↔ cpu.mode = .invalid ∧ .invalidMode cpu.modeBasis = error := by
  unfold Cpu.validMode ModeBasis.validMode Cpu.mode
  split
  next invalid => simp [invalid]
  next valid => simp [valid]

namespace Drive

variable {ε η κ : Type} [Engine ε η] [Observer κ] {fuel number : Nat} {drive after : Drive ε η κ}
  {outcome : Except SessionError Summary} {error : SessionError}

theorem error_run (ran : drive.run fuel = some (.error error, after)) :
    drive.session.failure = some error ∨
      drive.session.failure = none ∧ drive.session.cpu.mode = .invalid ∨
      ∃ number, .failed number error ∈ drive.events fuel := by
  obtain ⟨kept, failure, same, _⟩ | ⟨_, healthy, invalid, _⟩ | ⟨_, _, healthy, valid, _⟩ := run_cases ran
  · cases same
    exact .inl failure
  · exact .inr (.inl ⟨healthy, (Cpu.validMode_eq_error.mp invalid).1⟩)
  · obtain ⟨ending, same, ends⟩ := ends_run ran healthy valid
    cases ends with
    | finished => cases same
    | aborted failed | fatal failed =>
      cases same
      exact .inr (.inr ⟨_, failed⟩)

theorem refused_run (ran : drive.run fuel = some (outcome, after)) (healthy : drive.session.failure = none)
    (invalid : drive.session.cpu.mode = .invalid) :
    outcome = .error (.cpu (.invalidMode drive.session.cpu.modeBasis)) ∧ after = drive ∧
      drive.events fuel = [] := by
  have refused := Cpu.validMode_eq_error.mpr ⟨invalid, rfl⟩
  obtain ⟨_, failed, _⟩ | ⟨_, _, told, answer, same, silent⟩ | ⟨_, _, _, valid, _⟩ := run_cases ran
  · rw [healthy] at failed
    cases failed
  · cases refused.symm.trans told
    exact ⟨answer, same, silent⟩
  · rw [refused] at valid
    cases valid

/-- A run in which a step fails had begun. -/
theorem ends_failed (ran : drive.run fuel = some (outcome, after))
    (failed : .failed number error ∈ drive.events fuel) :
    drive.session.failure = none ∧ ∃ ending,
      outcome = ending.map (⟨after.session.steps - drive.session.steps, ·⟩) ∧
      Ends drive (drive.events fuel) ending after := by
  obtain ⟨_, _, _, _, silent⟩ | ⟨_, _, _, _, _, silent⟩ | ⟨_, _, healthy, valid, _⟩ := run_cases ran
  · rw [silent] at failed
    cases failed
  · rw [silent] at failed
    cases failed
  · exact ⟨healthy, ends_run ran healthy valid⟩

theorem aborted_run (ran : drive.run fuel = some (outcome, after))
    (failed : .failed number error ∈ drive.events fuel) (harmless : error.isFatal = false) :
    outcome = .error error ∧ after.session.failure = none := by
  obtain ⟨healthy, ending, answer, ends⟩ := ends_failed ran failed
  cases ends with
  | finished sound => exact absurd failed (sound number error)
  | aborted _ only _ kept =>
    cases only number error failed
    exact ⟨answer, kept.trans healthy⟩
  | fatal _ only fatal =>
    cases only number error failed
    rw [harmless] at fatal
    cases fatal

theorem fatal_run (ran : drive.run fuel = some (outcome, after))
    (failed : .failed number error ∈ drive.events fuel) (fatal : error.isFatal) :
    outcome = .error error ∧ after.session.Failed error := by
  obtain ⟨healthy, ending, answer, ends⟩ := ends_failed ran failed
  cases ends with
  | finished sound => exact absurd failed (sound number error)
  | aborted _ only harmless =>
    cases only number error failed
    rw [harmless] at fatal
    cases fatal
  | fatal _ only _ latched raised =>
    cases only number error failed
    exact ⟨answer, latched, raised⟩

end Drive

/-- For a session with any history and any run of it. Only fatal errors are kept. A run that fails answers
with the kept failure, is refused for its registers and changes nothing, or fails with one of its steps. The
error of that step is the answer; a harmless one is not kept, and a fatal one ends the session. -/
theorem fatal_failure_final {ε η κ : Type} [Engine ε η] [Observer κ] {config : Config} {resolver : η}
    {session : Session η κ} {engine : ε} {fuel : Nat} {outcome : Except SessionError Summary}
    {after : Drive ε η κ} (reached : Relation.ReflTransGen Session.Moves (Session.new config resolver) session)
    (ran : Drive.run fuel ⟨engine, session⟩ = some (outcome, after)) :
    let events := Drive.events fuel ⟨engine, session⟩
    (∀ error, session.failure = some error → error.isFatal) ∧
    (∀ error, outcome = .error error → session.failure = some error ∨
      session.failure = none ∧ session.cpu.mode = .invalid ∨ ∃ number, .failed number error ∈ events) ∧
    (session.failure = none → session.cpu.mode = .invalid →
      outcome = .error (.cpu (.invalidMode session.cpu.modeBasis)) ∧ after = ⟨engine, session⟩ ∧
        events = []) ∧
    (∀ number error, .failed number error ∈ events → error.isFatal = false →
      outcome = .error error ∧ after.session.failure = none) ∧
    (∀ number error, .failed number error ∈ events → error.isFatal →
      outcome = .error error ∧ after.session.EndedBy error) := by
  intro events
  refine ⟨Session.reached_fatal reached, ?_, Drive.refused_run ran, ?_, ?_⟩
  · rintro error rfl
    exact Drive.error_run ran
  · intro number error failed harmless
    exact Drive.aborted_run ran failed harmless
  · intro number error failed fatal
    obtain ⟨answer, ended⟩ := Drive.fatal_run ran failed fatal
    exact ⟨answer, ended.endedBy⟩

/-- A fresh session over a snapshot without pages. -/
def Session.deserted : Session (Pager Snapshot) Watcher :=
  Session.new {} { source := {} }

theorem fatal_failure_final_deserted :
    ∃ outcome after, Drive.run 1 ⟨(⟨0x9000⟩ : Toucher), Session.deserted⟩ = some (outcome, after) ∧
      outcome = .error (.memory (.missingPage 0x9000)) ∧
      after.session.EndedBy (.memory (.missingPage 0x9000)) := by
  have ran : Drive.run 1 ⟨(⟨0x9000⟩ : Toucher), Session.deserted⟩ = some (_, _) := rfl
  obtain ⟨-, -, -, -, fatal⟩ := fatal_failure_final .refl ran
  have failed : .failed 0 (.memory (.missingPage 0x9000)) ∈
      Drive.events 1 ⟨(⟨0x9000⟩ : Toucher), Session.deserted⟩ := List.mem_singleton.mpr rfl
  exact ⟨_, _, ran, fatal 0 _ failed rfl⟩

end GuestResume
