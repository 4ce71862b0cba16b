import GuestResume.Session.Run

/-! What happens during a run, in order: which hooks are asked and what they answer, and which steps
the engine makes. The events of a run follow its definition, and every event changes the session as it
says, so that together they lead from the start of the run to its end. -/

namespace GuestResume

inductive Phase where
  | before
  | after
  deriving DecidableEq

/-- Hooks go by their place in the list, and steps by the number that the engine is given. -/
inductive Event where
  | asked (phase : Phase) (hook : Nat) (verdict : Verdict)
  | stepped (number : Nat)
  | failed (number : Nat) (error : SessionError)
  deriving DecidableEq

namespace Hook

variable {κ : Type} [Observer κ]

def ask (cpu : Cpu) (phase : Phase) : Bool → Hook κ → Reply (Hook κ) :=
  match phase with
  | .before => Hook.before cpu
  | .after => Hook.after cpu

/-- The questions to hooks, the first of which has the given place. -/
def events (cpu : Cpu) (phase : Phase) (requested : Bool) (place : Nat) : List (Hook κ) → List Event
  | [] => []
  | hook :: rest =>
    match hook.ask cpu phase requested with
    | ⟨.stop, _, _⟩ => [.asked phase place .stop]
    | ⟨.proceed, raises, _⟩ =>
      .asked phase place .proceed :: events cpu phase (raises || requested) (place + 1) rest

theorem mem_events {cpu : Cpu} {phase : Phase} {requested : Bool} {place : Nat} {hooks : List (Hook κ)}
    {event : Event} (member : event ∈ events cpu phase requested place hooks) :
    ∃ hook verdict, event = .asked phase hook verdict := by
  induction hooks generalizing requested place with
  | nil => cases member
  | cons hook rest ih =>
    unfold events at member
    split at member
    · exact ⟨place, .stop, List.mem_singleton.mp member⟩
    · obtain here | later := List.mem_cons.mp member
      · exact ⟨place, .proceed, here⟩
      · exact ih later

end Hook

namespace Drive

variable {ε η κ : Type}

/-- Once raised, the request stays up whatever the hooks do. -/
theorem setHooks_setHooks (drive : Drive ε η κ) (hooks others : List (Hook κ)) (raised again : Bool) :
    (drive.setHooks hooks raised).setHooks others again = drive.setHooks others (again || raised) := by
  simp only [setHooks, Session.setStop, Bool.or_assoc]

variable [Engine ε η] [Observer κ]

/-- Asks the hooks in order, before a step or after it. -/
def ask (phase : Phase) (drive : Drive ε η κ) : Verdict × Drive ε η κ :=
  let reply :=
    Hook.askAll (Hook.ask drive.session.cpu phase) drive.session.machine.stopRequested drive.session.hooks
  (reply.verdict, drive.setHooks reply.asked reply.raises)

def asking (phase : Phase) (drive : Drive ε η κ) : List Event :=
  Hook.events drive.session.cpu phase drive.session.machine.stopRequested 0 drive.session.hooks

def stepEvents (drive : Drive ε η κ) : List Event :=
  match Engine.step drive.session.steps (drive.engine, drive.session.machine) with
  | .error error _ => [.failed drive.session.steps error]
  | .ok () (engine, machine) =>
    .stepped drive.session.steps :: (drive.putBack engine machine).countStep.asking .after

def turnEvents (start : Nat) (drive : Drive ε η κ) : List Event :=
  if drive.session.machine.stopRequested then []
  else if drive.spent start then []
  else match drive.askBefore with
    | (.stop, _) => drive.asking .before
    | (.proceed, asked) => drive.asking .before ++ asked.stepEvents

def turnsEvents (start : Nat) : Nat → Drive ε η κ → List Event
  | 0, _ => []
  | fuel + 1, drive =>
    drive.turnEvents start ++
      match drive.turn start with
      | .ended _ _ => []
      | .running drive => turnsEvents start fuel drive

/-- A run that does not begin has no events. -/
def events (fuel : Nat) (drive : Drive ε η κ) : List Event :=
  match drive.session.failure, drive.session.cpu.validMode with
  | none, .ok _ =>
    turnsEvents drive.session.steps fuel { drive with session := drive.session.setStop false }
  | _, _ => []

/-- What one event does: a hook is asked about the processor as it is and may raise the stop request, or
the engine makes a step. -/
inductive Does : Drive ε η κ → Event → Drive ε η κ → Prop where
  | asked {drive : Drive ε η κ} {place : Nat} {hook : Hook κ} {reply : Reply (Hook κ)} (phase : Phase)
      (listed : drive.session.hooks[place]? = some hook)
      (answers : hook.ask drive.session.cpu phase drive.session.machine.stopRequested = reply) :
      Does drive (.asked phase place reply.verdict)
        (drive.setHooks (drive.session.hooks.set place reply.asked) reply.raises)
  | stepped {drive : Drive ε η κ} {engine : ε} {machine : Machine η}
      (done : Engine.step drive.session.steps (drive.engine, drive.session.machine) =
        .ok () (engine, machine)) :
      Does drive (.stepped drive.session.steps) (drive.putBack engine machine).countStep
  | failed {drive : Drive ε η κ} {error : SessionError} {engine : ε} {machine : Machine η}
      (fails : Engine.step drive.session.steps (drive.engine, drive.session.machine) =
        .error error (engine, machine)) :
      Does drive (.failed drive.session.steps error) (drive.putBack engine machine)

inductive Path : Drive ε η κ → List Event → Drive ε η κ → Prop where
  | nil {drive : Drive ε η κ} : Path drive [] drive
  | cons {drive middle last : Drive ε η κ} {event : Event} {events : List Event}
      (does : Does drive event middle) (rest : Path middle events last) :
      Path drive (event :: events) last

/-- One turn with its events, by the way it goes. -/
inductive TurnCase (start : Nat) (drive : Drive ε η κ) : List Event → Turn (Drive ε η κ) → Prop where
  | requested (raised : drive.session.machine.stopRequested = true) :
      TurnCase start drive [] (.ended (.ok .requested) drive)
  | spent (quiet : drive.session.machine.stopRequested = false) (used : drive.spent start = true) :
      TurnCase start drive [] (.ended (.ok .stepLimit) drive)
  | heldBack {asked : Drive ε η κ} (quiet : drive.session.machine.stopRequested = false)
      (left : drive.spent start = false) (stops : drive.ask .before = (.stop, asked)) :
      TurnCase start drive (drive.asking .before) (.ended (.ok .hook) asked)
  | failed {asked : Drive ε η κ} {error : SessionError} {engine : ε} {machine : Machine η}
      (quiet : drive.session.machine.stopRequested = false) (left : drive.spent start = false)
      (proceeds : drive.ask .before = (.proceed, asked))
      (fails : Engine.step asked.session.steps (asked.engine, asked.session.machine) =
        .error error (engine, machine)) :
      TurnCase start drive (drive.asking .before ++ [.failed asked.session.steps error])
        (.ended (.error error)
          (if error.isFatal then (asked.putBack engine machine).latch error
            else asked.putBack engine machine))
  | stopped {asked after : Drive ε η κ} {engine : ε} {machine : Machine η}
      (quiet : drive.session.machine.stopRequested = false) (left : drive.spent start = false)
      (proceeds : drive.ask .before = (.proceed, asked))
      (done : Engine.step asked.session.steps (asked.engine, asked.session.machine) =
        .ok () (engine, machine))
      (stops : (asked.putBack engine machine).countStep.ask .after = (.stop, after)) :
      TurnCase start drive
        (drive.asking .before ++ .stepped asked.session.steps ::
          (asked.putBack engine machine).countStep.asking .after)
        (.ended (.ok .hook) after)
  | running {asked after : Drive ε η κ} {engine : ε} {machine : Machine η}
      (quiet : drive.session.machine.stopRequested = false) (left : drive.spent start = false)
      (proceeds : drive.ask .before = (.proceed, asked))
      (done : Engine.step asked.session.steps (asked.engine, asked.session.machine) =
        .ok () (engine, machine))
      (continues : (asked.putBack engine machine).countStep.ask .after = (.proceed, after)) :
      TurnCase start drive
        (drive.asking .before ++ .stepped asked.session.steps ::
          (asked.putBack engine machine).countStep.asking .after)
        (.running after)

theorem turnCase (start : Nat) (drive : Drive ε η κ) :
    TurnCase start drive (drive.turnEvents start) (drive.turn start) := by
  unfold turnEvents turn
  cases quiet : drive.session.machine.stopRequested with
  | true => exact .requested quiet
  | false =>
    cases left : drive.spent start with
    | true => exact .spent quiet left
    | false =>
      simp only [Bool.false_eq_true, if_false]
      cases answer : drive.askBefore with
      | mk verdict asked =>
        cases verdict with
        | stop => exact .heldBack quiet left answer
        | proceed =>
          simp only [stepEvents, step]
          cases ended : Engine.step asked.session.steps (asked.engine, asked.session.machine) with
          | error error state => exact .failed quiet left answer ended
          | ok value state =>
            cases reply : (asked.putBack state.1 state.2).countStep.askAfter with
            | mk verdict after =>
              simp only [reply]
              cases verdict with
              | stop => exact .stopped quiet left answer ended reply
              | proceed => exact .running quiet left answer ended reply

/-- What holds of the turn that ends a run, and goes from any turn over to the one before, holds of all
turns of the run. -/
theorem turns_induction {start fuel : Nat} {drive after : Drive ε η κ} {ending : Except SessionError Ending}
    {motive : Drive ε η κ → List Event → Prop}
    (last : ∀ {drive events}, TurnCase start drive events (.ended ending after) → motive drive events)
    (earlier : ∀ {drive middle events more}, TurnCase start drive events (.running middle) →
      motive middle more → motive drive (events ++ more))
    (turned : turns start fuel drive = some (ending, after)) :
    motive drive (turnsEvents start fuel drive) := by
  induction fuel generalizing drive with
  | zero => cases turned
  | succ fuel ih =>
    have turn := turnCase start drive
    unfold turns at turned
    unfold turnsEvents
    generalize drive.turn start = going at turn turned
    cases going with
    | ended outcome later =>
      cases turned
      rw [List.append_nil]
      exact last turn
    | running later => exact earlier turn (ih turned)

/-- A run answers with an earlier failure, is refused, or takes its turns. -/
theorem run_cases {fuel : Nat} {drive after : Drive ε η κ} {outcome : Except SessionError Summary}
    (ran : drive.run fuel = some (outcome, after)) :
    (∃ error, drive.session.failure = some error ∧ outcome = .error error ∧ after = drive ∧
      drive.events fuel = []) ∨
    (∃ error, drive.session.failure = none ∧ drive.session.cpu.validMode = .error error ∧
      outcome = .error (.cpu error) ∧ after = drive ∧ drive.events fuel = []) ∨
    (∃ mode ending, drive.session.failure = none ∧ drive.session.cpu.validMode = .ok mode ∧
      turns drive.session.steps fuel { drive with session := drive.session.setStop false } =
        some (ending, after) ∧
      outcome = ending.map (⟨after.session.steps - drive.session.steps, ·⟩) ∧
      drive.events fuel =
        turnsEvents drive.session.steps fuel { drive with session := drive.session.setStop false }) := by
  unfold run at ran
  cases failure : drive.session.failure with
  | some error =>
    simp only [failure] at ran
    cases ran
    refine .inl ⟨error, rfl, rfl, rfl, ?_⟩
    simp only [events, failure]
  | none =>
    cases valid : drive.session.cpu.validMode with
    | error error =>
      simp only [failure, valid] at ran
      cases ran
      refine .inr (.inl ⟨error, rfl, rfl, rfl, rfl, ?_⟩)
      simp only [events, failure, valid]
    | ok mode =>
      simp only [failure, valid] at ran
      obtain ⟨⟨ending, last⟩, turned, same⟩ := Option.map_eq_some_iff.mp ran
      cases same
      refine .inr (.inr ⟨mode, ending, rfl, rfl, turned, rfl, ?_⟩)
      simp only [events, failure, valid]

theorem Path.append {first middle last : Drive ε η κ} {events more : List Event}
    (path : Path first events middle) (further : Path middle more last) :
    Path first (events ++ more) last := by
  induction path with
  | nil => exact further
  | cons does rest ih => exact .cons does (ih further)

/-- Asking the first hook behind some that were asked already. -/
theorem does_asked (drive : Drive ε η κ) (phase : Phase) (asked rest : List (Hook κ)) (hook : Hook κ)
    (raised : Bool) {reply : Reply (Hook κ)}
    (answers : hook.ask drive.session.cpu phase (raised || drive.session.machine.stopRequested) = reply) :
    Does (drive.setHooks (asked ++ hook :: rest) raised) (.asked phase asked.length reply.verdict)
      (drive.setHooks (asked ++ reply.asked :: rest) (reply.raises || raised)) := by
  have listed : (drive.setHooks (asked ++ hook :: rest) raised).session.hooks[asked.length]? = some hook := by
    simp [setHooks]
  have changed : (asked ++ hook :: rest).set asked.length reply.asked = asked ++ reply.asked :: rest := by
    simp
  have does := Does.asked phase listed answers
  rw [setHooks_setHooks] at does
  rw [← changed]
  exact does

/-- Asking the hooks that come after some that were asked already. -/
private theorem path_hooks (drive : Drive ε η κ) (phase : Phase) (asked hooks : List (Hook κ)) (raised : Bool)
    {reply : Reply (List (Hook κ))}
    (answers : Hook.askAll (Hook.ask drive.session.cpu phase) (raised || drive.session.machine.stopRequested)
      hooks = reply) :
    Path (drive.setHooks (asked ++ hooks) raised)
      (Hook.events drive.session.cpu phase (raised || drive.session.machine.stopRequested) asked.length hooks)
      (drive.setHooks (asked ++ reply.asked) (reply.raises || raised)) := by
  induction hooks generalizing asked raised reply with
  | nil =>
    subst answers
    exact .nil
  | cons hook rest ih =>
    unfold Hook.askAll at answers
    unfold Hook.events
    cases answer : hook.ask drive.session.cpu phase (raised || drive.session.machine.stopRequested) with
    | mk verdict raises changed =>
      have does := does_asked drive phase asked rest hook raised answer
      cases verdict with
      | stop =>
        simp only [answer] at answers ⊢
        subst answers
        exact .cons does .nil
      | proceed =>
        simp only [answer] at answers ⊢
        subst answers
        have further := ih (asked ++ [changed]) (raises || raised) rfl
        rw [List.append_assoc, List.append_assoc, List.length_append, Bool.or_assoc, ← Bool.or_assoc _ raises]
          at further
        exact .cons does further

theorem path_ask {drive asked : Drive ε η κ} {phase : Phase} {verdict : Verdict}
    (answer : drive.ask phase = (verdict, asked)) : Path drive (drive.asking phase) asked := by
  cases answer
  have path := path_hooks drive phase [] drive.session.hooks false rfl
  rwa [Bool.or_false] at path

/-- What the last event leaves behind is the end of the run, but for the mark of a fatal failure. -/
inductive Settles (last : Drive ε η κ) : Except SessionError Ending → Drive ε η κ → Prop where
  | plain {outcome : Except SessionError Ending} : Settles last outcome last
  | latched {error : SessionError} (fatal : error.isFatal = true) :
      Settles last (.error error) (last.latch error)

theorem TurnCase.path_running {start : Nat} {drive later : Drive ε η κ} {events : List Event}
    (turned : TurnCase start drive events (.running later)) : Path drive events later := by
  cases turned with
  | running _ _ proceeds done continues =>
    exact (path_ask proceeds).append (.cons (.stepped done) (path_ask continues))

theorem TurnCase.path_ended {start : Nat} {drive later : Drive ε η κ} {events : List Event}
    {outcome : Except SessionError Ending} (turned : TurnCase start drive events (.ended outcome later)) :
    ∃ last, Path drive events last ∧ Settles last outcome later := by
  cases turned with
  | requested | spent => exact ⟨drive, .nil, .plain⟩
  | heldBack _ _ stops => exact ⟨later, path_ask stops, .plain⟩
  | stopped _ _ proceeds done stops =>
    exact ⟨later, (path_ask proceeds).append (.cons (.stepped done) (path_ask stops)), .plain⟩
  | failed _ _ proceeds fails =>
    refine ⟨_, (path_ask proceeds).append (.cons (.failed fails) .nil), ?_⟩
    split
    next fatal => exact .latched fatal
    next => exact .plain

theorem path_turns {start fuel : Nat} {drive after : Drive ε η κ} {ending : Except SessionError Ending}
    (turned : turns start fuel drive = some (ending, after)) :
    ∃ last, Path drive (turnsEvents start fuel drive) last ∧ Settles last ending after := by
  refine turns_induction TurnCase.path_ended ?_ turned
  rintro drive middle events more turn ⟨last, path, settles⟩
  exact ⟨last, turn.path_running.append path, settles⟩

/-- The events of a run lead from its start to its end. -/
theorem path_run {fuel : Nat} {drive after : Drive ε η κ} {outcome : Except SessionError Summary}
    (ran : drive.run fuel = some (outcome, after)) :
    (drive.events fuel = [] ∧ after = drive) ∨
    ∃ last ending, Path { drive with session := drive.session.setStop false } (drive.events fuel) last ∧
      Settles last ending after := by
  obtain ⟨_, _, _, same, none⟩ | ⟨_, _, _, _, same, none⟩ | ⟨_, ending, _, _, turned, _, same⟩ :=
    run_cases ran
  · exact .inl ⟨none, same⟩
  · exact .inl ⟨none, same⟩
  · obtain ⟨last, path, settles⟩ := path_turns turned
    rw [same]
    exact .inr ⟨last, ending, path, settles⟩

end Drive

end GuestResume
