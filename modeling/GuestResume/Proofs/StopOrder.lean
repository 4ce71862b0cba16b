import GuestResume.Proofs.HookCalls
import GuestResume.Proofs.RunCounts
import Mathlib.Control.Monad.Basic

/-! When a run stops, and for which reason. A hook that ends the run is the last thing that happens in it,
and so is a step that raises the stop request or reaches the configured stop address, but for the questions
to the hooks behind it, which may raise the request as well. The configured address comes first among the
hooks of a session for all its life, so that no other hook can keep it from being looked at. -/

namespace GuestResume

/-- With this event a hook ends the run. -/
def Event.stops : Event → Bool
  | asked _ _ .stop => true
  | _ => false

/-- The event belongs to the end of a step: it is the step itself or a question after it. -/
def Event.closes : Event → Bool
  | stepped _ | asked .after _ _ => true
  | _ => false

/-- Nothing follows a hook that ends the run. -/
def Event.StopsLast (events : List Event) : Prop :=
  events.Pairwise fun earlier _ => earlier.stops = false

namespace Hook

variable {κ : Type} [Observer κ] {cpu : Cpu} {phase : Phase} {requested : Bool} {address : Address}
  {hooks : List (Hook κ)}

/-- A stop address in front stays in front. -/
theorem head?_askAll (first : hooks.head? = some (.stopAt address)) :
    (askAll (ask cpu phase) requested hooks).asked.head? = some (.stopAt address) := by
  cases hooks with
  | nil => cases first
  | cons hook rest =>
    cases first
    cases phase with
    | before => rfl
    | after =>
      by_cases reached : cpu.rip = address
      · simp [askAll, ask, Hook.after, reached]
      · simp [askAll, ask, Hook.after, reached]

theorem askAll_reached (first : hooks.head? = some (.stopAt address)) (reached : cpu.rip = address) :
    (askAll (ask cpu .after) requested hooks).verdict = .stop := by
  cases hooks with
  | nil => cases first
  | cons hook rest =>
    cases first
    simp [askAll, ask, Hook.after, reached]

theorem stopsLast_events (cpu : Cpu) (phase : Phase) (requested : Bool) (place : Nat) (hooks : List (Hook κ)) :
    Event.StopsLast (events cpu phase requested place hooks) := by
  induction hooks generalizing requested place with
  | nil => exact .nil
  | cons hook rest ih =>
    unfold events
    split
    · exact List.pairwise_singleton ..
    · exact .cons (fun _ _ => rfl) (ih _ (place + 1))

end Hook

namespace Session

variable {η κ : Type} {session : Session η κ}

/-- The configured stop address, if there is one, is the first hook. -/
def Guarded (session : Session η κ) : Prop :=
  ∀ address, session.config.stopAddress = some address → session.hooks.head? = some (.stopAt address)

theorem guarded_new (config : Config) (resolver : η) : (new config resolver : Session η κ).Guarded := by
  intro address configured
  simp only [new] at configured ⊢
  rw [configured]
  rfl

theorem Guarded.withHook (guarded : session.Guarded) (hook : Hook κ) : (session.withHook hook).Guarded := by
  intro address configured
  simp only [Session.withHook, List.head?_append, guarded address configured, Option.some_or]

end Session

/-- With nothing before that ends the run, only the end of the order matters. -/
theorem Event.stopsLast_append {events more : List Event} (quiet : ∀ event ∈ events, event.stops = false)
    (last : StopsLast more) : StopsLast (events ++ more) := by
  refine List.pairwise_append.mpr ⟨?_, last, fun event member _ _ => quiet event member⟩
  exact List.pairwise_of_forall_mem_list fun event member _ _ => quiet event member

theorem Event.any_stops_append {events : List Event} (quiet : ∀ event ∈ events, event.stops = false)
    (more : List Event) : (events ++ more).any Event.stops = more.any Event.stops := by
  have none : events.any Event.stops = false := by
    simpa only [List.any_eq_false, Bool.not_eq_true] using quiet
  rw [List.any_append, none, Bool.false_or]

namespace Drive

variable {ε η κ : Type} {start fuel : Nat} {drive asked after middle last : Drive ε η κ}
  {phase : Phase} {verdict : Verdict} {events more : List Event} {ending : Except SessionError Ending}

/-- Why a run ended that did not fail: for a hook, else for a request, else for its budget. -/
def reason (events : List Event) (after : Drive ε η κ) : Ending :=
  if events.any Event.stops then .hook
  else if after.session.machine.stopRequested then .requested
  else .stepLimit

/-- Whether the run ends behind the state: a stop is requested, or the configured address is reached. -/
def Arrives (drive : Drive ε η κ) : Prop :=
  drive.session.machine.stopRequested = true ∨ drive.session.config.stopAddress = some drive.session.cpu.rip

/-- After a step that arrives, also if a hook behind it asks for the stop, the engine is not asked for
another one. -/
def Stays (course : List (Event × Drive ε η κ)) : Prop :=
  course.Pairwise fun earlier later => earlier.1.closes → earlier.2.Arrives → later.1.number? = none

/-- Hooks are asked, and no step is made. -/
def Asking (phase : Phase) (course : List (Event × Drive ε η κ)) : Prop :=
  ∀ entry ∈ course, ∃ hook verdict, entry.1 = .asked phase hook verdict

theorem Asking.number? {course : List (Event × Drive ε η κ)} (asking : Asking phase course)
    {entry : Event × Drive ε η κ} (member : entry ∈ course) : entry.1.number? = none := by
  obtain ⟨hook, verdict, event⟩ := asking entry member
  rw [event]
  rfl

theorem Asking.stays {course : List (Event × Drive ε η κ)} (asking : Asking phase course) : Stays course :=
  List.pairwise_of_forall_mem_list fun _ _ _ member _ _ => asking.number? member

/-- The questions before a step do not matter to what comes after it. -/
theorem Asking.stays_append {course further : List (Event × Drive ε η κ)} (asking : Asking .before course)
    (stays : Stays further) : Stays (course ++ further) := by
  refine List.pairwise_append.mpr ⟨asking.stays, stays, ?_⟩
  intro earlier member later _ closes
  obtain ⟨hook, verdict, event⟩ := asking earlier member
  rw [event] at closes
  cases closes

theorem guarded_landing {engine : ε} {machine : Machine η} (guarded : asked.session.Guarded) :
    (asked.putBack engine machine).countStep.session.Guarded :=
  guarded

/-- A hook that is asked neither takes a request back nor moves the processor. -/
theorem Arrives.setHooks (arrives : drive.Arrives) (hooks : List (Hook κ)) (raised : Bool) :
    (drive.setHooks hooks raised).Arrives := by
  obtain up | reached := arrives
  · exact .inl ((congrArg (raised || ·) up).trans (Bool.or_true raised))
  · exact .inr reached

variable [Observer κ]

theorem guarded_ask (answer : drive.ask phase = (verdict, asked)) (guarded : drive.session.Guarded) :
    asked.session.Guarded := by
  cases answer
  intro address configured
  exact Hook.head?_askAll (guarded address configured)

/-- A run does not go on from the configured stop address. -/
theorem stops_ask (guarded : drive.session.Guarded)
    (reached : drive.session.config.stopAddress = some drive.session.cpu.rip) :
    (drive.ask .after).1 = .stop :=
  Hook.askAll_reached (guarded _ reached) rfl

theorem quiet_asking (proceeds : drive.ask phase = (.proceed, asked)) :
    ∀ event ∈ drive.asking phase, event.stops = false := by
  intro event member
  rw [asking_proceed proceeds] at member
  obtain ⟨place, -, rfl⟩ := List.mem_map.mp member
  rfl

theorem any_stops_asking (stops : drive.ask phase = (.stop, asked)) : (drive.asking phase).any Event.stops := by
  obtain ⟨stopper, -, events⟩ := asking_stop stops
  rw [events]
  simp [Event.stops]

theorem quiet_stepped {number : Nat} (proceeds : drive.ask phase = (.proceed, asked)) :
    ∀ event ∈ Event.stepped number :: drive.asking phase, event.stops = false := by
  intro event member
  obtain rfl | later := List.mem_cons.mp member
  · rfl
  · exact quiet_asking proceeds event later

variable [Engine ε η]

/-- In a turn that leads to another one, no hook ends the run. -/
theorem TurnCase.quiet_running (turned : TurnCase start drive events (.running middle)) :
    ∀ event ∈ events, event.stops = false := by
  cases turned with
  | running _ _ proceeds _ continues =>
    intro event member
    obtain before | behind := List.mem_append.mp member
    · exact quiet_asking proceeds event before
    · exact quiet_stepped continues event behind

theorem TurnCase.stopsLast_ended (turned : TurnCase start drive events (.ended ending after)) :
    Event.StopsLast events := by
  cases turned with
  | requested | spent => exact .nil
  | heldBack => exact Hook.stopsLast_events ..
  | failed _ _ proceeds => exact Event.stopsLast_append (quiet_asking proceeds) (List.pairwise_singleton ..)
  | stopped _ _ proceeds =>
    exact Event.stopsLast_append (quiet_asking proceeds) (.cons (fun _ _ => rfl) (Hook.stopsLast_events ..))

theorem stopsLast_turns (turned : turns start fuel drive = some (ending, after)) :
    Event.StopsLast (turnsEvents start fuel drive) :=
  turns_induction (motive := fun _ events => Event.StopsLast events) TurnCase.stopsLast_ended
    (fun turn last => Event.stopsLast_append turn.quiet_running last) turned

theorem TurnCase.reason_ended {reason : Ending} (turned : TurnCase start drive events (.ended (.ok reason) after)) :
    reason = Drive.reason events after := by
  cases turned with
  | requested raised => simp [Drive.reason, raised]
  | spent quiet => simp [Drive.reason, quiet]
  | heldBack _ _ stops => simp only [Drive.reason, any_stops_asking stops, if_true]
  | stopped _ _ proceeds _ stops =>
    have hook := any_stops_asking stops
    rw [Drive.reason, Event.any_stops_append (quiet_asking proceeds), List.any_cons, hook, Bool.or_true, if_pos rfl]

theorem reason_turns {reason : Ending} (turned : turns start fuel drive = some (.ok reason, after)) :
    reason = Drive.reason (turnsEvents start fuel drive) after := by
  refine turns_induction (motive := fun _ events => reason = Drive.reason events after) TurnCase.reason_ended ?_ turned
  intro drive middle events more turn later
  rw [later, Drive.reason, Drive.reason, Event.any_stops_append turn.quiet_running]

/-- A run that does not fail has made every step that it asked for, and its end has its reason. -/
theorem finished_turns {reason : Ending}
    (turned : turns start fuel drive = some (.ok reason, after)) (begins : drive.session.steps = start) :
    let events := turnsEvents start fuel drive
    let successes := events.countP Event.succeeded
    events.filterMap Event.number? = List.range' drive.session.steps successes ∧
    after.session.steps - drive.session.steps = successes ∧ reason = Drive.reason events after ∧
    (reason = .stepLimit → drive.session.config.maxSteps = some successes) := by
  intro events successes
  cases counts_turns turned with
  | finished counter numbered =>
    refine ⟨numbered, Nat.sub_eq_of_eq_add' counter, reason_turns turned, ?_⟩
    rintro rfl
    subst begins
    obtain ⟨limit, configured, exhausted⟩ := steps_stepLimit turned (within_start drive)
    have all : limit = successes := Nat.add_left_cancel (exhausted.symm.trans counter)
    exact configured.trans (congrArg some all)

/-- A run that fails has asked for one step more, which is what it ends with. -/
theorem failed_turns {error : SessionError}
    (turned : turns start fuel drive = some (.error error, after)) :
    let events := turnsEvents start fuel drive
    events.filterMap Event.number? = List.range' drive.session.steps (events.countP Event.succeeded + 1) ∧
    events.getLast? = some (.failed after.session.steps error) := by
  intro events
  cases counts_turns turned with
  | failed _ numbered final => exact ⟨numbered, final⟩

/-- The events on a path, each with the state that it leads to. -/
inductive Course : Drive ε η κ → List (Event × Drive ε η κ) → Drive ε η κ → Prop where
  | nil {drive : Drive ε η κ} : Course drive [] drive
  | cons {drive middle last : Drive ε η κ} {event : Event} {course : List (Event × Drive ε η κ)}
      (does : Does drive event middle) (rest : Course middle course last) :
      Course drive ((event, middle) :: course) last

theorem Course.append {first : Drive ε η κ} {course further : List (Event × Drive ε η κ)}
    (start : Course first course middle) (rest : Course middle further last) :
    Course first (course ++ further) last := by
  induction start with
  | nil => exact rest
  | cons does _ ih => exact .cons does (ih rest)

theorem Path.course {first : Drive ε η κ} (path : Path first events last) :
    ∃ course, Course first course last ∧ course.map Prod.fst = events := by
  induction path with
  | nil => exact ⟨[], .nil, rfl⟩
  | cons does _ ih =>
    obtain ⟨course, leads, same⟩ := ih
    exact ⟨_, .cons does leads, congrArg _ same⟩

theorem course_ask (answer : drive.ask phase = (verdict, asked)) :
    ∃ course, Course drive course asked ∧ course.map Prod.fst = drive.asking phase ∧ Asking phase course := by
  obtain ⟨course, leads, same⟩ := (path_ask answer).course
  refine ⟨course, leads, same, fun entry member => ?_⟩
  have listed : entry.1 ∈ drive.asking phase := same ▸ List.mem_map_of_mem member
  exact Hook.mem_events listed

/-- Once the run has arrived, it still has when all hooks were asked. -/
theorem Asking.arrives {course : List (Event × Drive ε η κ)} (asking : Asking phase course)
    (leads : Course drive course last) :
    (drive.Arrives → last.Arrives) ∧ ∀ entry ∈ course, entry.2.Arrives → last.Arrives := by
  induction leads with
  | nil => exact ⟨id, fun _ none => nomatch none⟩
  | cons does _ ih =>
    obtain ⟨start, others⟩ := ih fun entry member => asking entry (List.mem_cons_of_mem _ member)
    obtain ⟨_, _, event⟩ := asking _ List.mem_cons_self
    cases does with
    | asked =>
      refine ⟨fun arrives => start (arrives.setHooks _ _), fun entry member => ?_⟩
      obtain rfl | later := List.mem_cons.mp member
      · exact start
      · exact others entry later
    | stepped | failed => cases event

/-- How a run goes: a request that is up when it begins ends it at once, and so does a step that arrives. -/
structure Leads (drive : Drive ε η κ) (events : List Event) (ending : Except SessionError Ending)
    (after : Drive ε η κ) : Prop where
  silent : drive.session.machine.stopRequested = true → events = []
  course : ∃ course last, Course drive course last ∧ course.map Prod.fst = events ∧ Settles last ending after ∧
    Stays course

theorem TurnCase.leads_ended (turned : TurnCase start drive events (.ended ending after)) :
    Leads drive events ending after := by
  cases turned with
  | requested => exact ⟨fun _ => rfl, [], drive, .nil, rfl, .plain, .nil⟩
  | spent => exact ⟨fun _ => rfl, [], drive, .nil, rfl, .plain, .nil⟩
  | heldBack quiet _ stops =>
    obtain ⟨course, leads, same, asking⟩ := course_ask stops
    exact ⟨(fun raised => nomatch quiet.symm.trans raised), course, after, leads, same, .plain, asking.stays⟩
  | @failed asked error engine machine quiet _ proceeds fails =>
    obtain ⟨before, first, same, asking⟩ := course_ask proceeds
    refine ⟨(fun raised => nomatch quiet.symm.trans raised), _, _, first.append (.cons (.failed fails) .nil), ?_, ?_,
      asking.stays_append ?_⟩
    · rw [List.map_append, same]
      rfl
    · split
      next fatal => exact .latched fatal
      next => exact .plain
    · exact List.pairwise_singleton ..
  | stopped quiet _ proceeds done stops =>
    obtain ⟨before, first, same, asking⟩ := course_ask proceeds
    obtain ⟨behind, second, equal, further⟩ := course_ask stops
    refine ⟨(fun raised => nomatch quiet.symm.trans raised), _, _, first.append (.cons (.stepped done) second), ?_,
      .plain, ?_⟩
    · rw [List.map_append, List.map_cons, same, equal]
    · exact asking.stays_append (.cons (fun later member _ _ => further.number? member) further.stays)

/-- A run does not go on where it has arrived: it has not reached the configured address, and where a stop is
requested, the next turn ends it. -/
theorem TurnCase.silent_later (turned : TurnCase start drive events (.running middle))
    (guarded : drive.session.Guarded) (leads : Leads middle more ending after) (arrives : middle.Arrives) :
    more = [] := by
  cases turned with
  | @running asked _ engine machine _ _ proceeds _ continues =>
    obtain raised | reached := arrives
    · exact leads.silent raised
    · obtain ⟨_, same⟩ := ask_eq continues
      rw [same] at reached
      have stops : ((asked.putBack engine machine).countStep.ask .after).1 = .stop :=
        stops_ask (guarded_landing (guarded_ask proceeds guarded)) reached
      rw [continues] at stops
      cases stops

theorem TurnCase.leads_later (turned : TurnCase start drive events (.running middle))
    (guarded : drive.session.Guarded) (leads : Leads middle more ending after) :
    Leads drive (events ++ more) ending after := by
  have silent := turned.silent_later guarded leads
  cases turned with
  | @running asked _ engine machine quiet _ proceeds done continues =>
    obtain ⟨before, first, same, asking⟩ := course_ask proceeds
    obtain ⟨behind, second, equal, further⟩ := course_ask continues
    obtain ⟨rest, last, third, events, settles, stays⟩ := leads.course
    obtain ⟨landed, answered⟩ := further.arrives second
    have ends (arrives : middle.Arrives) : rest = [] := by
      rw [silent arrives] at events
      exact List.map_eq_nil_iff.mp events
    refine ⟨(fun raised => nomatch quiet.symm.trans raised), _, last,
      (first.append (.cons (.stepped done) second)).append third, ?_, settles, ?_⟩
    · rw [List.map_append, List.map_append, List.map_cons, same, equal, events]
    · rw [List.append_assoc]
      refine asking.stays_append (.cons ?_ (List.pairwise_append.mpr ⟨further.stays, stays, ?_⟩))
      · intro later member _ arrives
        obtain near | far := List.mem_append.mp member
        · exact further.number? near
        · rw [ends (landed arrives)] at far
          cases far
      · intro earlier near later far _ arrives
        rw [ends (answered earlier near arrives)] at far
        cases far

theorem TurnCase.guarded_running (turned : TurnCase start drive events (.running middle))
    (guarded : drive.session.Guarded) : middle.session.Guarded := by
  cases turned with
  | running _ _ proceeds _ continues =>
    exact guarded_ask continues (guarded_landing (guarded_ask proceeds guarded))

theorem TurnCase.guarded_ended (turned : TurnCase start drive events (.ended ending after))
    (guarded : drive.session.Guarded) : after.session.Guarded := by
  cases turned with
  | requested | spent => exact guarded
  | heldBack _ _ stops => exact guarded_ask stops guarded
  | @failed asked error _ _ _ _ proceeds _ =>
    have first := guarded_ask proceeds guarded
    split
    · exact first
    · exact first
  | stopped _ _ proceeds _ stops =>
    exact guarded_ask stops (guarded_landing (guarded_ask proceeds guarded))

theorem guarded_turns (turned : turns start fuel drive = some (ending, after)) (guarded : drive.session.Guarded) :
    after.session.Guarded :=
  turns_induction (motive := fun drive _ => drive.session.Guarded → after.session.Guarded)
    TurnCase.guarded_ended (fun turn later guarded => later (turn.guarded_running guarded)) turned guarded

theorem leads_turns (turned : turns start fuel drive = some (ending, after)) (guarded : drive.session.Guarded) :
    Leads drive (turnsEvents start fuel drive) ending after :=
  turns_induction (motive := fun drive events => drive.session.Guarded → Leads drive events ending after)
    (fun turn _ => turn.leads_ended)
    (fun turn later guarded => turn.leads_later guarded (later (turn.guarded_running guarded))) turned guarded

theorem guarded_run {outcome : Except SessionError Summary} (ran : drive.run fuel = some (outcome, after))
    (guarded : drive.session.Guarded) : after.session.Guarded := by
  obtain ⟨_, _, _, rfl, _⟩ | ⟨_, _, _, _, rfl, _⟩ | ⟨_, _, _, _, turned, _, _⟩ := run_cases ran
  · exact guarded
  · exact guarded
  · exact guarded_turns turned guarded

end Drive

namespace Session

variable {η κ : Type} [Observer κ] {before after : Session η κ}

theorem Guarded.moves (guarded : before.Guarded) (moved : Moves before after) : after.Guarded := by
  cases moved with
  | run ran => exact Drive.guarded_run ran guarded
  | install layout base =>
    obtain ⟨space, cpu, same⟩ := before.after_install layout base
    rw [same]
    exact guarded
  | load | edit | access | release | askStop => exact guarded
  | withHook hook => exact guarded.withHook hook

theorem guarded_reached {config : Config} {resolver : η} {session : Session η κ}
    (reached : Relation.ReflTransGen Moves (Session.new config resolver) session) : session.Guarded := by
  induction reached with
  | refl => exact guarded_new config resolver
  | tail _ moved ih => exact ih.moves moved

end Session

/-- A session with any history that has not failed for good and whose registers make a mode. The steps that
succeed are counted, and the summary gives their number. The engine is asked for one step after the other,
numbered from where the session stands and at most as many as the budget allows; where a run fails, one more
was asked for, and failed with this error. A hook that ends the run does so last of all. After a step that
ends with a stop requested, be it by a hook that is asked after it, or at the configured address, no other is
asked for. A run that does not fail ends for a hook, else for a request, else because as many steps as the
budget allows were made. -/
theorem run_counts_steps {ε η κ : Type} [Engine ε η] [Observer κ] {config : Config} {resolver : η}
    {session : Session η κ} {engine : ε} {fuel : Nat} {outcome : Except SessionError Summary}
    {after : Drive ε η κ} (reached : Relation.ReflTransGen Session.Moves (Session.new config resolver) session)
    (healthy : session.failure = none) (valid : session.cpu.mode ≠ .invalid)
    (ran : Drive.run fuel ⟨engine, session⟩ = some (outcome, after)) :
    let events := Drive.events fuel ⟨engine, session⟩
    let successes := events.countP Event.succeeded
    let numbers := events.filterMap Event.number?
    after.session.steps = session.steps + successes ∧
    (∀ error, outcome = .error error → numbers = List.range' session.steps (successes + 1) ∧
      events.getLast? = some (.failed after.session.steps error)) ∧
    (∀ summary, outcome = .ok summary → numbers = List.range' session.steps successes ∧
      summary.steps = successes ∧ summary.reason = Drive.reason events after ∧
      (summary.reason = .stepLimit → session.config.maxSteps = some successes)) ∧
    (∀ limit, session.config.maxSteps = some limit → numbers.length ≤ limit) ∧
    Event.StopsLast events ∧
    ∃ course last ending, Drive.Course ⟨engine, session.setStop false⟩ course last ∧
      course.map Prod.fst = events ∧ Drive.Settles last ending after ∧
      outcome = ending.map (⟨after.session.steps - session.steps, ·⟩) ∧ Drive.Stays course := by
  intro events successes numbers
  obtain ⟨ending, turned, answer, told⟩ := Drive.turns_run ran healthy valid
  have counter := (Drive.counts_turns turned).steps
  have stopsLast := Drive.stopsLast_turns turned
  have budget : ∀ limit, session.config.maxSteps = some limit → numbers.length ≤ limit := by
    intro limit configured
    have within := Drive.within_start (⟨engine, session.setStop false⟩ : Drive ε η κ)
    have bounded := Drive.numbers_within turned within limit configured
    rw [← told] at bounded
    exact Nat.le_of_add_le_add_left bounded
  have guarded : session.Guarded := Session.guarded_reached reached
  obtain ⟨course, last, leads, same, settles, stays⟩ := (Drive.leads_turns turned guarded).course
  rw [← told] at counter stopsLast same
  refine ⟨counter, ?_, ?_, budget, stopsLast, course, last, ending, leads, same, settles, answer, stays⟩
  · rintro error rfl
    cases ending with
    | error other =>
      cases answer
      have failed := Drive.failed_turns turned
      rwa [← told] at failed
    | ok reason => cases answer
  · rintro summary rfl
    cases ending with
    | error error => cases answer
    | ok reason =>
      cases answer
      have finished := Drive.finished_turns turned rfl
      rwa [← told] at finished

/-- A session with a budget of two steps that stops at address two, a counter behind that hook, and a stop
asked for before it runs. -/
def Session.hemmedIn : Session (Pager Snapshot) Watcher :=
  ((Session.new { maxSteps := some 2, stopAddress := some 2 } { source := {} }).withHook
    (.observer (.counter none 0 0))).setStop true

/-- The second step goes to address two and asks for a stop, and it is the last in the budget. -/
def Script.allAtOnce : Script where
  steps := #[[.advance 1], [.advance 1, .stop]]

theorem run_counts_steps_allAtOnce :
    Relation.ReflTransGen Session.Moves (Session.new { maxSteps := some 2, stopAddress := some 2 } { source := {} })
      Session.hemmedIn ∧
    Session.hemmedIn.failure = none ∧ Session.hemmedIn.cpu.mode ≠ .invalid ∧
    ∃ after, Drive.run 3 ⟨Script.allAtOnce, Session.hemmedIn⟩ = some (.ok ⟨2, .hook⟩, after) ∧
      after.session.steps = 2 ∧ after.session.machine.stopRequested = true ∧
      (Drive.events 3 ⟨Script.allAtOnce, Session.hemmedIn⟩).filterMap Event.number? = [0, 1] ∧
      Ending.hook = Drive.reason (Drive.events 3 ⟨Script.allAtOnce, Session.hemmedIn⟩) after ∧
      ∃ course last ending,
        Drive.Course ⟨Script.allAtOnce, Session.hemmedIn.setStop false⟩ course last ∧
        Drive.Settles last ending after ∧ Drive.Stays course := by
  have reached : Relation.ReflTransGen Session.Moves
      (Session.new { maxSteps := some 2, stopAddress := some 2 } { source := {} }) Session.hemmedIn :=
    (Relation.ReflTransGen.refl.tail (Session.Moves.withHook (.observer (.counter none 0 0)))).tail .askStop
  have valid : Session.hemmedIn.cpu.mode ≠ .invalid := by decide
  have ends : (Drive.run 3 ⟨Script.allAtOnce, Session.hemmedIn⟩).map
      (fun ran => (ran.1, ran.2.session.machine.stopRequested)) = some (.ok ⟨2, .hook⟩, true) := by
    decide +kernel
  obtain ⟨⟨outcome, after⟩, ran, same⟩ := Option.map_eq_some_iff.mp ends
  obtain ⟨rfl, raised⟩ := Prod.mk.inj same
  obtain ⟨counter, -, finished, -, -, course, last, ending, leads, -, settles, -, stays⟩ :=
    run_counts_steps reached rfl valid ran
  obtain ⟨numbers, steps, reason, -⟩ := finished _ rfl
  rw [← steps] at counter numbers
  exact ⟨reached, rfl, valid, after, ran, counter, raised, numbers, reason, course, last, ending, leads, settles,
    stays⟩

end GuestResume
