import GuestResume.Proofs.RunTrace
import GuestResume.Session.Command

/-! Which steps a hook gets to see. Every hook is asked once before each step. After a step the hooks are
asked in order, but only up to one that ends the run: the hooks behind it miss the end of the last step,
and that is all a hook can miss. -/

namespace GuestResume

namespace Event

/-- The events of a run that concern one hook: the questions to it, and the steps. -/
def concerns (hook : Nat) : Event → Bool
  | asked _ place _ => place = hook
  | stepped _ | failed _ _ => true

/-- Whether a hook is asked once before every step and once after every step that succeeds. It may be asked
once more before a step that another hook holds back. -/
def attends : List Event → Bool
  | asked .before _ _ :: stepped _ :: asked .after _ _ :: rest => attends rest
  | [asked .before _ _, failed _ _] => true
  | [asked .before _ _] => true
  | [] => true
  | _ => false

end Event

/-- What a hook sees of some events. -/
def Hook.share (hook : Nat) (events : List Event) : List Event :=
  events.filter (Event.concerns hook)

/-- The first hooks, asked in order, none of which ends the run. -/
def Event.proceeding (phase : Phase) (place count : Nat) : List Event :=
  (List.range' place count).map fun hook => .asked phase hook .proceed

namespace Hook

theorem share_append (hook : Nat) (events more : List Event) :
    share hook (events ++ more) = share hook events ++ share hook more :=
  List.filter_append ..

theorem share_proceeding (phase : Phase) (hook count : Nat) :
    share hook (Event.proceeding phase 0 count) = if hook < count then [.asked phase hook .proceed] else [] := by
  induction count with
  | zero => rfl
  | succ count ih =>
    have split : Event.proceeding phase 0 (count + 1) =
        Event.proceeding phase 0 count ++ [.asked phase count .proceed] := by
      simp [Event.proceeding, List.range'_concat]
    rw [split, share_append, ih]
    rcases Nat.lt_trichotomy hook count with before | rfl | behind
    · have other : count ≠ hook := by omega
      simp [share, Event.concerns, before, other, Nat.lt_succ_of_lt before]
    · simp [share, Event.concerns]
    · have other : count ≠ hook := by omega
      have beyond : ¬hook < count := by omega
      have outside : ¬hook < count + 1 := by omega
      simp [share, Event.concerns, other, beyond, outside]

variable {κ : Type}

theorem length_askAll (ask : Bool → Hook κ → Reply (Hook κ)) (requested : Bool) (hooks : List (Hook κ)) :
    (askAll ask requested hooks).asked.length = hooks.length := by
  induction hooks generalizing requested with
  | nil => rfl
  | cons hook rest ih =>
    unfold askAll
    split
    · rfl
    · exact congrArg Nat.succ (ih _)

variable [Observer κ] {cpu : Cpu} {phase : Phase} {requested : Bool} {hooks : List (Hook κ)}

theorem events_proceed (proceeds : (askAll (ask cpu phase) requested hooks).verdict = .proceed) (place : Nat) :
    events cpu phase requested place hooks = Event.proceeding phase place hooks.length := by
  induction hooks generalizing requested place with
  | nil => rfl
  | cons hook rest ih =>
    unfold askAll at proceeds
    unfold events
    cases answer : hook.ask cpu phase requested with
    | mk verdict raises changed =>
      rw [answer] at proceeds
      cases verdict with
      | stop => cases proceeds
      | proceed => exact congrArg _ (ih proceeds (place + 1))

theorem events_stop (stops : (askAll (ask cpu phase) requested hooks).verdict = .stop) (place : Nat) :
    ∃ count < hooks.length,
      events cpu phase requested place hooks =
        Event.proceeding phase place count ++ [.asked phase (place + count) .stop] := by
  induction hooks generalizing requested place with
  | nil => cases stops
  | cons hook rest ih =>
    unfold askAll at stops
    unfold events
    cases answer : hook.ask cpu phase requested with
    | mk verdict raises changed =>
      rw [answer] at stops
      cases verdict with
      | stop => exact ⟨0, Nat.succ_pos _, rfl⟩
      | proceed =>
        obtain ⟨count, inside, same⟩ := ih stops (place + 1)
        refine ⟨count + 1, Nat.succ_lt_succ inside, ?_⟩
        rw [Nat.add_right_comm] at same
        exact congrArg _ same

end Hook

namespace Drive

variable {ε η κ : Type} [Observer κ] {start fuel hook : Nat} {drive asked after : Drive ε η κ}
  {phase : Phase} {verdict : Verdict} {events : List Event}

theorem length_ask (answer : drive.ask phase = (verdict, asked)) :
    asked.session.hooks.length = drive.session.hooks.length := by
  cases answer
  exact Hook.length_askAll ..

theorem asking_proceed (proceeds : drive.ask phase = (.proceed, asked)) :
    drive.asking phase = Event.proceeding phase 0 drive.session.hooks.length :=
  Hook.events_proceed (show (Hook.askAll ..).verdict = _ from congrArg Prod.fst proceeds) 0

theorem stop_not_mem_proceeding {phase other : Phase} {place earlier count : Nat} :
    .asked other earlier .stop ∉ Event.proceeding phase place count := by
  intro member
  obtain ⟨_, _, impossible⟩ := List.mem_map.mp member
  cases impossible

theorem stop_not_mem_asking_before (drive : Drive ε η κ) (earlier : Nat) :
    .asked .after earlier .stop ∉ drive.asking .before := by
  intro member
  obtain ⟨_, _, impossible⟩ := Hook.mem_events member
  cases impossible

/-- Around a step, only the questions after it can end the run there. -/
theorem stop_mem_stepped (drive stepped : Drive ε η κ) (number earlier : Nat) :
    .asked .after earlier .stop ∈ drive.asking .before ++ .stepped number :: stepped.asking .after ↔
      .asked .after earlier .stop ∈ stepped.asking .after := by
  constructor
  · intro member
    obtain before | after := List.mem_append.mp member
    · exact absurd before (stop_not_mem_asking_before drive earlier)
    · cases after with
      | tail _ after => exact after
  · exact fun member => List.mem_append_right _ (List.mem_cons_of_mem _ member)

theorem share_asking (proceeds : drive.ask phase = (.proceed, asked))
    (inside : hook < drive.session.hooks.length) :
    Hook.share hook (drive.asking phase) = [.asked phase hook .proceed] := by
  rw [asking_proceed proceeds, Hook.share_proceeding, if_pos inside]

theorem asking_stop (stops : drive.ask phase = (.stop, asked)) :
    ∃ stopper < drive.session.hooks.length,
      drive.asking phase = Event.proceeding phase 0 stopper ++ [.asked phase stopper .stop] := by
  obtain ⟨stopper, inside, events⟩ :=
    Hook.events_stop (show (Hook.askAll ..).verdict = _ from congrArg Prod.fst stops) 0
  rw [Nat.zero_add] at events
  exact ⟨stopper, inside, events⟩

/-- The hook that ends a run is the last to be asked. -/
theorem share_stop (stops : drive.ask phase = (.stop, asked)) :
    ∃ stopper < drive.session.hooks.length,
      (∀ other, .asked phase other .stop ∈ drive.asking phase ↔ other = stopper) ∧
      (∀ hook ≤ stopper, ∃ verdict, Hook.share hook (drive.asking phase) = [.asked phase hook verdict]) ∧
      ∀ hook, stopper < hook → Hook.share hook (drive.asking phase) = [] := by
  obtain ⟨stopper, inside, events⟩ := asking_stop stops
  rw [events]
  refine ⟨stopper, inside, ?_, ?_, ?_⟩
  · intro other
    constructor
    · intro member
      obtain early | last := List.mem_append.mp member
      · exact absurd early stop_not_mem_proceeding
      · cases List.mem_singleton.mp last
        rfl
    · rintro rfl
      exact List.mem_append_right _ (List.mem_singleton.mpr rfl)
  · intro hook upTo
    rw [Hook.share_append, Hook.share_proceeding]
    rcases Nat.lt_or_eq_of_le upTo with before | rfl
    · have other : stopper ≠ hook := by omega
      exact ⟨.proceed, by simp [Hook.share, Event.concerns, before, other]⟩
    · exact ⟨.stop, by simp [Hook.share, Event.concerns]⟩
  · intro hook behind
    have other : stopper ≠ hook := by omega
    have beyond : ¬hook < stopper := by omega
    rw [Hook.share_append, Hook.share_proceeding, if_neg beyond]
    simp [Hook.share, Event.concerns, other]

/-- What a hook sees of a run: everything, or everything but the end of the last step, which a hook before
it was the last to see. -/
inductive Shows (hook : Nat) (events : List Event) : Prop where
  | whole (attends : Event.attends (Hook.share hook events))
      (last : ∀ earlier < hook, .asked .after earlier .stop ∉ events)
  | cut (misses : Event.attends (Hook.share hook events) = false)
      (rest : Event.attends (Hook.share hook events ++ [.asked .after hook .proceed]))
      (last : ∃ earlier < hook, .asked .after earlier .stop ∈ events)

variable [Engine ε η]

theorem TurnCase.share_running {middle : Drive ε η κ} (turned : TurnCase start drive events (.running middle))
    (inside : hook < drive.session.hooks.length) :
    hook < middle.session.hooks.length ∧ (∀ earlier, .asked .after earlier .stop ∉ events) ∧
    ∃ number, Hook.share hook events =
      [.asked .before hook .proceed, .stepped number, .asked .after hook .proceed] := by
  cases turned with
  | @running asked _ _ _ _ _ proceeds _ continues =>
    have listed : hook < asked.session.hooks.length := by rwa [length_ask proceeds]
    refine ⟨by rwa [length_ask continues], ?_, asked.session.steps, ?_⟩
    · intro earlier member
      rw [stop_mem_stepped, asking_proceed continues] at member
      exact stop_not_mem_proceeding member
    · rw [Hook.share_append, share_asking proceeds inside]
      exact congrArg (fun seen => [_, _] ++ seen) (share_asking continues listed)

theorem TurnCase.shows_ended {ending : Except SessionError Ending}
    (turned : TurnCase start drive events (.ended ending after))
    (inside : hook < drive.session.hooks.length) : Shows hook events := by
  cases turned with
  | requested | spent => exact .whole rfl fun _ _ none => nomatch none
  | heldBack _ _ stops =>
    refine .whole ?_ fun earlier _ => stop_not_mem_asking_before drive earlier
    obtain ⟨stopper, -, -, upTo, behind⟩ := share_stop stops
    rcases Nat.lt_or_ge stopper hook with after | before
    · rw [behind hook after]
      rfl
    · obtain ⟨verdict, same⟩ := upTo hook before
      rw [same]
      rfl
  | @failed asked error _ _ _ _ proceeds _ =>
    refine .whole ?_ fun earlier _ member => ?_
    · rw [Hook.share_append, share_asking proceeds inside]
      rfl
    · obtain before | impossible := List.mem_append.mp member
      · exact stop_not_mem_asking_before drive earlier before
      · cases List.mem_singleton.mp impossible
  | @stopped asked _ _ _ _ _ proceeds _ stops =>
    obtain ⟨stopper, _, only, upTo, behind⟩ := share_stop stops
    have seen : ∀ events, Hook.share hook (drive.asking .before ++ .stepped asked.session.steps :: events) =
        .asked .before hook .proceed :: .stepped asked.session.steps :: Hook.share hook events := by
      intro events
      rw [Hook.share_append, share_asking proceeds inside]
      rfl
    -- Hooks up to the one that stops are asked once more, and those behind it are not.
    rcases Nat.lt_or_ge stopper hook with after | before
    · refine .cut ?_ ?_ ⟨stopper, after, (stop_mem_stepped ..).mpr ((only stopper).mpr rfl)⟩
      · rw [seen, behind hook after]
        rfl
      · rw [seen, behind hook after]
        rfl
    · refine .whole ?_ fun earlier ahead member => ?_
      · obtain ⟨verdict, same⟩ := upTo hook before
        rw [seen, same]
        rfl
      · have last := (only earlier).mp ((stop_mem_stepped ..).mp member)
        omega

theorem TurnCase.shows_later {middle : Drive ε η κ} {more : List Event}
    (turned : TurnCase start drive events (.running middle))
    (later : hook < middle.session.hooks.length → Shows hook more) :
    hook < drive.session.hooks.length → Shows hook (events ++ more) := by
  intro inside
  obtain ⟨listed, quiet, number, seen⟩ := turned.share_running inside
  cases later listed with
  | whole attends last =>
    refine .whole ?_ fun earlier ahead member => ?_
    · rw [Hook.share_append, seen]
      exact attends
    · exact (List.mem_append.mp member).elim (quiet earlier) (last earlier ahead)
  | cut misses rest last =>
    obtain ⟨earlier, ahead, member⟩ := last
    refine .cut ?_ ?_ ⟨earlier, ahead, List.mem_append_right _ member⟩
    · rw [Hook.share_append, seen]
      exact misses
    · rw [Hook.share_append, seen]
      exact rest

theorem shows_run {outcome : Except SessionError Summary} (ran : drive.run fuel = some (outcome, after))
    (inside : hook < drive.session.hooks.length) : Shows hook (drive.events fuel) := by
  obtain ⟨_, _, _, _, silent⟩ | ⟨_, _, _, _, _, silent⟩ | ⟨_, _, _, _, turned, _, events⟩ := run_cases ran
  · rw [silent]
    exact .whole rfl fun _ _ none => nomatch none
  · rw [silent]
    exact .whole rfl fun _ _ none => nomatch none
  · rw [events]
    exact turns_induction (motive := fun drive events => hook < drive.session.hooks.length → Shows hook events)
      TurnCase.shows_ended TurnCase.shows_later turned inside

end Drive

/-- The events of a run lead from its start to its end. Among them every hook is asked once before each step,
and once after each step that succeeds, unless a hook before it ends the run after a step: then the end of
that step, the last of the run, is what the hook misses. -/
theorem hooks_see_run {ε η κ : Type} [Engine ε η] [Observer κ] {fuel : Nat} {drive after : Drive ε η κ}
    {outcome : Except SessionError Summary} (ran : drive.run fuel = some (outcome, after)) :
    (drive.events fuel = [] ∧ after = drive ∨
      ∃ last ending, Drive.Path { drive with session := drive.session.setStop false } (drive.events fuel) last ∧
        Drive.Settles last ending after) ∧
    ∀ hook < drive.session.hooks.length,
      (Event.attends (Hook.share hook (drive.events fuel)) ↔
        ∀ earlier < hook, .asked .after earlier .stop ∉ drive.events fuel) ∧
      (Event.attends (Hook.share hook (drive.events fuel)) ∨
        Event.attends (Hook.share hook (drive.events fuel) ++ [.asked .after hook .proceed])) := by
  refine ⟨Drive.path_run ran, fun hook inside => ?_⟩
  cases Drive.shows_run ran inside with
  | whole attends last => exact ⟨⟨fun _ => last, fun _ => attends⟩, .inl attends⟩
  | cut misses rest last =>
    obtain ⟨earlier, ahead, member⟩ := last
    refine ⟨⟨fun attends => ?_, fun last => absurd member (last earlier ahead)⟩, .inr rest⟩
    rw [misses] at attends
    cases attends

/-- A session that stops at address one, a counter behind that hook, and an engine that goes there. -/
def Drive.stopsAtOne : Drive Script (Pager Snapshot) Watcher where
  engine := { steps := #[[.advance 1]] }
  session := (Session.new { stopAddress := some 1 } { source := {} }).withHook (.observer (.counter none 0 0))

theorem hooks_see_run_stopsAtOne :
    ∃ outcome after, Drive.run 1 Drive.stopsAtOne = some (outcome, after) ∧
      Event.attends (Hook.share 1 (Drive.stopsAtOne.events 1) ++ [.asked .after 1 .proceed]) := by
  have ran : Drive.run 1 Drive.stopsAtOne = some (_, _) := rfl
  obtain ⟨-, shows⟩ := hooks_see_run ran
  obtain ⟨-, whole | rest⟩ := shows 1 (by decide)
  · cases whole
  · exact ⟨_, _, ran, rest⟩

/-- One step succeeds, and the counter is asked before it and not after it. -/
theorem stop_hides_last_step :
    ∃ after, Drive.run 1 Drive.stopsAtOne = some (.ok ⟨1, .hook⟩, after) ∧
      after.session.hooks.map Watcher.asked = [(0, 0), (1, 0)] ∧
      Drive.stopsAtOne.events 1 =
        [.asked .before 0 .proceed, .asked .before 1 .proceed, .stepped 0, .asked .after 0 .stop] ∧
      ¬Event.attends (Hook.share 1 (Drive.stopsAtOne.events 1)) :=
  ⟨_, rfl, rfl, rfl, Bool.false_ne_true⟩

end GuestResume
