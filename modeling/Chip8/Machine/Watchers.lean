import Chip8.Machine

/-!
# Those who watch a machine

Any number of watchers may be attached to a machine, each known by a name. Whoever operates a watched
machine sends its events to all of them, in the order in which they are attached: an event goes to
every watcher before the next event goes to any.
-/

namespace Chip8

/-- An event that goes to a watcher. -/
structure Notice (Name : Type) where
  watcher : Name
  event : Event

/-- The notices of events in order. -/
def notices {Name : Type} (watchers : List Name) (events : List Event) : List (Notice Name) :=
  events.flatMap fun event => watchers.map fun watcher => ⟨watcher, event⟩

/-- A machine with those who watch it. -/
structure Watched (Name : Type) where
  machine : Machine
  watchers : List Name

namespace Watched

variable {Name : Type}

/-- What an operation of a watched machine yields. -/
structure Outcome (Name α : Type) where
  watched : Watched Name
  notices : List (Notice Name)
  result : Except Failure α

/-- Operates the machine and tells its watchers of what happens. -/
def operate {α : Type} (watched : Watched Name) (operation : Machine → Machine.Outcome α) :
    Outcome Name α :=
  let outcome := operation watched.machine
  ⟨{ watched with machine := outcome.machine }, notices watched.watchers outcome.events, outcome.result⟩

/-- One step. -/
def step (watched : Watched Name) : Outcome Name Unit :=
  watched.operate Machine.step

/-- Does what the host asks. -/
def obey (watched : Watched Name) (command : Machine.Command) : Outcome Name Machine.Answer :=
  watched.operate (·.obey command)

/-- The notices of what the host asks, one after the other, whatever fails on the way. -/
def told (watched : Watched Name) : List Machine.Command → List (Notice Name)
  | [] => []
  | command :: rest =>
    let outcome := watched.obey command
    outcome.notices ++ outcome.watched.told rest

end Watched

variable {Name : Type} [DecidableEq Name]

/-- The events that one watcher receives. -/
def received (watcher : Name) (sent : List (Notice Name)) : List Event :=
  (sent.filter (·.watcher = watcher)).map (·.event)

theorem received_append (watcher : Name) (first second : List (Notice Name)) :
    received watcher (first ++ second) = received watcher first ++ received watcher second := by
  rw [received, List.filter_append, List.map_append]
  rfl

theorem received_single (watcher : Name) (watchers : List Name) (event : Event) :
    received watcher (notices watchers [event]) =
      List.replicate (watchers.count watcher) event := by
  induction watchers with
  | nil => rfl
  | cons first rest ih =>
    simp only [received, notices, List.flatMap_cons, List.flatMap_nil, List.append_nil,
      List.map_cons, List.filter_cons] at ih ⊢
    by_cases same : first = watcher
    · simp [same, ih, List.replicate_succ]
    · simp [same, ih]

/-- A watcher receives every event, as often as it is attached. -/
theorem received_notices (watcher : Name) (watchers : List Name) (events : List Event) :
    received watcher (notices watchers events) =
      events.flatMap (List.replicate (watchers.count watcher)) := by
  induction events with
  | nil => rfl
  | cons event rest ih =>
    have split : notices watchers (event :: rest) =
        notices watchers [event] ++ notices watchers rest := by
      simp [notices]
    rw [split, received_append, received_single, ih, List.flatMap_cons]

/-- A watcher that is attached once receives the events as they are. -/
theorem received_of_once {watcher : Name} {watchers : List Name}
    (once : watchers.count watcher = 1) (events : List Event) :
    received watcher (notices watchers events) = events := by
  rw [received_notices, once]
  exact List.flatMap_singleton' events

end Chip8
