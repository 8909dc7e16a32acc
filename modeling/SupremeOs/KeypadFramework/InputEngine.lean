import SupremeOs.DomainModel.Ids
import SupremeOs.DomainModel.Capabilities

/-!
# Universal input engine

The engine passes every event of a driver through and derives press events from
pressed and released buttons.  A control has up to three timers: one that turns
a press into a hold, one that repeats while the hold lasts, and one that waits
after a release for another click.

Time passes in milliseconds, and a timer fires in the millisecond in which it
is due.  A sequence of events with their times is a word of events and ticks of
the clock.  The tie-break says whether timers or events of the same millisecond
come first.
-/

namespace SupremeOs.KeypadFramework

open Support DomainModel

structure ControlRef where
  keypadId : SupremeId "dev"
  control : String
deriving DecidableEq

/-- An event as drivers deliver it and as the engine publishes it. -/
structure InputEvent where
  ref : ControlRef
  ts : String
  gesture : KeypadGesture

inductive Publication where
  | passed (event : InputEvent)
  | derived (event : InputEvent)

structure InputEngineOptions where
  longPressMs : Nat
  doublePressWindowMs : Nat
  holdTickMs : Nat
  /-- How a time is written into an event. -/
  iso : Nat → String
  longPress_pos : 0 < longPressMs
  doublePressWindow_pos : 0 < doublePressWindowMs
  holdTick_pos : 0 < holdTickMs

/-- What comes first in a millisecond in which both happen. -/
inductive TieBreak where
  | timersFirst
  | eventsFirst

namespace UniversalInputEngine

/-- A timer, and the control that its callback publishes for. -/
structure Timer where
  due : Nat
  ref : ControlRef

structure HoldTicker where
  due : Nat
  ref : ControlRef
  startedAt : Nat

structure ControlState where
  pressedAt : Option Nat
  clickCount : Nat
  holding : Bool
  longPressTimer : Option Timer
  holdTicker : Option HoldTicker
  decisionTimer : Option Timer

def freshState : ControlState := ⟨none, 0, false, none, none, none⟩

def controlKey (ref : ControlRef) : String :=
  ref.keypadId.text ++ "#" ++ ref.control

structure EngineState where
  now : Nat
  controls : OrderedMap String ControlState
  published : List Publication

variable (options : InputEngineOptions)

def derivedAt (now : Nat) (ref : ControlRef) (gesture : KeypadGesture) : InputEvent :=
  ⟨ref, options.iso now, gesture⟩

def onPress (now : Nat) (ref : ControlRef) (st : ControlState) : ControlState :=
  -- A press without a release since the last one is ignored.
  if st.pressedAt.isSome then st
  else
    { st with
      decisionTimer := none
      pressedAt := some now
      longPressTimer := some ⟨now + options.longPressMs, ref⟩ }

def clickGesture (count : Nat) : KeypadGesture :=
  if count = 1 then .shortPress else if count = 2 then .doublePress else .triplePress

def flushClickDecision (now : Nat) (ref : ControlRef) (st : ControlState) :
    ControlState × List InputEvent :=
  if st.clickCount = 0 then ({ st with decisionTimer := none }, [])
  else
    ({ st with decisionTimer := none, clickCount := 0 },
      [derivedAt options now ref (clickGesture st.clickCount)])

def beginHold (now : Nat) (ref : ControlRef) (st : ControlState) : ControlState × List InputEvent :=
  -- A hold that starts in a sequence of clicks resolves the pending clicks first.
  let flushed := flushClickDecision options now ref { st with longPressTimer := none }
  ({ flushed.1 with
      holding := true
      holdTicker :=
        some ⟨now + options.holdTickMs, ref, flushed.1.pressedAt.getD now⟩ },
    flushed.2 ++ [derivedAt options now ref .holdStart])

def onRelease (now : Nat) (ref : ControlRef) (st : ControlState) : ControlState × List InputEvent :=
  match st.pressedAt with
  -- A release without a press derives nothing.
  | none => (st, [])
  | some pressedAt =>
    let released := { st with longPressTimer := none, pressedAt := none }
    if st.holding then
      ({ released with holdTicker := none, holding := false },
        [derivedAt options now ref (.holdEnd (now - pressedAt)),
          derivedAt options now ref (.longPress (now - pressedAt))])
    else
      ({ released with
          clickCount := min (st.clickCount + 1) 3
          decisionTimer := some ⟨now + options.doublePressWindowMs, ref⟩ }, [])

def fireLongPress (now : Nat) (st : ControlState) : ControlState × List InputEvent :=
  match st.longPressTimer with
  | some timer => if timer.due = now then beginHold options now timer.ref st else (st, [])
  | none => (st, [])

def fireDecision (now : Nat) (st : ControlState) : ControlState × List InputEvent :=
  match st.decisionTimer with
  | some timer =>
    if timer.due = now then flushClickDecision options now timer.ref st else (st, [])
  | none => (st, [])

def fireTicker (now : Nat) (st : ControlState) : ControlState × List InputEvent :=
  match st.holdTicker with
  | some ticker =>
    if ticker.due = now then
      ({ st with holdTicker := some { ticker with due := now + options.holdTickMs } },
        [derivedAt options now ticker.ref (.holding (now - ticker.startedAt))])
    else (st, [])
  | none => (st, [])

def fireDue (now : Nat) (st : ControlState) : ControlState × List InputEvent :=
  let first := fireLongPress options now st
  let second := fireDecision options now first.1
  let third := fireTicker options now second.1
  (third.1, first.2 ++ second.2 ++ third.2)

/-- The state of a control as its next event finds it. -/
def stateFor (state : EngineState) (ref : ControlRef) : ControlState :=
  (state.controls.get (controlKey ref)).getD freshState

def pass (event : InputEvent) (state : EngineState) : EngineState :=
  { state with published := state.published ++ [.passed event] }

def settle (ref : ControlRef) (outcome : ControlState × List InputEvent)
    (state : EngineState) : EngineState :=
  { state with
    controls := state.controls.set (controlKey ref) outcome.1
    published := state.published ++ outcome.2.map Publication.derived }

def ingest (event : InputEvent) (state : EngineState) : EngineState :=
  match event.gesture with
  | .buttonPressed =>
    settle event.ref (onPress options state.now event.ref (stateFor state event.ref), [])
      (pass event state)
  | .buttonReleased =>
    match state.controls.get (controlKey event.ref) with
    | none => pass event state
    | some st =>
      settle event.ref (onRelease options state.now event.ref st) (pass event state)
  | _ => pass event state

def fireAll (due : Nat) (state : EngineState) : EngineState :=
  { state with
    controls := state.controls.mapValues fun st => (fireDue options due st).1
    published := state.published ++ (state.controls.entries.flatMap fun entry =>
        (fireDue options due entry.2).2).map Publication.derived }

def fireTime (tieBreak : TieBreak) (now : Nat) : Nat :=
  match tieBreak with
  | .timersFirst => now + 1
  | .eventsFirst => now

def tick (tieBreak : TieBreak) (state : EngineState) : EngineState :=
  { fireAll options (fireTime tieBreak state.now) state with now := state.now + 1 }

inductive Label where
  | tick
  | ingest (event : InputEvent)

def step (tieBreak : TieBreak) (state : EngineState) : Label → EngineState
  | .tick => tick options tieBreak state
  | .ingest event => ingest options event state

def constructed : EngineState := ⟨0, OrderedMap.empty, []⟩

/-- The state after a sequence of events and ticks. -/
def play (tieBreak : TieBreak) (labels : List Label) : EngineState :=
  labels.foldl (step options tieBreak) constructed

end UniversalInputEngine

end SupremeOs.KeypadFramework
