import Mathlib.Data.List.SplitBy
import SupremeOs.KeypadFramework.InputEngine

/-!
# Press derivation

What a control has done is a sequence of contacts, from a press to the next
release.  A contact during which the long-press timer fires is a hold.  The
others are clicks, and a maximal run of clicks in which each one comes before
the decision timer of the one before it is one gesture.  The events that the
engine derives for a control are those of its holds and maximal runs, in their
order; a run yields its event when it can grow no more.
-/

namespace SupremeOs.KeypadFramework.UniversalInputEngine

open Support DomainModel List OrderedMap

structure Contact where
  pressedAt : Nat
  releasedAt : Nat

/-- The contacts of a control, and when it was pressed if it is down. -/
structure History where
  contacts : List Contact
  down : Option Nat

def History.press (now : Nat) (history : History) : History :=
  if history.down.isSome then history else { history with down := some now }

def History.release (now : Nat) (history : History) : History :=
  match history.down with
  | none => history
  | some pressedAt => ⟨history.contacts ++ [⟨pressedAt, now⟩], none⟩

/-- The time, and the history of one control. -/
structure Record where
  now : Nat
  history : History

def Record.step (ref : ControlRef) (record : Record) : Label → Record
  | .tick => { record with now := record.now + 1 }
  | .ingest event =>
    if event.ref = ref then
      match event.gesture with
      | .buttonPressed => { record with history := record.history.press record.now }
      | .buttonReleased => { record with history := record.history.release record.now }
      | _ => record
    else record

/-- What a control has done in a sequence of events and ticks. -/
def record (ref : ControlRef) (labels : List Label) : Record :=
  labels.foldl (Record.step ref) ⟨0, ⟨[], none⟩⟩

section Words

variable (options : InputEngineOptions) (tieBreak : TieBreak)

/-- What is due at a time comes before what happens now. -/
def expired (due now : Nat) : Bool :=
  match tieBreak with
  | .timersFirst => decide (due ≤ now)
  | .eventsFirst => decide (due < now)

/-- The button is down for so long that its press is a hold. -/
def heldLong (pressedAt now : Nat) : Bool :=
  expired tieBreak (pressedAt + options.longPressMs) now

def Contact.isHold (contact : Contact) : Bool :=
  heldLong options tieBreak contact.pressedAt contact.releasedAt

/-- The press comes too late to count with a click that was released before it. -/
def windowOver (releasedAt now : Nat) : Bool :=
  expired tieBreak (releasedAt + options.doublePressWindowMs) now

/-- Two contacts in succession are clicks of the same run. -/
def sameRun (first second : Contact) : Bool :=
  !first.isHold options tieBreak && !second.isHold options tieBreak &&
    !windowOver options tieBreak first.releasedAt second.pressedAt

/-- The holds and the maximal runs of clicks. -/
def History.runs (history : History) : List (List Contact) :=
  history.contacts.splitBy (sameRun options tieBreak)

/-- How long a button has been down, as its timers see it. -/
def heldFor (pressedAt now : Nat) : Nat :=
  match tieBreak with
  | .timersFirst => now - pressedAt
  | .eventsFirst => now - pressedAt - 1

def holdTicks (pressedAt now : Nat) : Nat :=
  (heldFor tieBreak pressedAt now - options.longPressMs) / options.holdTickMs

def holdStream (pressedAt now : Nat) : List KeypadGesture :=
  .holdStart :: (List.range (holdTicks options tieBreak pressedAt now)).map fun ticks =>
    .holding (options.longPressMs + (ticks + 1) * options.holdTickMs)

def runGestures : List Contact → List KeypadGesture
  | [] => []
  | contact :: rest =>
    if contact.isHold options tieBreak then
      holdStream options tieBreak contact.pressedAt contact.releasedAt ++
        [.holdEnd (contact.releasedAt - contact.pressedAt),
          .longPress (contact.releasedAt - contact.pressedAt)]
    else [clickGesture (min (rest.length + 1) 3)]

/-- The last run can grow no more: the next press is too late for it, or is a hold. -/
def History.lastDecided (history : History) (now : Nat) : Bool :=
  match history.contacts.getLast? with
  | none => true
  | some contact =>
    contact.isHold options tieBreak ||
      match history.down with
      | none => windowOver options tieBreak contact.releasedAt now
      | some pressedAt =>
        windowOver options tieBreak contact.releasedAt pressedAt ||
          heldLong options tieBreak pressedAt now

/-- The holds and maximal runs that can grow no more. -/
def History.decidedRuns (history : History) (now : Nat) : List (List Contact) :=
  if history.lastDecided options tieBreak now then history.runs options tieBreak
  else (history.runs options tieBreak).dropLast

/-- A hold that has begun and that has not ended. -/
def History.opened (history : History) (now : Nat) : List KeypadGesture :=
  match history.down with
  | none => []
  | some pressedAt =>
    if heldLong options tieBreak pressedAt now then
      holdStream options tieBreak pressedAt now
    else []

/-- Everything that a control has been worth by now. -/
def History.word (history : History) (now : Nat) : List KeypadGesture :=
  (history.decidedRuns options tieBreak now).flatMap (runGestures options tieBreak) ++
    history.opened options tieBreak now

/-- The clicks of a run that may still grow. -/
def History.pendingClicks (history : History) (now : Nat) : Nat :=
  if history.lastDecided options tieBreak now then 0
  else (history.runs options tieBreak).getLast?.elim 0 List.length

def History.decisionTimer (ref : ControlRef) (history : History) (now : Nat) :
    Option Timer :=
  if history.lastDecided options tieBreak now then none
  else history.contacts.getLast?.map fun contact =>
    ⟨contact.releasedAt + options.doublePressWindowMs, ref⟩

def History.controlState (ref : ControlRef) (history : History) (now : Nat) :
    ControlState :=
  match history.down with
  | none =>
    ⟨none, min (history.pendingClicks options tieBreak now) 3, false, none, none,
      history.decisionTimer options tieBreak ref now⟩
  | some pressedAt =>
    if heldLong options tieBreak pressedAt now then
      ⟨some pressedAt, 0, true, none, some ⟨pressedAt + options.longPressMs +
          (holdTicks options tieBreak pressedAt now + 1) * options.holdTickMs,
          ref, pressedAt⟩, none⟩
    else
      ⟨some pressedAt, min (history.pendingClicks options tieBreak now) 3, false,
        some ⟨pressedAt + options.longPressMs, ref⟩, none, none⟩

end Words

section Control

variable {options : InputEngineOptions} {tieBreak : TieBreak}

/-- A timer fires exactly in the millisecond that makes it expire. -/
theorem due_eq_fireTime_iff {due now : Nat} :
    due = fireTime tieBreak now ↔
      expired tieBreak due now = false ∧ expired tieBreak due (now + 1) = true := by
  cases tieBreak <;> simp only [fireTime, expired, decide_eq_true_eq, decide_eq_false_iff_not] <;>
    omega

theorem expired_mono {due now later : Nat} (expiredNow : expired tieBreak due now = true)
    (order : now ≤ later) : expired tieBreak due later = true := by
  cases tieBreak <;> simp only [expired, decide_eq_true_eq] at expiredNow ⊢ <;> omega

theorem expired_add_self {now duration : Nat} (positive : 0 < duration) :
    expired tieBreak (now + duration) now = false := by
  cases tieBreak <;> simp only [expired, decide_eq_false_iff_not] <;> omega

variable {pressedAt : Nat} {history : History} {labels : List Label} {state : EngineState}

theorem heldLong_iff {now : Nat} :
    heldLong options tieBreak pressedAt now = true ↔
      options.longPressMs ≤ heldFor tieBreak pressedAt now := by
  have positive := options.longPress_pos
  cases tieBreak <;> simp only [heldLong, expired, heldFor, decide_eq_true_eq] <;> omega

theorem heldFor_succ {now : Nat} (held : heldLong options tieBreak pressedAt now = true) :
    heldFor tieBreak pressedAt (now + 1) = heldFor tieBreak pressedAt now + 1 := by
  cases tieBreak <;>
    simp only [heldLong, expired, heldFor, decide_eq_true_eq] at held ⊢ <;> omega

theorem fireTime_eq_iff {now duration : Nat}
    (held : heldLong options tieBreak pressedAt (now + 1) = true) :
    pressedAt + duration = fireTime tieBreak now ↔
      duration = heldFor tieBreak pressedAt (now + 1) := by
  cases tieBreak <;>
    simp only [heldLong, expired, heldFor, fireTime, decide_eq_true_eq] at held ⊢ <;> omega

theorem holdTicks_of_begin {now : Nat}
    (due : pressedAt + options.longPressMs = fireTime tieBreak now) :
    holdTicks options tieBreak pressedAt (now + 1) = 0 := by
  have long := (due_eq_fireTime_iff.mp due).2
  rw [fireTime_eq_iff long] at due
  simp [holdTicks, ← due]

theorem succ_div_eq {period : Nat} (positive : 0 < period) (elapsed : Nat) :
    (elapsed + 1) / period =
      if (elapsed / period + 1) * period = elapsed + 1 then elapsed / period + 1
      else elapsed / period := by
  have below := Nat.div_mul_le_self elapsed period
  split
  · rename_i reached
    rw [← reached, Nat.mul_div_cancel _ positive]
  · rename_i missed
    apply Nat.div_eq_of_lt_le
    · omega
    · have next := Nat.lt_mul_of_div_lt (Nat.lt_add_one (elapsed / period)) positive
      omega

theorem holdTicks_succ {now : Nat} (held : heldLong options tieBreak pressedAt now = true) :
    (pressedAt + options.longPressMs +
          (holdTicks options tieBreak pressedAt now + 1) * options.holdTickMs =
        fireTime tieBreak now ∧ holdTicks options tieBreak pressedAt (now + 1) =
        holdTicks options tieBreak pressedAt now + 1) ∨ (pressedAt + options.longPressMs +
          (holdTicks options tieBreak pressedAt now + 1) * options.holdTickMs ≠
        fireTime tieBreak now ∧ holdTicks options tieBreak pressedAt (now + 1) =
        holdTicks options tieBreak pressedAt now) := by
  have later : heldLong options tieBreak pressedAt (now + 1) = true :=
    expired_mono held (Nat.le_succ now)
  have long := heldLong_iff.mp held
  rw [ne_eq, Nat.add_assoc, fireTime_eq_iff later]
  simp only [holdTicks, heldFor_succ held]
  generalize heldFor tieBreak pressedAt now = total at long
  rcases Nat.exists_eq_add_of_le long with ⟨elapsed, rfl⟩
  rw [Nat.add_assoc, Nat.add_sub_cancel_left, Nat.add_sub_cancel_left,
    succ_div_eq options.holdTick_pos, Nat.add_left_cancel_iff]
  by_cases reached : (elapsed / options.holdTickMs + 1) * options.holdTickMs = elapsed + 1
  · exact .inl ⟨reached, if_pos reached⟩
  · exact .inr ⟨reached, if_neg reached⟩

theorem splitBy_append_apart {Item : Type*} {related : Item → Item → Bool}
    {items : List Item} {item : Item} (apart : ∀ last ∈ items.getLast?, related last item = false) :
    (items ++ [item]).splitBy related = items.splitBy related ++ [[item]] :=
  splitBy_append_cons [] apart

theorem splitBy_append_related {Item : Type*} {related : Item → Item → Bool}
    {items : List Item} {last item : Item} (found : items.getLast? = some last)
    (joins : related last item = true) :
    ∃ before group, items.splitBy related = before ++ [group] ∧ group ≠ [] ∧
      (items ++ [item]).splitBy related = before ++ [group ++ [item]] := by
  have nonempty : items ≠ [] := by
    rintro rfl
    cases found
  rcases eq_nil_or_concat (items.splitBy related) with none | ⟨before, group, split⟩
  · exact (nonempty (splitBy_eq_nil.mp none)).elim
  rw [concat_eq_append] at split
  rcases splitBy_eq_iff.mp split with ⟨flatten, inhabited, chains, separated⟩
  have filled : group ≠ [] := by
    rintro rfl
    simp at inhabited
  have lastOfGroup : group.getLast? = some last := by
    rw [← found, flatten]
    simp [ getLast?_eq_some_getLast filled]
  refine ⟨before, group, split, filled, ?_⟩
  rw [splitBy_eq_iff]
  refine ⟨by simp [flatten], by simpa using fun member => inhabited (by simp [member]), ?_, ?_⟩
  · intro run member
    rcases mem_append.mp member with old | new
    · exact chains run (mem_append_left _ old)
    · rw [mem_singleton] at new
      subst new
      rw [isChain_append]
      refine ⟨chains group (by simp), isChain_singleton item, ?_⟩
      intro other isLast next isFirst
      rw [lastOfGroup] at isLast
      cases isLast
      cases isFirst
      exact joins
  · rw [isChain_append] at separated ⊢
    refine ⟨separated.1, isChain_singleton _, ?_⟩
    intro earlier isLast run isFirst
    rcases separated.2.2 earlier isLast group rfl with ⟨old, new, apart⟩
    cases isFirst
    exact ⟨old, by simp, by rwa [head_append_of_ne_nil new]⟩

/-- The gesture of a run that may still grow, as it would be decided now. -/
def History.pendingGestures (options : InputEngineOptions) (tieBreak : TieBreak)
    (history : History) (now : Nat) : List KeypadGesture :=
  if history.lastDecided options tieBreak now then []
  else [clickGesture (min (history.pendingClicks options tieBreak now) 3)]

theorem last_of_undecided {now : Nat}
    (undecided : history.lastDecided options tieBreak now = false) :
    ∃ contact, history.contacts.getLast? = some contact ∧
      contact.isHold options tieBreak = false := by
  unfold History.lastDecided at undecided
  cases found : history.contacts.getLast? with
  | none => simp [found] at undecided
  | some contact =>
    simp only [found, Bool.or_eq_false_iff] at undecided
    exact ⟨contact, rfl, undecided.1⟩

theorem runGestures_of_last {run : List Contact} {contact : Contact}
    (chain : run.IsChain fun first second => sameRun options tieBreak first second = true)
    (last : run.getLast? = some contact) (click : contact.isHold options tieBreak = false) :
    runGestures options tieBreak run = [clickGesture (min run.length 3)] := by
  cases run with
  | nil => cases last
  | cons first rest =>
    have firstClick : first.isHold options tieBreak = false := by
      cases rest with
      | nil =>
        cases last
        exact click
      | cons second rest =>
        have related := (isChain_cons_cons.mp chain).1
        simp only [sameRun, Bool.and_eq_true, Bool.not_eq_true'] at related
        exact related.1.1
    simp [runGestures, firstClick]

theorem runs_of_undecided {now : Nat}
    (undecided : history.lastDecided options tieBreak now = false) :
    ∃ before run, history.runs options tieBreak = before ++ [run] ∧ 0 < run.length ∧
      runGestures options tieBreak run = [clickGesture (min run.length 3)] := by
  rcases last_of_undecided undecided with ⟨contact, last, click⟩
  rcases eq_nil_or_concat (history.runs options tieBreak) with
    none | ⟨before, run, split⟩
  · rw [splitBy_eq_nil.mp none] at last
    cases last
  rw [concat_eq_append] at split
  rcases splitBy_eq_iff.mp split with ⟨flatten, inhabited, chains, _⟩
  have filled : run ≠ [] := by
    rintro rfl
    simp at inhabited
  have lastOfRun : run.getLast? = some contact := by
    rw [← last, flatten]
    simp [ getLast?_eq_some_getLast filled]
  exact ⟨before, run, split, length_pos_iff.mpr filled,
    runGestures_of_last (chains run (by simp)) lastOfRun click⟩

theorem runs_eq_decided_append (history : History) (now : Nat) :
    (history.runs options tieBreak).flatMap (runGestures options tieBreak) =
      (history.decidedRuns options tieBreak now).flatMap (runGestures options tieBreak) ++
        history.pendingGestures options tieBreak now := by
  unfold History.decidedRuns History.pendingGestures History.pendingClicks
  cases decided : history.lastDecided options tieBreak now with
  | true => simp
  | false =>
    rcases runs_of_undecided decided with ⟨before, run, split, _, worth⟩
    simp [split, worth]

theorem flush_pending (history : History) (now due : Nat) (ref : ControlRef) {st : ControlState}
    (count : st.clickCount = min (history.pendingClicks options tieBreak now) 3) :
    flushClickDecision options due ref st = ({ st with decisionTimer := none, clickCount := 0 },
        (history.pendingGestures options tieBreak now).map (derivedAt options due ref)) := by
  unfold flushClickDecision
  cases decided : history.lastDecided options tieBreak now with
  | true =>
    have none : st.clickCount = 0 := by simp [count, History.pendingClicks, decided]
    simp [History.pendingGestures, decided, ← none]
  | false =>
    rcases runs_of_undecided decided with ⟨before, run, split, filled, _⟩
    have pending : history.pendingClicks options tieBreak now = run.length := by
      simp [History.pendingClicks, decided, split]
    have some : st.clickCount ≠ 0 := by omega
    rw [if_neg some]
    simp [count, History.pendingGestures, decided]

variable {ref : ControlRef} {now : Nat}

theorem lastDecided_of_held (down : history.down = some pressedAt)
    (held : heldLong options tieBreak pressedAt now = true) :
    history.lastDecided options tieBreak now = true := by
  unfold History.lastDecided
  cases history.contacts.getLast? <;> simp [down, held]

theorem lastDecided_press (up : history.down = none) :
    History.lastDecided options tieBreak { history with down := some now } now =
      history.lastDecided options tieBreak now := by
  have short : heldLong options tieBreak now now = false :=
    expired_add_self options.longPress_pos
  unfold History.lastDecided
  cases history.contacts.getLast? <;> simp [up, short]

theorem press_control (options : InputEngineOptions) (tieBreak : TieBreak)
    (ref : ControlRef) (now : Nat) (history : History) :
    onPress options now ref (history.controlState options tieBreak ref now) =
        (history.press now).controlState options tieBreak ref now ∧
      (history.press now).word options tieBreak now = history.word options tieBreak now := by
  cases down : history.down with
  | some pressedAt =>
    have ignored : history.press now = history := by simp [History.press, down]
    rw [ignored]
    refine ⟨?_, rfl⟩
    unfold History.controlState onPress
    simp only [down]
    split <;> rfl
  | none =>
    have short : heldLong options tieBreak now now = false :=
      expired_add_self options.longPress_pos
    have same : History.lastDecided options tieBreak { history with down := some now } now =
        history.lastDecided options tieBreak now := lastDecided_press down
    simp only [History.press]
    constructor
    · simp [History.controlState, onPress, down, short, History.pendingClicks, same, History.runs]
    · simp [History.word, History.opened, History.decidedRuns, History.runs, same, down, short]

theorem sameRun_click {last : Contact} (down : history.down = some pressedAt)
    (short : heldLong options tieBreak pressedAt now = false)
    (found : history.contacts.getLast? = some last) :
    sameRun options tieBreak last ⟨pressedAt, now⟩ = !history.lastDecided options tieBreak now := by
  simp [sameRun, History.lastDecided, found, down, Contact.isHold, short]

theorem release_hold (down : history.down = some pressedAt)
    (held : heldLong options tieBreak pressedAt now = true) :
    History.lastDecided options tieBreak ⟨history.contacts ++ [⟨pressedAt, now⟩], none⟩ now = true ∧
      History.word options tieBreak ⟨history.contacts ++ [⟨pressedAt, now⟩], none⟩ now =
        history.word options tieBreak now ++
          [.holdEnd (now - pressedAt), .longPress (now - pressedAt)] := by
  have before := lastDecided_of_held down held
  have after : History.lastDecided options tieBreak
      ⟨history.contacts ++ [⟨pressedAt, now⟩], none⟩ now = true := by
    simp [History.lastDecided, Contact.isHold, held]
  have apart : ∀ last ∈ history.contacts.getLast?,
      sameRun options tieBreak last ⟨pressedAt, now⟩ = false := by
    simp [sameRun, Contact.isHold, held]
  simp [History.word, History.decidedRuns, before, after, Contact.isHold, held, History.runs,
    splitBy_append_apart apart, History.opened, down, runGestures]

theorem release_click (down : history.down = some pressedAt)
    (short : heldLong options tieBreak pressedAt now = false) :
    History.lastDecided options tieBreak ⟨history.contacts ++ [⟨pressedAt, now⟩], none⟩ now =
        false ∧ History.pendingClicks options tieBreak
          ⟨history.contacts ++ [⟨pressedAt, now⟩], none⟩ now =
        history.pendingClicks options tieBreak now + 1 ∧
      History.word options tieBreak ⟨history.contacts ++ [⟨pressedAt, now⟩], none⟩ now =
        history.word options tieBreak now := by
  have fresh : windowOver options tieBreak now now = false :=
    expired_add_self options.doublePressWindow_pos
  have after : History.lastDecided options tieBreak
      ⟨history.contacts ++ [⟨pressedAt, now⟩], none⟩ now = false := by
    simp [History.lastDecided, Contact.isHold, short, fresh]
  cases before : history.lastDecided options tieBreak now with
  | true =>
    -- The click starts a run.
    have apart : ∀ last ∈ history.contacts.getLast?,
        sameRun options tieBreak last ⟨pressedAt, now⟩ = false := by
      intro last found
      simp [sameRun_click down short found, before]
    simp [History.pendingClicks, History.word, History.decidedRuns, before, after,
      History.runs, splitBy_append_apart apart, History.opened, down, short]
  | false =>
    rcases last_of_undecided before with ⟨last, found, _⟩
    have joins : sameRun options tieBreak last ⟨pressedAt, now⟩ = true := by
      simp [sameRun_click down short found, before]
    rcases splitBy_append_related found joins with ⟨earlier, run, split, _, grown⟩
    simp [History.pendingClicks, History.word, History.decidedRuns, before, after,
      History.runs, split, grown, History.opened, down, short]

/-- The engine stays in the state of the history and derives the gestures that are new. -/
def GoesOn (options : InputEngineOptions) (tieBreak : TieBreak) (ref : ControlRef) (time : Nat)
    (before after : History × Nat) (outcome : ControlState × List InputEvent) : Prop :=
  ∃ gestures, outcome = (after.1.controlState options tieBreak ref after.2,
      gestures.map (derivedAt options time ref)) ∧
    after.1.word options tieBreak after.2 = before.1.word options tieBreak before.2 ++ gestures

theorem release_control (options : InputEngineOptions) (tieBreak : TieBreak)
    (ref : ControlRef) (now : Nat) (history : History) :
    GoesOn options tieBreak ref now (history, now) (history.release now, now)
      (onRelease options now ref (history.controlState options tieBreak ref now)) := by
  cases down : history.down with
  | none =>
    refine ⟨[], ?_, ?_⟩
    · simp [onRelease, History.controlState, History.release, down]
    · simp [History.release, down]
  | some pressedAt =>
    simp only [History.release, down]
    cases held : heldLong options tieBreak pressedAt now with
    | true =>
      rcases release_hold down held with ⟨decided, word⟩
      refine ⟨[.holdEnd (now - pressedAt), .longPress (now - pressedAt)], ?_, word⟩
      simp [onRelease, History.controlState, down, held, History.pendingClicks, decided,
        History.decisionTimer]
    | false =>
      rcases release_click down held with ⟨undecided, pending, word⟩
      refine ⟨[], ?_, by simpa using word⟩
      have count : min (min (history.pendingClicks options tieBreak now) 3 + 1) 3 =
          min (history.pendingClicks options tieBreak now + 1) 3 := by omega
      simp [onRelease, History.controlState, down, held, pending, count, undecided,
        History.decisionTimer]

theorem tick_beginHold (down : history.down = some pressedAt)
    (due : pressedAt + options.longPressMs = fireTime tieBreak now) :
    History.word options tieBreak history (now + 1) = history.word options tieBreak now ++
        (history.pendingGestures options tieBreak now ++ [.holdStart]) := by
  rcases due_eq_fireTime_iff.mp due with ⟨short, held⟩
  have after := lastDecided_of_held down held
  have notYet : heldLong options tieBreak pressedAt now = false := short
  have long : heldLong options tieBreak pressedAt (now + 1) = true := held
  simp only [History.word, History.opened, down, notYet, long, Bool.false_eq_true,
    if_false, append_nil, holdStream, holdTicks_of_begin due, range_zero, map_nil, ← append_assoc]
  rw [← runs_eq_decided_append]
  simp only [History.decidedRuns, after, if_true]

theorem tick_held (down : history.down = some pressedAt)
    (held : heldLong options tieBreak pressedAt now = true) :
    GoesOn options tieBreak ref (fireTime tieBreak now) (history, now) (history, now + 1)
      (fireDue options (fireTime tieBreak now)
        (history.controlState options tieBreak ref now)) := by
  have later : heldLong options tieBreak pressedAt (now + 1) = true :=
    expired_mono held (Nat.le_succ now)
  have runs : history.decidedRuns options tieBreak (now + 1) =
      history.decidedRuns options tieBreak now := by
    simp only [History.decidedRuns, lastDecided_of_held down held, lastDecided_of_held down later]
  rcases holdTicks_succ held with ⟨due, ticks⟩ | ⟨notDue, ticks⟩
  · refine ⟨[.holding (options.longPressMs +
      (holdTicks options tieBreak pressedAt now + 1) * options.holdTickMs)], ?_, ?_⟩
    · have elapsed : fireTime tieBreak now - pressedAt = options.longPressMs +
          (holdTicks options tieBreak pressedAt now + 1) * options.holdTickMs := by omega
      have next : fireTime tieBreak now + options.holdTickMs = pressedAt + options.longPressMs +
            (holdTicks options tieBreak pressedAt now + 1 + 1) * options.holdTickMs := by
        rw [← due, Nat.add_one_mul (_ + 1), Nat.add_assoc]
      simp [fireDue, fireLongPress, fireDecision, fireTicker, History.controlState, down, held,
        later, due, ticks, elapsed, next]
    · simp [History.word, runs, History.opened, down, held, later, holdStream, ticks, range_succ]
  · refine ⟨[], ?_, ?_⟩
    · simp [fireDue, fireLongPress, fireDecision, fireTicker, History.controlState, down, held,
        later, notDue, ticks]
    · simp [History.word, runs, History.opened, down, held, later, holdStream, ticks]

theorem tick_pressed (down : history.down = some pressedAt)
    (short : heldLong options tieBreak pressedAt now = false) :
    GoesOn options tieBreak ref (fireTime tieBreak now) (history, now) (history, now + 1)
      (fireDue options (fireTime tieBreak now)
        (history.controlState options tieBreak ref now)) := by
  by_cases due : pressedAt + options.longPressMs = fireTime tieBreak now
  · refine ⟨history.pendingGestures options tieBreak now ++ [.holdStart], ?_,
      tick_beginHold down due⟩
    have held : heldLong options tieBreak pressedAt (now + 1) = true :=
      (due_eq_fireTime_iff.mp due).2
    have positive := options.holdTick_pos
    have flushed : flushClickDecision options (fireTime tieBreak now) ref
        ⟨some pressedAt, min (history.pendingClicks options tieBreak now) 3, false, none, none,
          none⟩ = (⟨some pressedAt, 0, false, none, none, none⟩,
          (history.pendingGestures options tieBreak now).map
            (derivedAt options (fireTime tieBreak now) ref)) :=
      flush_pending history now _ ref rfl
    simp [fireDue, fireLongPress, fireDecision, fireTicker, beginHold, History.controlState,
      down, short, held, due, flushed, holdTicks_of_begin due, Nat.ne_of_gt positive]
  · have stillShort : heldLong options tieBreak pressedAt (now + 1) = false := by
      by_contra held
      exact due (due_eq_fireTime_iff.mpr ⟨short, eq_true_of_ne_false held⟩)
    have decided : history.lastDecided options tieBreak (now + 1) =
        history.lastDecided options tieBreak now := by
      simp [History.lastDecided, down, short, stillShort]
    refine ⟨[], ?_, ?_⟩
    · simp [fireDue, fireLongPress, fireDecision, fireTicker, History.controlState, down,
        short, stillShort, due, History.pendingClicks, decided]
    · simp [History.word, History.opened, History.decidedRuns, down, short, stillShort, decided]

theorem tick_up (up : history.down = none) :
    GoesOn options tieBreak ref (fireTime tieBreak now) (history, now) (history, now + 1)
      (fireDue options (fireTime tieBreak now)
        (history.controlState options tieBreak ref now)) := by
  have word : history.word options tieBreak (now + 1) =
      (history.decidedRuns options tieBreak (now + 1)).flatMap
        (runGestures options tieBreak) := by
    simp [History.word, History.opened, up]
  have wordNow : history.word options tieBreak now =
      (history.decidedRuns options tieBreak now).flatMap (runGestures options tieBreak) := by
    simp [History.word, History.opened, up]
  cases decided : history.lastDecided options tieBreak now with
  | true =>
    have later : history.lastDecided options tieBreak (now + 1) = true := by
      unfold History.lastDecided at decided ⊢
      cases found : history.contacts.getLast? with
      | none => rfl
      | some contact =>
        simp only [found, up, Bool.or_eq_true] at decided ⊢
        exact decided.imp_right fun early => expired_mono early (Nat.le_succ now)
    refine ⟨[], ?_, ?_⟩
    · simp [fireDue, fireLongPress, fireDecision, fireTicker, History.controlState, up,
        History.decisionTimer, History.pendingClicks, decided, later]
    · simp [word, wordNow, History.decidedRuns, decided, later]
  | false =>
    rcases last_of_undecided decided with ⟨contact, found, click⟩
    have same : ∀ time, history.lastDecided options tieBreak time =
        windowOver options tieBreak contact.releasedAt time := by
      simp [History.lastDecided, found, click, up]
    have notYet : windowOver options tieBreak contact.releasedAt now = false := by
      rw [← same, decided]
    by_cases due :
        contact.releasedAt + options.doublePressWindowMs = fireTime tieBreak now
    · have later : history.lastDecided options tieBreak (now + 1) = true := by
        rw [same]
        exact (due_eq_fireTime_iff.mp due).2
      have flushed : flushClickDecision options (fireTime tieBreak now) ref
          ⟨none, min (history.pendingClicks options tieBreak now) 3, false, none, none,
            some ⟨fireTime tieBreak now, ref⟩⟩ = (⟨none, 0, false, none, none, none⟩,
            (history.pendingGestures options tieBreak now).map
              (derivedAt options (fireTime tieBreak now) ref)) :=
        flush_pending history now _ ref rfl
      have nothing : history.pendingClicks options tieBreak (now + 1) = 0 := by
        simp [History.pendingClicks, later]
      refine ⟨history.pendingGestures options tieBreak now, ?_, ?_⟩
      · simp [fireDue, fireLongPress, fireDecision, fireTicker, History.controlState, up,
          History.decisionTimer, found, decided, due, later, flushed, nothing]
      · rw [word, wordNow, ← runs_eq_decided_append, History.decidedRuns, if_pos later]
    · have later : history.lastDecided options tieBreak (now + 1) = false := by
        rw [same]
        by_contra closed
        exact due (due_eq_fireTime_iff.mpr ⟨notYet, eq_true_of_ne_false closed⟩)
      refine ⟨[], ?_, ?_⟩
      · simp [fireDue, fireLongPress, fireDecision, fireTicker, History.controlState, up,
          History.decisionTimer, found, decided, due, later, History.pendingClicks]
      · simp [word, wordNow, History.decidedRuns, decided, later]

theorem tick_control (options : InputEngineOptions) (tieBreak : TieBreak)
    (ref : ControlRef) (now : Nat) (history : History) :
    GoesOn options tieBreak ref (fireTime tieBreak now) (history, now) (history, now + 1)
      (fireDue options (fireTime tieBreak now)
        (history.controlState options tieBreak ref now)) := by
  cases down : history.down with
  | none => exact tick_up down
  | some pressedAt =>
    cases held : heldLong options tieBreak pressedAt now with
    | true => exact tick_held down held
    | false => exact tick_pressed down held

/-! ## All controls together -/

def derivedGesture (ref : ControlRef) : Publication → Option KeypadGesture
  | .passed _ => none
  | .derived event => if event.ref = ref then some event.gesture else none

def derivedFor (ref : ControlRef) (published : List Publication) : List KeypadGesture :=
  published.filterMap (derivedGesture ref)

theorem controlKey_injective {left right : ControlRef}
    (same : controlKey left = controlKey right) : left = right := by
  rcases left with ⟨leftKeypad, leftControl⟩
  simp only [controlKey, String.append_assoc] at same
  rcases SupremeId.append_inj same with ⟨rfl, rest⟩
  have lists := congrArg String.toList rest
  simp only [String.toList_append, append_cancel_left_eq] at lists
  rw [String.toList_inj.mp lists]

theorem derivedFor_append (ref : ControlRef) (left right : List Publication) :
    derivedFor ref (left ++ right) = derivedFor ref left ++ derivedFor ref right :=
  filterMap_append

theorem derivedFor_derivedAt (own other : ControlRef) (time : Nat) (gestures : List KeypadGesture) :
    derivedFor own ((gestures.map (derivedAt options time other)).map Publication.derived) =
      if other = own then gestures else [] := by
  rw [derivedFor, map_map, filterMap_map]
  by_cases same : other = own
  · rw [if_pos same]
    simp [ derivedGesture, derivedAt, same]
  · rw [if_neg same]
    simp [ derivedGesture, derivedAt, same]

structure Tracks (options : InputEngineOptions) (tieBreak : TieBreak) (labels : List Label)
    (state : EngineState) : Prop where
  now : ∀ ref, (record ref labels).now = state.now
  owned : ∀ entry ∈ state.controls.entries, ∃ ref, entry.1 = controlKey ref
  control : ∀ ref, stateFor state ref =
    (record ref labels).history.controlState options tieBreak ref state.now
  word : ∀ ref, derivedFor ref state.published =
    (record ref labels).history.word options tieBreak state.now

theorem tracks_constructed : Tracks options tieBreak [] constructed where
  now _ := rfl
  owned _ member := (not_mem_nil member).elim
  control ref := by
    simp [stateFor, constructed, record, History.controlState, History.pendingClicks,
      History.lastDecided, History.decisionTimer, freshState]
  word ref := by
    simp [derivedFor, constructed, record, History.word, History.decidedRuns, History.runs, History.opened]

theorem record_append (ref : ControlRef) (labels : List Label) (label : Label) :
    record ref (labels ++ [label]) = (record ref labels).step ref label := by
  simp [record]

theorem stateFor_settle (own ref : ControlRef) (outcome : ControlState × List InputEvent)
    (state : EngineState) :
    stateFor (settle ref outcome state) own =
      if own = ref then outcome.1 else stateFor state own := by
  simp only [stateFor, settle, get_set]
  by_cases same : own = ref
  · simp [same]
  · rw [if_neg fun equal => same (controlKey_injective equal), if_neg same]

theorem stateFor_fireAll (due : Nat) (state : EngineState) (ref : ControlRef) :
    stateFor (fireAll options due state) ref = (fireDue options due (stateFor state ref)).1 := by
  simp only [stateFor, fireAll, get_mapValues]
  cases state.controls.get (controlKey ref) with
  | none => rfl
  | some st => rfl

theorem derivedFor_fireAll (tracks : Tracks options tieBreak labels state) (ref : ControlRef) :
    derivedFor ref (fireAll options (fireTime tieBreak state.now) state).published =
      derivedFor ref state.published ++
        derivedFor ref ((fireDue options (fireTime tieBreak state.now)
          (stateFor state ref)).2.map Publication.derived) := by
  simp only [fireAll, derivedFor_append, append_cancel_left_eq]
  rw [map_flatMap, derivedFor, filterMap_flatMap, flatMap_entries (controlKey ref)]
  · simp only [stateFor]
    cases state.controls.get (controlKey ref) with
    | none => rfl
    | some st => rfl
  · rintro ⟨key, st⟩ member differs
    rcases tracks.owned _ member with ⟨other, rfl⟩
    have found : stateFor state other = st := by
      rw [stateFor, get_eq_some_iff.mpr member]
      rfl
    rcases tick_control options tieBreak other state.now (record other labels).history with
      ⟨gestures, fired, _⟩
    rw [tracks.control other] at found
    rw [← found, fired]
    exact (derivedFor_derivedAt ref other _ gestures).trans
      (if_neg fun same => differs (congrArg controlKey same))

theorem tracks_tick (tracks : Tracks options tieBreak labels state) :
    Tracks options tieBreak (labels ++ [.tick]) (tick options tieBreak state) where
  now ref := by
    rw [record_append]
    exact congrArg Nat.succ (tracks.now ref)
  owned entry member := by
    rcases mem_map.mp member with ⟨old, oldMember, rfl⟩
    exact tracks.owned old oldMember
  control ref := by
    rcases tick_control options tieBreak ref state.now (record ref labels).history with
      ⟨gestures, fired, _⟩
    rw [record_append]
    exact (stateFor_fireAll _ state ref).trans (by rw [tracks.control ref, fired]; rfl)
  word ref := by
    rcases tick_control options tieBreak ref state.now (record ref labels).history with
      ⟨gestures, fired, grown⟩
    rw [record_append]
    refine (derivedFor_fireAll tracks ref).trans ?_
    rw [tracks.control ref, fired, tracks.word ref, derivedFor_derivedAt, if_pos rfl]
    exact grown.symm

theorem tracks_pass (tracks : Tracks options tieBreak labels state) {event : InputEvent}
    (unchanged : ∀ ref, (record ref labels).step ref (.ingest event) = record ref labels) :
    Tracks options tieBreak (labels ++ [.ingest event]) (pass event state) where
  now ref := by
    rw [record_append, unchanged]
    exact tracks.now ref
  owned := tracks.owned
  control ref := by
    rw [record_append, unchanged]
    exact tracks.control ref
  word ref := by
    rw [record_append, unchanged]
    show derivedFor ref (state.published ++ _) = _
    rw [derivedFor_append, tracks.word ref]
    exact append_nil _

theorem derivedFor_settle_pass (own : ControlRef) (event : InputEvent)
    (outcome : ControlState × List InputEvent) (state : EngineState) :
    derivedFor own (settle event.ref outcome (pass event state)).published =
      derivedFor own state.published ++ derivedFor own (outcome.2.map Publication.derived) := by
  show derivedFor own ((state.published ++ [.passed event]) ++ _) = _
  rw [derivedFor_append, derivedFor_append]
  exact congrArg (· ++ _) (append_nil _)

theorem tracks_settle (tracks : Tracks options tieBreak labels state) {event : InputEvent}
    {outcome : ControlState × List InputEvent} (gestures : List KeypadGesture)
    (events : outcome.2 = gestures.map (derivedAt options state.now event.ref))
    (time : ((record event.ref labels).step event.ref (.ingest event)).now = state.now)
    (control : outcome.1 = ((record event.ref labels).step event.ref
      (.ingest event)).history.controlState options tieBreak event.ref state.now)
    (word : ((record event.ref labels).step event.ref
        (.ingest event)).history.word options tieBreak state.now =
      (record event.ref labels).history.word options tieBreak state.now ++ gestures) :
    Tracks options tieBreak (labels ++ [.ingest event])
      (settle event.ref outcome (pass event state)) where
  now ref := by
    rw [record_append]
    by_cases own : event.ref = ref
    · exact own ▸ time
    · simp only [Record.step, if_neg own]
      exact tracks.now ref
  owned entry member := by
    have stored := get_eq_some_iff.mpr member
    simp only [settle, get_set] at stored
    split at stored
    · rename_i same
      exact ⟨event.ref, same⟩
    · exact tracks.owned _ (get_eq_some_iff.mp stored)
  control ref := by
    rw [record_append, stateFor_settle]
    by_cases own : ref = event.ref
    · subst own
      rw [if_pos rfl]
      exact control
    · rw [if_neg own]
      simp only [Record.step, if_neg fun equal : event.ref = ref => own equal.symm]
      exact tracks.control ref
  word ref := by
    rw [record_append, derivedFor_settle_pass, tracks.word ref, events, derivedFor_derivedAt]
    by_cases own : event.ref = ref
    · subst own
      rw [if_pos rfl]
      exact word.symm
    · simp only [Record.step, if_neg own, append_nil]
      rfl

theorem controlState_pressedAt (options : InputEngineOptions) (tieBreak : TieBreak)
    (ref : ControlRef) (history : History) (now : Nat) :
    (history.controlState options tieBreak ref now).pressedAt = history.down := by
  unfold History.controlState
  cases history.down with
  | none => rfl
  | some pressedAt =>
    dsimp only
    split <;> rfl

theorem tracks_ingest (tracks : Tracks options tieBreak labels state) (event : InputEvent) :
    Tracks options tieBreak (labels ++ [.ingest event]) (ingest options event state) := by
  rcases event with ⟨ref, ts, gesture⟩
  have time := tracks.now ref
  have control := tracks.control ref
  cases gesture with
  | buttonPressed =>
    rcases press_control options tieBreak ref state.now (record ref labels).history with
      ⟨pressed, word⟩
    rw [← control] at pressed
    apply tracks_settle tracks []
    · rfl
    · simpa [Record.step] using time
    · simpa [Record.step, time] using pressed
    · simpa [Record.step, time] using word
  | buttonReleased =>
    rcases release_control options tieBreak ref state.now (record ref labels).history with
      ⟨gestures, released, word⟩
    rw [← control] at released
    simp only [ingest]
    cases found : state.controls.get (controlKey ref) with
    | none =>
      -- The control was never pressed, so its history has no press to release.
      have fresh : stateFor state ref = freshState := by simp [stateFor, found]
      rw [fresh] at control
      have up : (record ref labels).history.down = none := by
        rw [← controlState_pressedAt options tieBreak ref _ state.now, ← control]
        rfl
      apply tracks_pass tracks
      intro other
      simp only [Record.step]
      split
      · rename_i own
        subst own
        simp only [History.release, up]
      · rfl
    | some st =>
      have same : stateFor state ref = st := by simp [stateFor, found]
      rw [same] at released
      apply tracks_settle tracks gestures
      · exact congrArg Prod.snd released
      · simpa [Record.step] using time
      · simpa [Record.step, time] using congrArg Prod.fst released
      · simpa [Record.step, time] using word
  | _ =>
    apply tracks_pass tracks
    intro other
    simp only [Record.step, ite_self]

theorem tracks_play (options : InputEngineOptions) (tieBreak : TieBreak) (labels : List Label) :
    Tracks options tieBreak labels (play options tieBreak labels) := by
  induction labels using List.reverseRecOn with
  | nil => exact tracks_constructed
  | append_singleton labels label ih =>
    simp only [play, foldl_append]
    cases label with
    | tick => exact tracks_tick ih
    | ingest event => exact tracks_ingest ih event

/-- A click, or a hold from its start to its end. -/
inductive Block where
  | click (count : Nat)
  | hold (elapsed : List Nat) (heldMs : Nat)

def holdGestures (elapsed : List Nat) : List KeypadGesture :=
  .holdStart :: elapsed.map KeypadGesture.holding

def Block.gestures : Block → List KeypadGesture
  | .click count => [clickGesture count]
  | .hold elapsed heldMs => holdGestures elapsed ++ [.holdEnd heldMs, .longPress heldMs]

def holdEdge : KeypadGesture → Option Bool
  | .holdStart => some true
  | .holdEnd _ => some false
  | _ => none

/-- Starts and ends of holds take turns, and a start comes first. -/
def Alternates : List Bool → Prop
  | [] => True
  | [first] => first = true
  | first :: second :: rest => first = true ∧ second = false ∧ Alternates rest

/-- A word of complete blocks, and possibly a hold that has yet to end. -/
def PressWord (gestures : List KeypadGesture) (ended : Bool) : Prop :=
  ∃ blocks : List Block, ∃ hold : Option (List Nat),
    gestures = blocks.flatMap Block.gestures ++ hold.elim [] holdGestures ∧
      (ended = true → hold = none)

theorem holdEdge_holdGestures (elapsed : List Nat) :
    (holdGestures elapsed).filterMap holdEdge = [true] := by
  simp [holdGestures, holdEdge]

theorem PressWord.alternates {gestures : List KeypadGesture} {ended : Bool}
    (word : PressWord gestures ended) : Alternates (gestures.filterMap holdEdge) := by
  rcases word with ⟨blocks, hold, rfl, _⟩
  induction blocks with
  | nil =>
    cases hold with
    | none => trivial
    | some elapsed => simp [holdEdge_holdGestures, Alternates]
  | cons block rest ih =>
    rw [flatMap_cons, append_assoc, filterMap_append]
    cases block with
    | click count =>
      have edges : (Block.click count).gestures.filterMap holdEdge = [] := by
        simp only [Block.gestures, clickGesture]
        split
        · rfl
        · split <;> rfl
      rw [edges, nil_append]
      exact ih
    | hold elapsed heldMs =>
      have edges : (Block.hold elapsed heldMs).gestures.filterMap holdEdge = [true, false] := by
        simp [Block.gestures, holdEdge_holdGestures, holdEdge]
      rw [edges]
      exact ⟨rfl, rfl, ih⟩

theorem holdStream_eq (options : InputEngineOptions) (tieBreak : TieBreak) (pressedAt time : Nat) :
    ∃ elapsed, holdStream options tieBreak pressedAt time = holdGestures elapsed :=
  ⟨_, congrArg _ (map_map ..).symm⟩

theorem runs_blocks (options : InputEngineOptions) (tieBreak : TieBreak)
    (runs : List (List Contact)) :
    ∃ blocks : List Block,
      runs.flatMap (runGestures options tieBreak) = blocks.flatMap Block.gestures := by
  induction runs with
  | nil => exact ⟨[], rfl⟩
  | cons run rest ih =>
    rcases ih with ⟨blocks, same⟩
    cases run with
    | nil => exact ⟨blocks, same⟩
    | cons contact others =>
      rw [flatMap_cons, same, runGestures]
      split
      · rcases holdStream_eq options tieBreak contact.pressedAt contact.releasedAt with
          ⟨elapsed, stream⟩
        rw [stream]
        exact ⟨.hold elapsed (contact.releasedAt - contact.pressedAt) :: blocks, rfl⟩
      · exact ⟨.click (min (others.length + 1) 3) :: blocks, rfl⟩

theorem word_pressWord (options : InputEngineOptions) (tieBreak : TieBreak)
    (history : History) (time : Nat) :
    PressWord (history.word options tieBreak time) history.down.isNone := by
  rcases runs_blocks options tieBreak (history.decidedRuns options tieBreak time) with
    ⟨blocks, same⟩
  simp only [History.word, same, History.opened]
  cases history.down with
  | none => exact ⟨blocks, none, rfl, fun _ => rfl⟩
  | some pressedAt =>
    dsimp only
    split
    · rcases holdStream_eq options tieBreak pressedAt time with ⟨elapsed, stream⟩
      exact ⟨blocks, some elapsed, by rw [stream]; rfl, fun ended => Bool.noConfusion ended⟩
    · exact ⟨blocks, none, rfl, fun _ => rfl⟩

def concerns (ref : ControlRef) : Label → Bool
  | .tick => true
  | .ingest event => decide (event.ref = ref)

theorem record_filter (ref : ControlRef) (labels : List Label) :
    record ref (labels.filter (concerns ref)) = record ref labels := by
  induction labels using List.reverseRecOn with
  | nil => rfl
  | append_singleton labels label ih =>
    rw [filter_append, record_append]
    cases label with
    | tick =>
      rw [← ih]
      exact record_append ref _ .tick
    | ingest event =>
      by_cases own : event.ref = ref
      · rw [filter_cons_of_pos (by simpa [concerns] using own), filter_nil, record_append, ih]
      · rw [filter_cons_of_neg (by simpa [concerns] using own), filter_nil, append_nil, ih]
        simp only [Record.step, if_neg own]

/--
The events that are derived for a control form a press word in which starts and
ends of holds alternate.  They are those of its holds and of its maximal runs
of clicks that are decided, one for every run, and of the hold that is going
on.  The events of other controls do not matter.
-/
theorem press_derivation (options : InputEngineOptions) (tieBreak : TieBreak)
    (labels : List Label) (ref : ControlRef) :
    PressWord (derivedFor ref (play options tieBreak labels).published)
        (record ref labels).history.down.isNone ∧
      Alternates ((derivedFor ref (play options tieBreak labels).published).filterMap holdEdge) ∧
      derivedFor ref (play options tieBreak labels).published =
        ((record ref labels).history.decidedRuns options tieBreak
            (record ref labels).now).flatMap (runGestures options tieBreak) ++
          (record ref labels).history.opened options tieBreak (record ref labels).now ∧
      derivedFor ref (play options tieBreak labels).published = derivedFor ref
          (play options tieBreak (labels.filter (concerns ref))).published := by
  have tracks := tracks_play options tieBreak labels
  have own := tracks_play options tieBreak (labels.filter (concerns ref))
  have word := tracks.word ref
  have form := word_pressWord options tieBreak (record ref labels).history
    (play options tieBreak labels).now
  rw [← word] at form
  refine ⟨form, form.alternates, ?_, ?_⟩
  · rw [word, tracks.now ref]
    rfl
  · rw [word, own.word ref, ← tracks.now ref, ← own.now ref, record_filter]

end Control

end SupremeOs.KeypadFramework.UniversalInputEngine
