import SupremeOs.DomainModel.JsValue
import SupremeOs.Support.Histories
import SupremeOs.Support.Machine
import SupremeOs.Support.StableInsertion

/-!
# The commands of one television

A session sends its commands one at a time.  Those that wait are kept by
priority; a new one takes the place of one with its key that still waits.  The
loop that runs them is started by every call of `enqueue` and goes on when the
run that it awaits has settled.

A command is named by the number of its call.  What the queue does with runs
and promises is recorded in the order in which it does it.
-/

namespace SupremeOs.TvSdk

open DomainModel Support

structure EnqueueOptions where
  dedupeKey : Option String
  priority : Option JsNumber

/-- The run and the promise of an item are those of its command. -/
structure QueuedItem where
  command : Nat
  dedupeKey : Option String
  priority : JsNumber
deriving DecidableEq

/-- What a promise is rejected with: an error of the queue, or what a run threw. -/
inductive Rejection (Thrown : Type) where
  | error (message : String)
  | thrown (value : Thrown)

inductive QueueEntry (Thrown : Type) where
  | refused (item : QueuedItem)
  /-- The call for `later` takes the item out of the queue. -/
  | superseded (item later : QueuedItem)
  | enqueued (item : QueuedItem)
  | cancelled (item : QueuedItem) (reason : String)
  | started (item : QueuedItem)
  | settled (item : QueuedItem) (outcome : Except Thrown Unit)

variable {Thrown : Type}

def QueueEntry.command : QueueEntry Thrown → Nat
  | .refused item | .superseded item _ | .enqueued item | .cancelled item _ | .started item
  | .settled item _ => item.command

def QueueEntry.promise : QueueEntry Thrown → Option (Except (Rejection Thrown) Unit)
  | .refused _ => some (.error (.error "tv: command queue disposed"))
  | .superseded _ _ => some (.ok ())
  | .cancelled _ reason => some (.error (.error ("tv: command cancelled (" ++ reason ++ ")")))
  | .settled _ (.ok ()) => some (.ok ())
  | .settled _ (.error thrown) => some (.error (.thrown thrown))
  | .enqueued _ | .started _ => none

def QueueEntry.starts : QueueEntry Thrown → Bool
  | .started _ => true
  | .refused _ | .superseded _ _ | .enqueued _ | .cancelled _ _ | .settled _ _ => false

structure TvCommandQueue (Thrown : Type) where
  items : List QueuedItem
  draining : Bool
  disposed : Bool
  /-- The items whose runs are awaited, one by each call of `drain` that goes on. -/
  awaited : List QueuedItem
  /-- The number of the next command. -/
  next : Nat
  log : List (QueueEntry Thrown)

namespace TvCommandQueue

def empty : TvCommandQueue Thrown := ⟨[], false, false, [], 0, []⟩

def note (entry : QueueEntry Thrown) (queue : TvCommandQueue Thrown) : TvCommandQueue Thrown :=
  { queue with log := queue.log ++ [entry] }

variable (queue : TvCommandQueue Thrown)

/-- From one `await` of the loop to the next one, or to its end. -/
def drainRound : TvCommandQueue Thrown :=
  match queue.items with
  | [] => { queue with draining := false }
  | item :: rest =>
    { queue with items := rest, awaited := queue.awaited ++ [item] }.note (.started item)

def drain : TvCommandQueue Thrown :=
  if queue.draining then queue else { queue with draining := true }.drainRound

/-- An awaited run settles, and the loop that awaits it goes on. -/
def settle (item : QueuedItem) (outcome : Except Thrown Unit) (queue : TvCommandQueue Thrown) :
    TvCommandQueue Thrown :=
  ({ queue with awaited := queue.awaited.erase item }.note (.settled item outcome)).drainRound

/-- An item that waits with the key of a new one is taken out; the empty key is none. -/
def supersede (later : QueuedItem) (queue : TvCommandQueue Thrown) : TvCommandQueue Thrown :=
  match later.dedupeKey with
  | none => queue
  | some key =>
    if key = "" then queue
    else
      match queue.items.find? fun item => item.dedupeKey = some key with
      | none => queue
      | some old =>
        { queue with
          items := queue.items.eraseP fun item => item.dedupeKey = some key }.note
            (.superseded old later)

/-- The item is put before the first one with a higher priority number, or at the end. -/
def insert (item : QueuedItem) (queue : TvCommandQueue Thrown) : TvCommandQueue Thrown :=
  { queue with
    items := queue.items.orderedInsert (fun new old => new.priority.less old.priority = true)
      item }.note (.enqueued item)

/-- The call has been made, and the next one has the next number. -/
def called : TvCommandQueue Thrown :=
  { queue with next := queue.next + 1 }

def newItem (opts : EnqueueOptions) (queue : TvCommandQueue Thrown) : QueuedItem where
  command := queue.next
  dedupeKey := opts.dedupeKey
  priority := opts.priority.getD (.finite 5)

def enqueue (opts : EnqueueOptions) (queue : TvCommandQueue Thrown) : TvCommandQueue Thrown :=
  let item := queue.newItem opts
  if queue.disposed then queue.called.note (.refused item)
  else ((queue.supersede item).called.insert item).drain

def clear (reason : String) (queue : TvCommandQueue Thrown) : TvCommandQueue Thrown :=
  { queue with
    items := []
    log := queue.log ++ queue.items.map fun item => .cancelled item reason }

def dispose : TvCommandQueue Thrown :=
  { queue.clear "session disposed" with disposed := true }

end TvCommandQueue

/-- A call, also one that a run makes, or the end of a run that is awaited. -/
inductive QueueLabel (Thrown : Type) where
  | enqueue (opts : EnqueueOptions)
  | clear (reason : String)
  | dispose
  | settles (item : QueuedItem) (outcome : Except Thrown Unit)

variable (Thrown) in
def tvCommandQueue : Machine (TvCommandQueue Thrown) (QueueLabel Thrown) where
  step queue
    | .enqueue opts => some (queue.enqueue opts)
    | .clear reason => some (queue.clear reason)
    | .dispose => some queue.dispose
    | .settles item outcome =>
      if item ∈ queue.awaited then some (queue.settle item outcome) else none

/-- The command has been enqueued, and nothing else has happened to it. -/
def Waiting (log : List (QueueEntry Thrown)) (item : QueuedItem) : Prop :=
  lifeOf QueueEntry.command item.command log = [.enqueued item]

/-- The first item has a lower priority number, or an incomparable one, or is older. -/
def StartsBefore (first second : QueuedItem) : Prop :=
  Precedes (fun left right => JsNumber.less left right = true) QueuedItem.priority
    QueuedItem.command first second

/-- Every item was started while it waited, and before all others that waited. -/
def StartedInOrder (log : List (QueueEntry Thrown)) : Prop :=
  ∀ before item after, log = before ++ .started item :: after → Waiting before item ∧
      ∀ other, Waiting before other → other ≠ item → StartsBefore item other

/-- The new command has the key of the old one, which is not empty. -/
def SameKey (old later : QueuedItem) : Prop :=
  ∃ key, key ≠ "" ∧ old.dedupeKey = some key ∧ later.dedupeKey = some key

/-- Why a command that has not been started will never be. -/
inductive NeverStarts (queue : TvCommandQueue Thrown) (command : Nat) : Prop
  | superseded (item later : QueuedItem) (named : item.command = command)
      (resolved : .superseded item later ∈ queue.log) (newer : command < later.command)
      (called : .enqueued later ∈ queue.log) (same : SameKey item later)
  | cancelled (item : QueuedItem) (reason : String) (named : item.command = command)
      (rejected : .cancelled item reason ∈ queue.log)
  | refused (item : QueuedItem) (named : item.command = command) (disposed : queue.disposed = true)
      (rejected : .refused item ∈ queue.log)

/--
At most one run is awaited, and if there is none, nothing waits.  Every command
is started at most once and its promise settled at most once, and it has been
started, or waits, or there is a reason why it never starts.
-/
structure QueueSound (queue : TvCommandQueue Thrown) : Prop where
  oneRun : queue.awaited.length ≤ 1
  idle : queue.awaited = [] → queue.items = []
  startsOnce : ∀ command,
    ((lifeOf QueueEntry.command command queue.log).filter QueueEntry.starts).length ≤ 1
  settlesOnce : ∀ command,
    ((lifeOf QueueEntry.command command queue.log).filterMap QueueEntry.promise).length ≤ 1
  inOrder : StartedInOrder queue.log
  accounted : ∀ command < queue.next, (∃ item, item.command = command ∧ .started item ∈ queue.log) ∨
      (∃ item ∈ queue.items, item.command = command) ∨ NeverStarts queue command
  unstarted : ∀ command, NeverStarts queue command → ∀ item, item.command = command →
    .started item ∉ queue.log

end SupremeOs.TvSdk
