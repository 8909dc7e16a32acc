import Mathlib.Algebra.Order.Ring.Rat
import SupremeOs.Support.FirstFailure
import SupremeOs.Support.KeyedStore

/-!
# Draining a queue of commands

The queue that is used offline knows neither devices nor the clock.  When it is
drained it reads the clock once, empties itself and then executes what was in
it, one command after the other.  Each execution takes its time, may fail, and
other commands may be enqueued while it goes on.

A failed execution ends the drain, and what was to come after it is lost.  A
command that has become too old during the executions before it is still
executed.
-/

namespace SupremeOs.Knx.OfflineQueue

open Support

variable {Subject Command : Type}

structure QueuedCommand (Subject Command : Type) where
  subject : Subject
  command : Command
  queuedAt : ℚ
deriving DecidableEq

/-- Times are in milliseconds. -/
structure OfflineCommandQueueOptions (Subject Command : Type) where
  ttlMs : Option ℚ
  keyOf : Subject → Command → String

namespace OfflineCommandQueueOptions

variable (opts : OfflineCommandQueueOptions Subject Command)

/-- Five minutes if nothing is said. -/
def ttl : ℚ := opts.ttlMs.getD (5 * 60 * 1000)

def key (item : QueuedCommand Subject Command) : String :=
  opts.keyOf item.subject item.command

/-- The command is within its time to live. -/
def fresh (now : ℚ) (item : QueuedCommand Subject Command) : Bool :=
  decide (now - item.queuedAt ≤ opts.ttl)

theorem fresh_iff {opts : OfflineCommandQueueOptions Subject Command} {now : ℚ}
    {item : QueuedCommand Subject Command} :
    opts.fresh now item = true ↔ ¬opts.ttl < now - item.queuedAt := by
  rw [fresh, decide_eq_true_eq, not_lt]

end OfflineCommandQueueOptions

variable {opts : OfflineCommandQueueOptions Subject Command}

abbrev OfflineCommandQueue (opts : OfflineCommandQueueOptions Subject Command) :=
  KeyedStore opts.key

namespace OfflineCommandQueue

/-- A call of `enqueue`, and what the clock says then. -/
structure Enqueue (Subject Command : Type) where
  subject : Subject
  command : Command
  now : ℚ

/-- A new command for the same key overwrites, never appends. -/
def enqueue (queue : OfflineCommandQueue opts) (call : Enqueue Subject Command) :
    OfflineCommandQueue opts :=
  queue.put ⟨call.subject, call.command, call.now⟩

def enqueueAll (queue : OfflineCommandQueue opts) (calls : List (Enqueue Subject Command)) :
    OfflineCommandQueue opts :=
  calls.foldl enqueue queue

/-- What the clock says when it is a command's turn, and how its execution goes. -/
structure Turn (Subject Command : Type) where
  now : ℚ
  /-- What is enqueued while the execution goes on. -/
  enqueued : List (Enqueue Subject Command)
  outcome : Except String Unit

structure DrainResult where
  executed : Nat
  expired : Nat

/-- The queue, the commands whose executions were started, and how it ends. -/
structure Drained (opts : OfflineCommandQueueOptions Subject Command) where
  queue : OfflineCommandQueue opts
  started : List (QueuedCommand Subject Command)
  ended : Except String DrainResult

/-- The loop, with what the clock said at its begin. -/
def drainItems (nowMs : ℚ) (turn : QueuedCommand Subject Command → Turn Subject Command) :
    List (QueuedCommand Subject Command) → OfflineCommandQueue opts → DrainResult → Drained opts
  | [], queue, result => ⟨queue, [], .ok result⟩
  | item :: rest, queue, result =>
    if opts.ttl < nowMs - item.queuedAt then
      drainItems nowMs turn rest queue { result with expired := result.expired + 1 }
    else
      let queue := queue.enqueueAll (turn item).enqueued
      match (turn item).outcome with
      | .error error => ⟨queue, [item], .error error⟩
      | .ok () =>
        let drained :=
          drainItems nowMs turn rest queue { result with executed := result.executed + 1 }
        { drained with started := item :: drained.started }

def drain (queue : OfflineCommandQueue opts) (nowMs : ℚ)
    (turn : QueuedCommand Subject Command → Turn Subject Command) : Drained opts :=
  drainItems nowMs turn queue.list KeyedStore.empty ⟨0, 0⟩

/--
Exactly the commands are executed, each once and in their order, that are within
their time to live when it is their turn, and what is queued afterwards is what
was enqueued during the executions.
-/
structure DrainExact (queue : OfflineCommandQueue opts) (nowMs : ℚ)
    (turn : QueuedCommand Subject Command → Turn Subject Command) : Prop where
  executes : (queue.drain nowMs turn).started =
    queue.list.filter fun item => opts.fresh (turn item).now item
  keeps : (queue.drain nowMs turn).queue = enqueueAll KeyedStore.empty
    ((queue.drain nowMs turn).started.flatMap fun item => (turn item).enqueued)

/-- The execution of the command is rejected. -/
def Turn.fails (turn : Turn Subject Command) : Bool :=
  match turn.outcome with
  | .error _ => true
  | .ok () => false

variable {queue : OfflineCommandQueue opts} {nowMs : ℚ}
variable {turn : QueuedCommand Subject Command → Turn Subject Command}

theorem started_drainItems (items : List (QueuedCommand Subject Command))
    (queue : OfflineCommandQueue opts) (result : DrainResult) :
    (drainItems nowMs turn items queue result).started =
      upToFailure (opts.fresh nowMs) (fun item => (turn item).fails) items := by
  induction items generalizing queue result with
  | nil => rfl
  | cons item rest ih =>
    rw [drainItems, upToFailure]
    by_cases expired : opts.ttl < nowMs - item.queuedAt
    · have stale : ¬opts.fresh nowMs item = true :=
        fun fresh => OfflineCommandQueueOptions.fresh_iff.mp fresh expired
      rw [if_pos expired, if_neg stale, ih]
    · have fresh : opts.fresh nowMs item = true :=
        OfflineCommandQueueOptions.fresh_iff.mpr expired
      rw [if_neg expired, if_pos fresh, Turn.fails]
      cases (turn item).outcome with
      | error error => rfl
      | ok done => exact congrArg (item :: ·) (ih _ _)

theorem queue_drainItems (items : List (QueuedCommand Subject Command))
    (queue : OfflineCommandQueue opts) (result : DrainResult) :
    (drainItems nowMs turn items queue result).queue = queue.enqueueAll
      ((drainItems nowMs turn items queue result).started.flatMap fun item =>
        (turn item).enqueued) := by
  induction items generalizing queue result with
  | nil => rfl
  | cons item rest ih =>
    rw [drainItems]
    split
    · exact ih _ _
    · dsimp only
      split
      · simp
      · rw [ih, List.flatMap_cons, enqueueAll, enqueueAll, enqueueAll, List.foldl_append]

theorem nodup_list (queue : OfflineCommandQueue opts) : queue.list.Nodup :=
  List.Nodup.of_map _ queue.nodup_list_keys

/--
A drain is exact if and only if each command is within its time to live on its
turn as long as it was so at the begin and no execution before it has failed.
-/
theorem drainExact_iff (queue : OfflineCommandQueue opts) (nowMs : ℚ)
    (turn : QueuedCommand Subject Command → Turn Subject Command) :
    DrainExact queue nowMs turn ↔
      WantedUpToFailure (opts.fresh nowMs) (fun item => (turn item).fails)
        (fun item => opts.fresh (turn item).now item) queue.list := by
  rw [← upToFailure_eq_filter_iff queue.nodup_list, ← started_drainItems queue.list
    KeyedStore.empty ⟨0, 0⟩]
  exact ⟨DrainExact.executes, fun executes => ⟨executes, queue_drainItems _ _ _⟩⟩

def bySubject : OfflineCommandQueueOptions String String := ⟨none, fun subject _ => subject⟩

def twoLights : OfflineCommandQueue bySubject :=
  enqueueAll KeyedStore.empty [⟨"hall", "on", 0⟩, ⟨"porch", "on", 0⟩]

/-- The light in the hall does not answer. -/
def hallFails (item : QueuedCommand String String) : Turn String String :=
  ⟨1000, [], if item.subject = "hall" then .error "write timeout" else .ok ()⟩

/-- The light on the porch is never switched on, although its command is one second old. -/
theorem hall_loses_porch : ¬DrainExact twoLights 1000 hallFails := by
  intro drained
  have started : (twoLights.drain 1000 hallFails).started = [⟨"hall", "on", 0⟩] := by
    decide +kernel
  have wanted : (twoLights.list.filter fun item => bySubject.fresh (hallFails item).now item) =
      [⟨"hall", "on", 0⟩, ⟨"porch", "on", 0⟩] := by
    decide +kernel
  have executes := drained.executes
  rw [started, wanted] at executes
  exact absurd executes (by decide)

end OfflineCommandQueue

end SupremeOs.Knx.OfflineQueue
