import SupremeOs.Knx.Outages
import SupremeOs.Support.Ledger

/-!
# The ledger of the commands

The system refines a ledger: the queue of the driver is the queue of the
ledger, each drain is a batch of it, and a group write carries a command out.
A drain keeps the ledger as long as it is not overtaken and loses nothing that
still counts.
-/

namespace SupremeOs.Knx

open Support DomainModel List

/-- What a drain will try to send. -/
def freshCommands (nowMs : Nat) (items : List QueuedCommand) : List IssuedCommand :=
  (items.filter fun item => !item.isExpired nowMs).map QueuedCommand.issued

theorem freshCommands_cons_of_expired {nowMs : Nat} {item : QueuedCommand}
    (expired : item.isExpired nowMs = true) (rest : List QueuedCommand) :
    freshCommands nowMs (item :: rest) = freshCommands nowMs rest := by
  simp [freshCommands, expired]

theorem freshCommands_cons_of_fresh {nowMs : Nat} {item : QueuedCommand}
    (fresh : item.isExpired nowMs = false) (rest : List QueuedCommand) :
    freshCommands nowMs (item :: rest) = item.issued :: freshCommands nowMs rest := by
  simp [freshCommands, fresh]

def Task.batch : Task → Option (List IssuedCommand)
  | .drain nowMs items => some (freshCommands nowMs items)
  | _ => none

namespace KnxSystem

def ledger (system : KnxSystem) : Ledger IssuedCommand where
  next := system.issued
  accepted := system.accepted
  givenUp := system.expired
  done := system.writes
  queued := system.offlineQueue.pending.map QueuedCommand.issued
  batches := system.tasks.filterMap Task.batch

theorem ledger_spawn {task : Task} (noBatch : task.batch = none) (system : KnxSystem) :
    (system.spawn task).ledger = system.ledger := by
  simp [ledger, spawn, noBatch]

theorem ledger_spawn_drain (system : KnxSystem) (nowMs : Nat) (items : List QueuedCommand) :
    (system.spawn (.drain nowMs items)).ledger =
      { system.ledger with batches := system.ledger.batches ++ [freshCommands nowMs items] } := by
  simp [ledger, spawn, Task.batch]

abbrev Kept (ledger : Ledger IssuedCommand) : Prop :=
  Ledger.Kept IssuedCommand.number IssuedCommand.target ledger

/-- No other drain holds an older command for the same capability. -/
def Foremost (ledger : Ledger IssuedCommand) (issued : IssuedCommand) : Prop :=
  ∀ batch ∈ ledger.batches, ∀ other ∈ batch,
    other.target = issued.target → issued.number < other.number

instance (ledger : Ledger IssuedCommand) (issued : IssuedCommand) :
    Decidable (Foremost ledger issued) :=
  inferInstanceAs (Decidable (∀ _ ∈ ledger.batches, _))

/-- None of the commands is the last one for its capability. -/
def Superseded (ledger : Ledger IssuedCommand) (dropped : List IssuedCommand) : Prop :=
  ∀ issued ∈ dropped,
    Ledger.lastFor IssuedCommand.target issued.target ledger.accepted ≠ some issued

instance (ledger : Ledger IssuedCommand) (dropped : List IssuedCommand) :
    Decidable (Superseded ledger dropped) :=
  inferInstanceAs (Decidable (∀ _ ∈ dropped, _))

/-- The next command of a drain that is not too old can be sent, or what its failure drops
has been superseded. -/
def DrainSafe (client : Bool) (ledger : Ledger IssuedCommand) (nowMs : Nat) (works : Bool) :
    List QueuedCommand → Prop
  | [] => True
  | item :: rest =>
    if item.isExpired nowMs then DrainSafe client ledger nowMs works rest
    else if isWritable item.issued.target.capability && client && works then
      Foremost ledger item.issued
    else Superseded ledger (freshCommands nowMs (item :: rest))

instance decidableDrainSafe (client : Bool) (ledger : Ledger IssuedCommand) (nowMs : Nat)
    (works : Bool) : ∀ items, Decidable (DrainSafe client ledger nowMs works items)
  | [] => isTrue trivial
  | item :: rest =>
    have := decidableDrainSafe client ledger nowMs works rest
    inferInstanceAs (Decidable (if item.isExpired nowMs then _ else if
      isWritable item.issued.target.capability && client && works then _ else _))

variable {system : KnxSystem}

/-- What only a command changes. -/
structure SameRecords (before after : KnxSystem) : Prop where
  bindings : after.bindings = before.bindings
  accepted : after.accepted = before.accepted
  rejectedOffline : after.rejectedOffline = before.rejectedOffline

theorem SameRecords.trans {first second third : KnxSystem} (left : SameRecords first second)
    (right : SameRecords second third) : SameRecords first third :=
  ⟨right.bindings.trans left.bindings, right.accepted.trans left.accepted,
    right.rejectedOffline.trans left.rejectedOffline⟩

theorem sameRecords_executeCommand (system : KnxSystem) (issued : IssuedCommand) (works : Bool) :
    SameRecords system (system.executeCommand issued works) := by
  unfold executeCommand
  split_ifs <;> exact ⟨rfl, rfl, rfl⟩

theorem offlineQueue_executeCommand (system : KnxSystem) (issued : IssuedCommand) (works : Bool) :
    (system.executeCommand issued works).offlineQueue = system.offlineQueue := by
  unfold executeCommand
  split_ifs <;> rfl

theorem sameRecords_drainFrom (system : KnxSystem) (nowMs : Nat) (works : Bool)
    (items : List QueuedCommand) : SameRecords system (system.drainFrom nowMs works items) := by
  induction items with
  | nil => exact ⟨rfl, rfl, rfl⟩
  | cons item rest ih =>
    have sent := sameRecords_executeCommand system item.issued works
    unfold drainFrom
    split
    · exact ih
    · split
      · exact ⟨rfl, rfl, rfl⟩
      · dsimp only
        split
        · exact sent.trans ⟨rfl, rfl, rfl⟩
        · exact sent

theorem offlineQueue_drainFrom (system : KnxSystem) (nowMs : Nat) (works : Bool)
    (items : List QueuedCommand) :
    (system.drainFrom nowMs works items).offlineQueue = system.offlineQueue := by
  induction items with
  | nil => rfl
  | cons item rest ih =>
    have sent := offlineQueue_executeCommand system item.issued works
    unfold drainFrom
    split
    · exact ih
    · split
      · rfl
      · dsimp only
        split
        · exact sent
        · exact sent

theorem sameRecords_drainOfflineQueue (system : KnxSystem) (works : Bool) :
    SameRecords system (system.drainOfflineQueue works) := by
  rcases sameRecords_drainFrom _ system.now works system.offlineQueue.pending with
    ⟨bindings, accepted, rejectedOffline⟩
  exact ⟨bindings, accepted, rejectedOffline⟩

def Bound (system : KnxSystem) : Prop :=
  ∀ issued ∈ system.accepted, system.bindingOf issued.target ≠ none

theorem Bound.mono {after : KnxSystem} (bound : system.Bound) (same : SameRecords system after) :
    after.Bound := by
  intro issued member
  rw [same.accepted] at member
  rw [bindingOf, same.bindings]
  exact bound issued member

theorem executeCommand_of_sends {issued : IssuedCommand} {works : Bool}
    (sent : system.sends issued works = true) :
    system.executeCommand issued works = { system with writes := system.writes ++ [issued] } := by
  simp only [sends, Bool.and_eq_true] at sent
  simp [executeCommand, sent.1.1, sent.1.2, sent.2]

theorem ledger_executeCommand_of_not_sends {issued : IssuedCommand} {works : Bool}
    (failed : system.sends issued works = false) :
    (system.executeCommand issued works).ledger = system.ledger := by
  unfold executeCommand
  split_ifs with unsupported offline sent
  · rfl
  · rfl
  · simp_all [sends]
  · rfl

theorem kept_drainFrom (system : KnxSystem) (nowMs : Nat) (works : Bool)
    (items : List QueuedCommand) (bound : system.Bound) (kept : Kept { system.ledger with
      batches := freshCommands nowMs items :: system.ledger.batches })
    (safe : DrainSafe system.client system.ledger nowMs works items) :
    Kept (system.drainFrom nowMs works items).ledger := by
  induction items with
  | nil => exact kept.drop fun request member => nomatch member
  | cons item rest ih =>
    unfold drainFrom
    unfold DrainSafe at safe
    split
    · rename_i expired
      rw [freshCommands_cons_of_expired expired] at kept
      rw [if_pos expired] at safe
      exact ih kept safe
    · rename_i fresh
      rw [if_neg fresh] at safe
      rw [Bool.not_eq_true] at fresh
      have held : item.issued ∈ system.accepted := by
        apply kept.held_accepted
        refine .inr ⟨_, .head _, ?_⟩
        rw [freshCommands_cons_of_fresh fresh]
        exact .head _
      split
      · rename_i unbound
        exact (bound item.issued held unbound).elim
      · dsimp only
        change (if system.sends item.issued works then Foremost system.ledger item.issued
          else Superseded system.ledger (freshCommands nowMs (item :: rest))) at safe
        split
        · rename_i sent
          rw [if_pos sent] at safe
          rw [freshCommands_cons_of_fresh fresh] at kept
          rw [ledger_spawn_drain, executeCommand_of_sends sent]
          exact (kept.carryOut safe).perm (perm_append_singleton _ _)
        · rename_i failed
          rw [if_neg failed] at safe
          rw [ledger_executeCommand_of_not_sends (Bool.not_eq_true _ ▸ failed)]
          exact kept.drop safe

theorem DrainSafe.congr {client works : Bool} {ledger other : Ledger IssuedCommand} {nowMs : Nat}
    {items : List QueuedCommand} (safe : DrainSafe client ledger nowMs works items)
    (batches : other.batches = ledger.batches) (accepted : other.accepted = ledger.accepted) :
    DrainSafe client other nowMs works items := by
  induction items with
  | nil => trivial
  | cons item rest ih =>
    unfold DrainSafe at safe ⊢
    split
    · rename_i expired
      rw [if_pos expired] at safe
      exact ih safe
    · rename_i fresh
      rw [if_neg fresh] at safe
      simpa only [Foremost, Superseded, batches, accepted] using safe

theorem kept_drainOfflineQueue (works : Bool) (bound : system.Bound) (kept : Kept system.ledger)
    (safe : DrainSafe system.client system.ledger system.now works system.offlineQueue.pending) :
    Kept (system.drainOfflineQueue works).ledger := by
  unfold drainOfflineQueue
  apply kept_drainFrom
  · exact bound.mono ⟨rfl, rfl, rfl⟩
  · have apart : (freshCommands system.now system.offlineQueue.pending).Pairwise
        fun first second => first.target ≠ second.target := by
      have keys := system.offlineQueue.nodup_list_keys
      rw [List.Nodup, pairwise_map] at keys
      rw [freshCommands, pairwise_map]
      exact (keys.imp fun differ same => differ (congrArg bindingKey same)).filter _
    refine kept.start ?_ ?_ apart
    · intro issued waits
      rcases mem_map.mp waits with ⟨item, member, rfl⟩
      cases expired : item.isExpired system.now with
      | true => exact .inr (mem_map_of_mem (mem_filter.mpr ⟨member, expired⟩))
      | false =>
        exact .inl (mem_map_of_mem (mem_filter.mpr ⟨member, by simp [expired]⟩))
    · intro issued fresh
      rcases mem_map.mp fresh with ⟨item, member, rfl⟩
      exact mem_map_of_mem (mem_filter.mp member).1
  · exact safe.congr rfl rfl

theorem mem_pending_enqueue {queue : OfflineCommandQueue} {issued other : IssuedCommand}
    {now : Nat} :
    other ∈ (queue.enqueue issued now).pending.map QueuedCommand.issued ↔ other = issued ∨
        (other ∈ queue.pending.map QueuedCommand.issued ∧ other.target ≠ issued.target) := by
  simp only [OfflineCommandQueue.enqueue, OfflineCommandQueue.pending, mem_map,
    KeyedStore.mem_list_iff, KeyedStore.get_put]
  have keys : ∀ item : QueuedCommand, item.key = QueuedCommand.key ⟨issued, now⟩ ↔
      item.issued.target = issued.target := fun item => bindingKey_injective.eq_iff
  constructor
  · rintro ⟨item, found, rfl⟩
    split at found
    · simp only [Option.some.injEq] at found
      exact .inl (congrArg QueuedCommand.issued found.symm)
    · rename_i differs
      exact .inr ⟨⟨item, found, rfl⟩, fun same => differs ((keys item).mpr same)⟩
  · rintro (rfl | ⟨⟨item, found, rfl⟩, differs⟩)
    · exact ⟨⟨other, now⟩, by simp, rfl⟩
    · exact ⟨item, by rw [if_neg fun same => differs ((keys item).mp same)]; exact found, rfl⟩

theorem perm_batches {place : Nat} {task : Task} (found : system.tasks[place]? = some task) :
    (task.batch.toList ++ (system.tasks.eraseIdx place).filterMap Task.batch).Perm
      (system.tasks.filterMap Task.batch) := by
  rcases List.getElem?_eq_some_iff.mp found with ⟨inside, here⟩
  have whole := (getElem_cons_eraseIdx_perm inside).filterMap Task.batch
  rw [here] at whole
  refine List.Perm.trans (List.Perm.of_eq ?_) whole
  cases batch : task.batch <;> simp [batch]

end KnxSystem

end SupremeOs.Knx
