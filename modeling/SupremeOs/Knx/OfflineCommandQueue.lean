import SupremeOs.DomainModel.Capabilities
import SupremeOs.Support.KeyedStore

/-!
# The queue of commands that are issued offline

A command replaces the one that is queued for the same key, in its place.
Draining empties the queue and goes through what was in it; what is older than
the time to live by then is passed over.
-/

namespace SupremeOs.Knx

open Support DomainModel

structure IssuedCommand where
  number : Nat
  deviceId : DeviceId
  command : CapabilityCommand
deriving DecidableEq

structure Target where
  deviceId : DeviceId
  capability : CapabilityKind
deriving DecidableEq

def IssuedCommand.target (issued : IssuedCommand) : Target :=
  ⟨issued.deviceId, issued.command.capability⟩

def bindingKey (target : Target) : String :=
  target.deviceId ++ ":" ++ target.capability.literal

structure QueuedCommand where
  issued : IssuedCommand
  queuedAt : Nat

def QueuedCommand.key (item : QueuedCommand) : String := bindingKey item.issued.target

abbrev OfflineCommandQueue := KeyedStore QueuedCommand.key

/-- Five minutes, in milliseconds. -/
def ttlMs : Nat := 5 * 60 * 1000

def QueuedCommand.isExpired (nowMs : Nat) (item : QueuedCommand) : Bool :=
  decide (ttlMs < nowMs - item.queuedAt)

namespace OfflineCommandQueue

def enqueue (queue : OfflineCommandQueue) (issued : IssuedCommand) (now : Nat) :
    OfflineCommandQueue :=
  queue.put ⟨issued, now⟩

def pending (queue : OfflineCommandQueue) : List QueuedCommand := queue.list

def clear : OfflineCommandQueue := KeyedStore.empty

end OfflineCommandQueue

theorem bindingKey_injective : Function.Injective bindingKey := by
  rintro ⟨leftDevice, leftCapability⟩ ⟨rightDevice, rightCapability⟩ same
  have plain : ∀ capability : CapabilityKind, ':' ∉ capability.literal.toList.reverse := by
    intro capability
    cases capability <;> decide
  have lists := congrArg (fun text => text.toList.reverse) same
  simp only [bindingKey, String.toList_append, List.reverse_append, List.append_assoc] at lists
  rcases append_separator_injective (plain leftCapability) (plain rightCapability) lists with
    ⟨capabilities, devices⟩
  have devices : leftDevice.toList.reverse = rightDevice.toList.reverse := devices
  rw [CapabilityKind.literal_injective (String.toList_inj.mp (List.reverse_inj.mp capabilities)),
    String.toList_inj.mp (List.reverse_inj.mp devices)]

end SupremeOs.Knx
