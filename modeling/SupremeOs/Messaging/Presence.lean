import SupremeOs.Support.OrderedMap

/-!
# Who is present in a home

For each home the users who are connected, each with the moment at which the
entry expires.  A user has one entry however many connections he has.
-/

namespace SupremeOs.Messaging

open Support OrderedMap

def DEFAULT_TTL : Nat := 90

/-- For each home the users and the milliseconds at which their entries expire. -/
structure InMemoryPresenceStore where
  homes : OrderedMap String (OrderedMap String Nat)

namespace InMemoryPresenceStore

def empty : InMemoryPresenceStore := ⟨OrderedMap.empty⟩

variable (store : InMemoryPresenceStore)

def users (homeId : String) : OrderedMap String Nat :=
  (store.homes.get homeId).getD OrderedMap.empty

def expiry (homeId userId : String) : Option Nat :=
  (store.users homeId).get userId

def markOnline (now : Nat) (homeId userId : String) (ttlSeconds : Nat) : InMemoryPresenceStore :=
  ⟨store.homes.set homeId ((store.users homeId).set userId (now + ttlSeconds * 1000))⟩

def markOffline (homeId userId : String) : InMemoryPresenceStore :=
  match store.homes.get homeId with
  | none => store
  | some users => ⟨store.homes.set homeId (users.delete userId)⟩

/-- The users whose entries have not expired. -/
def online (now : Nat) (homeId : String) : List String :=
  ((store.users homeId).filter fun entry => decide (now < entry.2)).keys

/-- What is left when the users have been asked for. -/
def pruned (now : Nat) (homeId : String) : InMemoryPresenceStore :=
  match store.homes.get homeId with
  | none => store
  | some users => ⟨store.homes.set homeId (users.filter fun entry => decide (now < entry.2))⟩

variable {store : InMemoryPresenceStore} {homeId other userId : String}

@[simp]
theorem expiry_empty (homeId userId : String) : empty.expiry homeId userId = none := by
  simp [expiry, users, empty]

theorem mem_online {now : Nat} : userId ∈ store.online now homeId ↔
      ∃ expiry, store.expiry homeId userId = some expiry ∧ now < expiry := by
  simp [online, mem_keys_iff, has_iff, get_filter_eq_some_iff, expiry]

theorem expiry_markOnline (now ttlSeconds : Nat) (user : String) :
    (store.markOnline now homeId userId ttlSeconds).expiry other user =
      if other = homeId ∧ user = userId then some (now + ttlSeconds * 1000)
      else store.expiry other user := by
  by_cases home : other = homeId
  · by_cases own : user = userId <;> simp [expiry, users, markOnline, home, own]
  · simp [expiry, users, markOnline, home]

theorem expiry_markOffline (user : String) : (store.markOffline homeId userId).expiry other user =
      if other = homeId ∧ user = userId then none else store.expiry other user := by
  rw [markOffline]
  cases found : store.homes.get homeId with
  | none =>
    by_cases home : other = homeId
    · simp [expiry, users, home, found]
    · simp [home]
  | some entries =>
    by_cases home : other = homeId
    · by_cases own : user = userId <;> simp [expiry, users, home, own, found]
    · simp [expiry, users, home]

theorem expiry_pruned {now expiry : Nat} {user : String} :
    (store.pruned now homeId).expiry other user = some expiry ↔
      store.expiry other user = some expiry ∧ (other = homeId → now < expiry) := by
  rw [pruned]
  cases found : store.homes.get homeId with
  | none =>
    by_cases home : other = homeId
    · simp [InMemoryPresenceStore.expiry, users, home, found]
    · simp [home]
  | some entries =>
    by_cases home : other = homeId
    · simp [InMemoryPresenceStore.expiry, users, home, found, get_filter_eq_some_iff]
    · simp [InMemoryPresenceStore.expiry, users, home]

end InMemoryPresenceStore

end SupremeOs.Messaging
