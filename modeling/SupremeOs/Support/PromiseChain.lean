import SupremeOs.Support.OrderedMap

/-!
# Chains of promises

Tasks with one key are serialized by a promise for each of them: a new task is
chained to the promise that a map holds for its key, and its own promise takes
the place of that one.  Whoever chained a task awaits its promise and is then
released; the map entry is dropped if it still holds that promise.

The reactions to a promise run in the order in which they were registered.  A
task is chained to a promise only after the one that awaits it, so its turn
comes when that one has been released.  If no promise is rejected, the tasks
of a key run one at a time and in the order in which they were chained.
-/

namespace SupremeOs.Support

open Option

inductive LinkStatus (Phase Value : Type) where
  /-- The task has not started. -/
  | waiting
  | running (phase : Phase)
  | resolved (value : Value)
  | rejected (message : String)

structure Link (Task Phase Value : Type) where
  task : Task
  /-- The promise it is chained to, by its number. -/
  prior : Option Nat
  status : LinkStatus Phase Value
  /-- Whoever chained the task has yet to be released. -/
  awaited : Bool

structure Chains (Task Key Phase Value : Type) where
  links : List (Link Task Phase Value)
  /-- The last promise of a key. -/
  inFlight : OrderedMap Key Nat

/-- What a waiting task finds its prior promise to be. -/
inductive PriorOutcome where
  | pending
  | fulfilled
  | rejected (message : String)

namespace Chains

variable {Task Key Phase Value : Type}

def empty : Chains Task Key Phase Value := ⟨[], OrderedMap.empty⟩

def promise (chains : Chains Task Key Phase Value) (number : Nat) :
    Option (Link Task Phase Value) :=
  chains.links[number]?

def chain [DecidableEq Key] (key : Task → Key) (task : Task)
    (chains : Chains Task Key Phase Value) : Chains Task Key Phase Value where
  links := chains.links ++ [⟨task, chains.inFlight.get (key task), .waiting, true⟩]
  inFlight := chains.inFlight.set (key task) chains.links.length

def priorOutcome (chains : Chains Task Key Phase Value) (link : Link Task Phase Value) :
    PriorOutcome :=
  match link.prior with
  | none => .fulfilled
  | some number =>
    match chains.promise number with
    | some ⟨_, _, .resolved _, false⟩ => .fulfilled
    | some ⟨_, _, .rejected message, false⟩ => .rejected message
    | _ => .pending

def setStatus (number : Nat) (status : LinkStatus Phase Value)
    (chains : Chains Task Key Phase Value) : Chains Task Key Phase Value :=
  { chains with
    links := chains.links.modify number fun link => { link with status := status } }

/-- The one that awaits a promise goes on. -/
def release (number : Nat) (chains : Chains Task Key Phase Value) : Chains Task Key Phase Value :=
  { chains with
    links := chains.links.modify number fun link => { link with awaited := false } }

/-- Drop the promise of a key if it still is the given one. -/
def forget [DecidableEq Key] (key : Key) (number : Nat) (chains : Chains Task Key Phase Value) :
    Chains Task Key Phase Value :=
  if chains.inFlight.get key = some number then
    { chains with inFlight := chains.inFlight.delete key }
  else chains

variable {number other : Nat} {link after before : Link Task Phase Value}
    {status : LinkStatus Phase Value}

theorem promise_setStatus {chains : Chains Task Key Phase Value} :
    (chains.setStatus number status).promise other = some link ↔
      ∃ before, chains.promise other = some before ∧
        link = if number = other then { before with status := status } else before := by
  simp only [promise, setStatus, List.getElem?_modify, Option.map_eq_map, Option.map_eq_some_iff]
  constructor
  · rintro ⟨before, found, rfl⟩
    exact ⟨before, found, rfl⟩
  · rintro ⟨before, found, rfl⟩
    exact ⟨before, found, rfl⟩

theorem promise_release {chains : Chains Task Key Phase Value} :
    (chains.release number).promise other = some link ↔
      ∃ before, chains.promise other = some before ∧
        link = if number = other then { before with awaited := false } else before := by
  simp only [promise, release, List.getElem?_modify, Option.map_eq_map, Option.map_eq_some_iff]
  constructor
  · rintro ⟨before, found, rfl⟩
    exact ⟨before, found, rfl⟩
  · rintro ⟨before, found, rfl⟩
    exact ⟨before, found, rfl⟩

/-- The two promises are for the same task in the same place of its chain. -/
structure SamePlace (left right : Link Task Phase Value) : Prop where
  task : left.task = right.task
  prior : left.prior = right.prior

theorem exists_before_setStatus {chains : Chains Task Key Phase Value}
    (found : (chains.setStatus number status).promise other = some after) :
    ∃ before, chains.promise other = some before ∧ SamePlace after before ∧
      after.awaited = before.awaited ∧ (number = other ∧ after.status = status ∨
        number ≠ other ∧ after.status = before.status) := by
  rcases promise_setStatus.mp found with ⟨before, stored, rfl⟩
  refine ⟨before, stored, ?_⟩
  split
  · rename_i same
    exact ⟨⟨rfl, rfl⟩, rfl, .inl ⟨same, rfl⟩⟩
  · rename_i differs
    exact ⟨⟨rfl, rfl⟩, rfl, .inr ⟨differs, rfl⟩⟩

theorem exists_after_setStatus (number : Nat) (status : LinkStatus Phase Value)
    {chains : Chains Task Key Phase Value} (found : chains.promise other = some before) :
    ∃ after, (chains.setStatus number status).promise other = some after ∧
      SamePlace after before := by
  refine ⟨_, promise_setStatus.mpr ⟨before, found, rfl⟩, ?_⟩
  split <;> exact ⟨rfl, rfl⟩

theorem exists_before_release {chains : Chains Task Key Phase Value}
    (found : (chains.release number).promise other = some after) :
    ∃ before, chains.promise other = some before ∧ SamePlace after before ∧
      after.status = before.status ∧ (number = other ∧ after.awaited = false ∨
        number ≠ other ∧ after.awaited = before.awaited) := by
  rcases promise_release.mp found with ⟨before, stored, rfl⟩
  refine ⟨before, stored, ?_⟩
  split
  · rename_i same
    exact ⟨⟨rfl, rfl⟩, rfl, .inl ⟨same, rfl⟩⟩
  · rename_i differs
    exact ⟨⟨rfl, rfl⟩, rfl, .inr ⟨differs, rfl⟩⟩

theorem exists_after_release (number : Nat) {chains : Chains Task Key Phase Value}
    (found : chains.promise other = some before) :
    ∃ after, (chains.release number).promise other = some after ∧ SamePlace after before := by
  refine ⟨_, promise_release.mpr ⟨before, found, rfl⟩, ?_⟩
  split <;> exact ⟨rfl, rfl⟩

theorem priorOutcome_eq_fulfilled {chains : Chains Task Key Phase Value}
    (fulfilled : chains.priorOutcome link = .fulfilled) {before : Nat}
    (chained : link.prior = some before) :
    ∃ earlier value, chains.promise before = some earlier ∧
      earlier.status = .resolved value ∧ earlier.awaited = false := by
  simp only [priorOutcome, chained] at fulfilled
  split at fulfilled
  · rename_i found
    exact ⟨_, _, found, rfl, rfl⟩
  · cases fulfilled
  · cases fulfilled

theorem promise_lt {chains : Chains Task Key Phase Value}
    (found : chains.promise number = some link) :
    number < chains.links.length :=
  (List.getElem?_eq_some_iff.mp found).1

variable [DecidableEq Key]

theorem promise_chain {key : Task → Key} {task : Task} {chains : Chains Task Key Phase Value}
    (found : (chains.chain key task).promise number = some link) :
    chains.promise number = some link ∨ number = chains.links.length ∧
        link = ⟨task, chains.inFlight.get (key task), .waiting, true⟩ := by
  simp only [promise, chain, List.getElem?_append] at found
  split at found
  · exact .inl found
  · right
    rcases List.getElem?_eq_some_iff.mp found with ⟨bound, equal⟩
    simp only [List.length_singleton] at bound
    refine ⟨by omega, ?_⟩
    simpa [show number - chains.links.length = 0 by omega] using found.symm

theorem promise_chain_of_promise {key : Task → Key} {task : Task}
    {chains : Chains Task Key Phase Value} (found : chains.promise number = some link) :
    (chains.chain key task).promise number = some link := by
  rcases List.getElem?_eq_some_iff.mp found with ⟨bound, _⟩
  simp only [promise, chain]
  rw [List.getElem?_append_left bound]
  exact found

theorem promise_chain_last (key : Task → Key) (task : Task) (chains : Chains Task Key Phase Value) :
    (chains.chain key task).promise chains.links.length =
      some ⟨task, chains.inFlight.get (key task), .waiting, true⟩ := by
  simp [promise, chain]

@[simp]
theorem promise_forget (key : Key) (number : Nat) (chains : Chains Task Key Phase Value)
    (other : Nat) : (chains.forget key number).promise other = chains.promise other := by
  simp only [forget]
  split <;> rfl

structure Serialized (key : Task → Key) (chains : Chains Task Key Phase Value) : Prop where
  unrejected : ∀ number link, chains.promise number = some link →
    ∀ message, link.status ≠ .rejected message
  /-- A task that nobody awaits any more has been done. -/
  done : ∀ number link, chains.promise number = some link → link.awaited = false →
    ∃ value, link.status = .resolved value
  prior : ∀ number link before, chains.promise number = some link → link.prior = some before →
      before < number ∧ ∃ other, chains.promise before = some other ∧ key other.task = key link.task
  last : ∀ name number, chains.inFlight.get name = some number →
    ∃ link, chains.promise number = some link ∧ key link.task = name
  /-- The last promise of a key is no older than any that is awaited. -/
  latest : ∀ number link, chains.promise number = some link → link.awaited = true →
    ∃ newest, chains.inFlight.get (key link.task) = some newest ∧ number ≤ newest
  /-- A waiting task is chained to the last one before it, if that is awaited. -/
  waits : ∀ first second earlier later, first < second →
    chains.promise first = some earlier → chains.promise second = some later →
    key earlier.task = key later.task → later.status = .waiting → earlier.awaited = true →
      ∃ before, later.prior = some before ∧ first ≤ before
  /-- When a task starts, those before it are done. -/
  turns : ∀ first second earlier later, first < second →
    chains.promise first = some earlier → chains.promise second = some later →
    key earlier.task = key later.task → later.status ≠ .waiting → earlier.awaited = false

variable {key : Task → Key} {chains : Chains Task Key Phase Value}

theorem serialized_empty : Serialized key (empty : Chains Task Key Phase Value) where
  unrejected := by simp [promise, empty]
  done := by simp [promise, empty]
  prior := by simp [promise, empty]
  last := by simp [promise, empty]
  latest := by simp [promise, empty]
  waits := by simp [promise, empty]
  turns := by simp [promise, empty]

section

variable (serialized : Serialized key chains)

include serialized

/-- Two tasks of one key are never running at the same time. -/
theorem Serialized.exclusive {first second : Nat}
    {left right : Link Task Phase Value} (foundLeft : chains.promise first = some left)
    (foundRight : chains.promise second = some right)
    (same : key left.task = key right.task) {leftPhase rightPhase : Phase}
    (leftRuns : left.status = .running leftPhase)
    (rightRuns : right.status = .running rightPhase) : first = second := by
  have overtakes : ∀ {number other : Nat} {earlier later : Link Task Phase Value}
      {phase otherPhase : Phase}, chains.promise number = some earlier →
      chains.promise other = some later → key earlier.task = key later.task →
      earlier.status = .running phase → later.status = .running otherPhase → ¬ number < other := by
    intro number other earlier later phase otherPhase found foundLater equal runs runsLater less
    have released := serialized.turns number other earlier later less found foundLater equal
      (by simp [runsLater])
    rcases serialized.done number earlier found released with ⟨value, resolved⟩
    simp [runs] at resolved
  rcases Nat.lt_trichotomy first second with less | equal | greater
  · exact (overtakes foundLeft foundRight same leftRuns rightRuns less).elim
  · exact equal
  · exact (overtakes foundRight foundLeft same.symm rightRuns leftRuns greater).elim

theorem Serialized.turn (found : chains.promise number = some link)
    (waiting : link.status = .waiting) (fulfilled : chains.priorOutcome link = .fulfilled)
    {first : Nat} {earlier : Link Task Phase Value} (less : first < number)
    (foundEarlier : chains.promise first = some earlier)
    (same : key earlier.task = key link.task) : earlier.awaited = false := by
  by_contra awaited
  rw [Bool.not_eq_false] at awaited
  rcases serialized.waits first number earlier link less foundEarlier found same waiting awaited
    with ⟨before, chained, notAfter⟩
  rcases priorOutcome_eq_fulfilled fulfilled chained with
    ⟨prior, value, foundPrior, resolved, released⟩
  rcases serialized.prior number link before found chained with ⟨_, other, foundOther, samePrior⟩
  rw [foundPrior, some.injEq] at foundOther
  subst foundOther
  rcases Nat.eq_or_lt_of_le notAfter with equal | less
  · subst equal
    rw [foundPrior, some.injEq] at foundEarlier
    rw [← foundEarlier, released] at awaited
    exact Bool.noConfusion awaited
  · have done := serialized.turns first before earlier prior less foundEarlier foundPrior
      (same.trans samePrior.symm) (by simp [resolved])
    rw [done] at awaited
    exact Bool.noConfusion awaited

theorem Serialized.chain (task : Task) :
    Serialized key (chains.chain key task) where
  unrejected number link found message := by
    rcases promise_chain found with old | ⟨_, rfl⟩
    · exact serialized.unrejected number link old message
    · simp
  done number link found released := by
    rcases promise_chain found with old | ⟨_, rfl⟩
    · exact serialized.done number link old released
    · cases released
  prior number link before found chained := by
    rcases promise_chain found with old | ⟨rfl, rfl⟩
    · rcases serialized.prior number link before old chained with ⟨less, other, stored, same⟩
      exact ⟨less, other, promise_chain_of_promise stored, same⟩
    · rcases serialized.last (key task) before chained with ⟨other, stored, same⟩
      exact ⟨promise_lt stored, other, promise_chain_of_promise stored, same⟩
  last name number entry := by
    simp only [Chains.chain, OrderedMap.get_set] at entry
    split at entry
    · rename_i same
      cases entry
      exact ⟨_, promise_chain_last key task chains, same.symm⟩
    · rcases serialized.last name number entry with ⟨link, stored, same⟩
      exact ⟨link, promise_chain_of_promise stored, same⟩
  latest number link found awaited := by
    simp only [Chains.chain, OrderedMap.get_set]
    rcases promise_chain found with old | ⟨rfl, rfl⟩
    · split
      · exact ⟨_, rfl, Nat.le_of_lt (promise_lt old)⟩
      · exact serialized.latest number link old awaited
    · exact ⟨_, if_pos rfl, Nat.le_refl _⟩
  waits first second earlier later less foundEarlier foundLater same waiting awaited := by
    have old : chains.promise first = some earlier := by
      rcases promise_chain foundEarlier with old | ⟨rfl, _⟩
      · exact old
      · rcases promise_chain foundLater with oldLater | ⟨rfl, _⟩
        · have bound := promise_lt oldLater
          omega
        · omega
    rcases promise_chain foundLater with oldLater | ⟨rfl, rfl⟩
    · exact serialized.waits first second earlier later less old oldLater same waiting awaited
    · rcases serialized.latest first earlier old awaited with ⟨newest, entry, notAfter⟩
      exact ⟨newest, same ▸ entry, notAfter⟩
  turns first second earlier later less foundEarlier foundLater same started := by
    rcases promise_chain foundLater with oldLater | ⟨rfl, rfl⟩
    · rcases promise_chain foundEarlier with old | ⟨rfl, _⟩
      · exact serialized.turns first second earlier later less old oldLater same started
      · have bound := promise_lt oldLater
        omega
    · exact (started rfl).elim

theorem Serialized.setStatus (found : chains.promise number = some link)
    (awaited : link.awaited = true)
    (started : status ≠ .waiting) (unrejected : ∀ message, status ≠ .rejected message)
    (turn : ∀ first earlier, first < number → chains.promise first = some earlier →
      key earlier.task = key link.task → earlier.awaited = false) :
    Serialized key (chains.setStatus number status) where
  unrejected other after stored message := by
    rcases exists_before_setStatus stored with
      ⟨before, old, _, _, ⟨_, changed⟩ | ⟨_, kept⟩⟩
    · rw [changed]
      exact unrejected message
    · rw [kept]
      exact serialized.unrejected other before old message
  done other after stored released := by
    rcases exists_before_setStatus stored with
      ⟨before, old, _, waited, ⟨rfl, _⟩ | ⟨_, kept⟩⟩
    · rw [found, some.injEq] at old
      rw [waited, ← old, awaited] at released
      exact Bool.noConfusion released
    · rw [kept]
      exact serialized.done other before old (waited ▸ released)
  prior other after index stored chained := by
    rcases exists_before_setStatus stored with ⟨before, old, same, _⟩
    rcases serialized.prior other before index old (same.prior ▸ chained) with
      ⟨less, target, foundTarget, sameKey⟩
    rcases exists_after_setStatus number status foundTarget with ⟨now, foundNow, sameNow⟩
    exact ⟨less, now, foundNow, by rw [sameNow.task, same.task, sameKey]⟩
  last name other entry := by
    rcases serialized.last name other entry with ⟨target, stored, sameKey⟩
    rcases exists_after_setStatus number status stored with ⟨now, foundNow, sameNow⟩
    exact ⟨now, foundNow, by rw [sameNow.task, sameKey]⟩
  latest other after stored waited := by
    rcases exists_before_setStatus stored with ⟨before, old, same, waits, _⟩
    rw [same.task]
    exact serialized.latest other before old (waits ▸ waited)
  waits first second earlier later less foundEarlier foundLater sameKey waiting waited := by
    rcases exists_before_setStatus foundEarlier with ⟨left, oldLeft, same, waits, _⟩
    rcases exists_before_setStatus foundLater with
      ⟨right, oldRight, same', _, ⟨_, changed⟩ | ⟨_, kept⟩⟩
    · exact (started (changed.symm.trans waiting)).elim
    · rw [same'.prior]
      exact serialized.waits first second left right less oldLeft oldRight
        (same.task ▸ same'.task ▸ sameKey) (kept ▸ waiting) (waits ▸ waited)
  turns first second earlier later less foundEarlier foundLater sameKey running := by
    rcases exists_before_setStatus foundEarlier with ⟨left, oldLeft, same, waits, _⟩
    rcases exists_before_setStatus foundLater with
      ⟨right, oldRight, same', _, ⟨rfl, _⟩ | ⟨_, kept⟩⟩
    · rw [found, some.injEq] at oldRight
      rw [waits]
      exact turn first left less oldLeft (by rw [← same.task, oldRight, ← same'.task, sameKey])
    · rw [waits]
      exact serialized.turns first second left right less oldLeft oldRight
        (same.task ▸ same'.task ▸ sameKey) (kept ▸ running)

end

theorem get_forget (name : Key) (number : Nat) (chains : Chains Task Key Phase Value)
    (other : Key) :
    (chains.forget name number).inFlight.get other =
      if chains.inFlight.get name = some number ∧ other = name then none
      else chains.inFlight.get other := by
  simp only [forget]
  by_cases current : chains.inFlight.get name = some number
  · simp [current]
  · simp [current]

theorem Serialized.release (serialized : Serialized key chains)
    (found : chains.promise number = some link) {value : Value}
    (resolved : link.status = .resolved value) :
    Serialized key ((chains.release number).forget (key link.task) number) where
  unrejected other after stored message := by
    rcases exists_before_release ((promise_forget _ _ _ _).symm.trans stored) with
      ⟨before, old, _, status, _⟩
    rw [status]
    exact serialized.unrejected other before old message
  done other after stored released := by
    rcases exists_before_release ((promise_forget _ _ _ _).symm.trans stored) with
      ⟨before, old, _, status, ⟨rfl, _⟩ | ⟨_, kept⟩⟩
    · rw [found, some.injEq] at old
      exact ⟨value, by rw [status, ← old, resolved]⟩
    · rw [status]
      exact serialized.done other before old (kept ▸ released)
  prior other after index stored chained := by
    rcases exists_before_release ((promise_forget _ _ _ _).symm.trans stored) with
      ⟨before, old, same, _⟩
    rcases serialized.prior other before index old (same.prior ▸ chained) with
      ⟨less, target, foundTarget, sameKey⟩
    rcases exists_after_release number foundTarget with ⟨now, foundNow, sameNow⟩
    exact ⟨less, now, (promise_forget _ _ _ _).trans foundNow,
      by rw [sameNow.task, same.task, sameKey]⟩
  last name other entry := by
    rw [get_forget] at entry
    split at entry
    · cases entry
    · rcases serialized.last name other entry with ⟨target, stored, sameKey⟩
      rcases exists_after_release number stored with ⟨now, foundNow, sameNow⟩
      exact ⟨now, (promise_forget _ _ _ _).trans foundNow, by rw [sameNow.task, sameKey]⟩
  latest other after stored waited := by
    rcases exists_before_release ((promise_forget _ _ _ _).symm.trans stored) with
      ⟨before, old, same, _, ⟨_, released⟩ | ⟨differs, waits⟩⟩
    · rw [released] at waited
      exact Bool.noConfusion waited
    · rcases serialized.latest other before old (waits ▸ waited) with
        ⟨newest, entry, notAfter⟩
      refine ⟨newest, ?_, notAfter⟩
      rw [same.task, get_forget, if_neg]
      · exact entry
      · -- A promise before the one that is forgotten is not awaited any more.
        rintro ⟨current, sameKey⟩
        rw [sameKey] at entry
        have equal : newest = number := some.inj (entry.symm.trans current)
        have less : other < number :=
          Nat.lt_of_le_of_ne (equal ▸ notAfter) (fun equal => differs equal.symm)
        have done := serialized.turns other number before link less old found sameKey
          (by simp [resolved])
        rw [waits, done] at waited
        exact Bool.noConfusion waited
  waits first second earlier later less foundEarlier foundLater sameKey waiting waited := by
    rcases exists_before_release ((promise_forget _ _ _ _).symm.trans foundEarlier) with
      ⟨left, oldLeft, same, _, ⟨_, released⟩ | ⟨_, waits⟩⟩
    · rw [released] at waited
      exact Bool.noConfusion waited
    · rcases exists_before_release ((promise_forget _ _ _ _).symm.trans foundLater) with
        ⟨right, oldRight, same', status, _⟩
      rw [same'.prior]
      exact serialized.waits first second left right less oldLeft oldRight
        (same.task ▸ same'.task ▸ sameKey) (status ▸ waiting) (waits ▸ waited)
  turns first second earlier later less foundEarlier foundLater sameKey running := by
    rcases exists_before_release ((promise_forget _ _ _ _).symm.trans foundEarlier) with
      ⟨left, oldLeft, same, _, ⟨_, released⟩ | ⟨_, waits⟩⟩
    · exact released
    · rcases exists_before_release ((promise_forget _ _ _ _).symm.trans foundLater) with
        ⟨right, oldRight, same', status, _⟩
      rw [waits]
      exact serialized.turns first second left right less oldLeft oldRight
        (same.task ▸ same'.task ▸ sameKey) (status ▸ running)

end Chains

end SupremeOs.Support
