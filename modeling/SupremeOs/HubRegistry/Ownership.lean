import SupremeOs.HubRegistry.Registry
import SupremeOs.Support.Updates

/-!
# Who owns a hub

A hub should keep the key it was first enrolled with, be claimed at most once,
and belong to the account of the last claim or transfer that has completed.

The record of a hub is written back as it was read, with the change that the
operation makes.  This is right as long as no other operation has changed the
key, the status or the owner in between.
-/

namespace SupremeOs.HubRegistry

open Support List OrderedMap Option

namespace Answer

def claims (hubUuid : String) : Answer → Bool
  | .claimed result => result.home.hubUuid == hubUuid
  | .enrolled _ | .codeIssued _ | .transferred _ _ | .heard _ | .refused _ => false

/-- The owner that a completed call gives a hub. -/
def setsOwner (hubUuid : String) : Answer → Option (Option String)
  | .claimed result =>
    if result.home.hubUuid = hubUuid then some (some result.home.ownerAccountId) else none
  | .transferred hub toAccountId => if hub = hubUuid then some (some toAccountId) else none
  | .enrolled _ | .codeIssued _ | .heard _ | .refused _ => none

def membership : Answer → Option MembershipRecord
  | .claimed result => some result.membership
  | .enrolled _ | .codeIssued _ | .transferred _ _ | .heard _ | .refused _ => none

end Answer

namespace Registry

/-- How many claims of a hub have succeeded. -/
def claimsOf (registry : Registry) (hubUuid : String) : Nat :=
  registry.answers.countP (Answer.claims hubUuid)

/-- The account of the last completed claim or transfer of a hub. -/
def lastOwner (registry : Registry) (hubUuid : String) : Option String :=
  lastSet (Answer.setsOwner hubUuid) none registry.answers

end Registry

structure HubsOwned (config : Config Registry RegistryCall) : Prop where
  claimedOnce : ∀ hubUuid, config.shared.claimsOf hubUuid ≤ 1
  oneHome : ∀ id home other second, config.shared.store.homes.get id = some home →
    config.shared.store.homes.get other = some second → home.hubUuid = second.hubUuid → id = other
  /-- The memberships are those of the claims that have succeeded. -/
  memberships : config.shared.store.memberships = config.shared.answers.filterMap Answer.membership
  owner : config.pending = [] → ∀ hubUuid, 0 < config.shared.claimsOf hubUuid →
    ∃ hub, config.shared.store.hubs.get hubUuid = some hub ∧ hub.status = .claimed ∧
      hub.claimedByAccountId = config.shared.lastOwner hubUuid

/-- A hub that is known stays known, under its key. -/
def KeyKept (config : Config Registry RegistryCall)
    (_ : Schedule RegistryRequest Surroundings) (next : Config Registry RegistryCall) : Prop :=
  ∀ hubUuid hub, config.shared.store.hubs.get hubUuid = some hub →
    ∃ later, next.shared.store.hubs.get hubUuid = some later ∧ later.publicKey = hub.publicKey

/-- The part of a record that says whose the hub is. -/
structure Ownership where
  publicKey : String
  status : HubStatus
  claimedByAccountId : Option String
deriving DecidableEq

def HubRecord.ownership (hub : HubRecord) : Ownership :=
  ⟨hub.publicKey, hub.status, hub.claimedByAccountId⟩

def HubChange.isClaim : HubChange → Bool
  | .claimed _ => true
  | .enrolled _ _ _ | .transferred _ | .heard _ => false

/--
A record that is written says of key, status and owner what the operation makes
of the record that is stored by then, and a claim is written while the hub is
not claimed; and a claim completes while the hub is still its account's.
-/
def RegistryCall.inTurn (registry : Registry) : RegistryCall → Prop
  | .putHub hubUuid change hub _ =>
    some hub.ownership =
        (change.applyTo hubUuid (registry.store.hubs.get hubUuid)).map HubRecord.ownership ∧
      (change.isClaim = true → ∀ stored ∈ registry.store.hubs.get hubUuid, stored.status ≠ .claimed)
  | .putMembership home _ =>
    ∀ stored ∈ registry.store.hubs.get home.hubUuid,
      stored.claimedByAccountId = some home.ownerAccountId
  | .recordNonce _ _ | .getEnrolling _ _ | .getRenewing _ | .getUnclaimed _ | .putClaimCode _
  | .getClaimed _ _ _ _ | .getClaimCode _ _ _ _ _ | .getTransferred _ _ | .getHeard _
  | .putHome _ _ => True

instance (registry : Registry) : ∀ call, Decidable (RegistryCall.inTurn registry call) := by
  intro call
  unfold RegistryCall.inTurn
  split <;> infer_instance

/-- The condition on the call that goes on. -/
def ownershipGuard (config : Config Registry RegistryCall) :
    Schedule RegistryRequest Surroundings → Prop
  | .call _ => True
  | .resume index _ => ∀ call ∈ config.pending[index]?, call.inTurn config.shared

instance (config : Config Registry RegistryCall) :
    ∀ label, Decidable (ownershipGuard config label) := by
  intro label
  unfold ownershipGuard
  split <;> infer_instance

namespace RegistryCall

/-- The hub has been written as claimed, and its home and membership are still to come. -/
def claims (hubUuid : String) : RegistryCall → Bool
  | .putHome home _ | .putMembership home _ => home.hubUuid == hubUuid
  | .recordNonce _ _ | .getEnrolling _ _ | .getRenewing _ | .getUnclaimed _ | .putClaimCode _
  | .getClaimed _ _ _ _ | .getClaimCode _ _ _ _ _ | .getTransferred _ _ | .getHeard _
  | .putHub _ _ _ _ => false

/-- The membership of the hub is still to come. -/
def settles (hubUuid : String) : RegistryCall → Bool
  | .putMembership home _ => home.hubUuid == hubUuid
  | .putHome _ _ | .recordNonce _ _ | .getEnrolling _ _ | .getRenewing _ | .getUnclaimed _
  | .putClaimCode _ | .getClaimed _ _ _ _ | .getClaimCode _ _ _ _ _ | .getTransferred _ _
  | .getHeard _ | .putHub _ _ _ _ => false

/-- A record is written under its own id, and what follows fits the change. -/
def Sound : RegistryCall → Prop
  | .putHub hubUuid change hub next => hub.hubUuid = hubUuid ∧
      match next with
      | .enrolled _ => ∃ req serial nowMs, change = .enrolled req serial nowMs
      | .claimed accountId _ _ => change = .claimed accountId
      | .transferred toAccountId => change = .transferred toAccountId
      | .heard => ∃ nowMs, change = .heard nowMs
  | .getClaimCode hub hubUuid _ _ _ => hub.hubUuid = hubUuid
  | .recordNonce _ _ | .getEnrolling _ _ | .getRenewing _ | .getUnclaimed _ | .putClaimCode _
  | .getClaimed _ _ _ _ | .getTransferred _ _ | .getHeard _ | .putHome _ _
  | .putMembership _ _ => True

end RegistryCall

/-- How many claims of a hub have succeeded or are about to. -/
def claimsUnderWay (config : Config Registry RegistryCall) (hubUuid : String) : Nat :=
  config.shared.claimsOf hubUuid + config.pending.countP (RegistryCall.claims hubUuid)

structure RegistrySound (config : Config Registry RegistryCall) : Prop where
  keyed : ∀ key hub, config.shared.store.hubs.get key = some hub → hub.hubUuid = key
  calls : ∀ call ∈ config.pending, call.Sound
  once : ∀ hubUuid, claimsUnderWay config hubUuid ≤ 1
  status : ∀ hubUuid, 0 < claimsUnderWay config hubUuid →
    ∃ hub, config.shared.store.hubs.get hubUuid = some hub ∧ hub.status = .claimed
  homes : ∀ id home, config.shared.store.homes.get id = some home →
    0 < config.shared.claimsOf home.hubUuid +
      config.pending.countP (RegistryCall.settles home.hubUuid)
  oneHome : ∀ id home other second, config.shared.store.homes.get id = some home →
    config.shared.store.homes.get other = some second → home.hubUuid = second.hubUuid → id = other
  memberships : config.shared.store.memberships = config.shared.answers.filterMap Answer.membership
  owner : ∀ hubUuid, 0 < config.shared.claimsOf hubUuid →
    ∀ hub, config.shared.store.hubs.get hubUuid = some hub →
      hub.claimedByAccountId = config.shared.lastOwner hubUuid

theorem RegistrySound.hubsOwned {config : Config Registry RegistryCall}
    (sound : RegistrySound config) : HubsOwned config := by
  refine ⟨?_, sound.oneHome, sound.memberships, ?_⟩
  · intro hubUuid
    exact Nat.le_trans (Nat.le_add_right _ _) (sound.once hubUuid)
  · intro _ hubUuid claimed
    rcases sound.status hubUuid (Nat.lt_of_lt_of_le claimed (Nat.le_add_right _ _)) with
      ⟨hub, found, status⟩
    exact ⟨hub, found, status, sound.owner hubUuid claimed hub found⟩

/-- The answer is about no owner. -/
def Answer.isPlain : Answer → Bool
  | .enrolled _ | .codeIssued _ | .heard _ | .refused _ => true
  | .claimed _ | .transferred _ _ => false

/-- What a segment does that writes nothing about a hub. -/
structure Quiet (registry : Registry) (outcome : Registry × List RegistryCall) : Prop where
  hubs : outcome.1.store.hubs = registry.store.hubs
  homes : outcome.1.store.homes = registry.store.homes
  memberships : outcome.1.store.memberships = registry.store.memberships
  answers : ∃ more, outcome.1.answers = registry.answers ++ more ∧
    ∀ answer ∈ more, answer.isPlain = true
  calls : ∀ call ∈ outcome.2, call.Sound ∧ ∀ hubUuid, call.claims hubUuid = false

section Quiet

variable {registry : Registry} {options : RegistryOptions}

theorem quiet_answer {answer : Answer} (plain : answer.isPlain = true) :
    Quiet registry (registry.answer answer) where
  hubs := rfl
  homes := rfl
  memberships := rfl
  answers := ⟨[answer], rfl, by simpa using plain⟩
  calls := fun _ member => absurd member not_mem_nil

theorem quiet_pending {call : RegistryCall} (sound : call.Sound)
    (quiet : ∀ hubUuid, call.claims hubUuid = false) : Quiet registry (registry, [call]) where
  hubs := rfl
  homes := rfl
  memberships := rfl
  answers := ⟨[], (append_nil _).symm, fun _ member => absurd member not_mem_nil⟩
  calls := fun _ member => mem_singleton.mp member ▸ ⟨sound, quiet⟩

theorem hubUuid_of_applyTo {hubUuid : String} {change : HubChange} {read : Option HubRecord}
    {hub : HubRecord} (keyed : ∀ stored ∈ read, stored.hubUuid = hubUuid)
    (applied : change.applyTo hubUuid read = some hub) : hub.hubUuid = hubUuid := by
  cases read with
  | none =>
    cases change with
    | enrolled req serial nowMs =>
      cases applied
      rfl
    | claimed | transferred | heard => cases applied
  | some stored =>
    cases change <;>
      · cases applied
        exact keyed stored rfl

theorem quiet_putHub {hubUuid : String} {change : HubChange} {read : Option HubRecord}
    {next : AfterPut} (keyed : ∀ stored ∈ read, stored.hubUuid = hubUuid)
    (fits : ∀ hub : HubRecord, hub.hubUuid = hubUuid →
      (RegistryCall.putHub hubUuid change hub next).Sound) :
    Quiet registry (registry.putHub hubUuid change read next) := by
  simp only [Registry.putHub]
  split
  · rename_i hub applied
    exact quiet_pending (fits hub (hubUuid_of_applyTo keyed applied)) fun _ => rfl
  · exact quiet_answer rfl

theorem quiet_enroll (req : EnrollmentRequest) (nowMs : Nat) :
    Quiet registry (registry.enroll options req nowMs) := by
  rw [Registry.enroll]
  split
  · exact quiet_answer rfl
  · exact quiet_pending trivial fun _ => rfl

theorem quiet_start (request : RegistryRequest) :
    Quiet registry (registry.start options request) := by
  cases request with
  | enroll req nowMs => exact quiet_enroll req nowMs
  | renew | issueClaimCode | claim | transfer | heartbeat =>
    exact quiet_pending trivial fun _ => rfl

def RegistryCall.writes : RegistryCall → Bool
  | .putHub _ _ _ _ | .putHome _ _ | .putMembership _ _ => true
  | .recordNonce _ _ | .getEnrolling _ _ | .getRenewing _ | .getUnclaimed _ | .putClaimCode _
  | .getClaimed _ _ _ _ | .getClaimCode _ _ _ _ _ | .getTransferred _ _ | .getHeard _ => false

theorem quiet_resume {call : RegistryCall} {surroundings : Surroundings}
    (keyed : ∀ key hub, registry.store.hubs.get key = some hub → hub.hubUuid = key)
    (sound : call.Sound) (reads : call.writes = false) :
    Quiet registry (registry.resume options call surroundings) := by
  cases call with
  | recordNonce req nowMs =>
    simp only [Registry.resume, Registry.afterNonce]
    split
    · exact quiet_answer rfl
    · exact ⟨rfl, rfl, rfl, ⟨[], (append_nil _).symm, fun _ member => by cases member⟩,
        fun call member => mem_singleton.mp member ▸ ⟨trivial, fun _ => rfl⟩⟩
  | getEnrolling req nowMs =>
    simp only [Registry.resume, Registry.afterExisting]
    split
    · exact quiet_answer rfl
    · exact quiet_putHub (keyed req.hubUuid) fun hub same => ⟨same, _, _, _, rfl⟩
  | getRenewing req =>
    simp only [Registry.resume, Registry.afterRenewing]
    split
    · exact quiet_answer rfl
    · split
      · exact quiet_enroll req _
      · exact quiet_answer rfl
  | getUnclaimed hubUuid =>
    simp only [Registry.resume, Registry.afterUnclaimed]
    split
    · exact quiet_answer rfl
    · split
      · exact quiet_answer rfl
      · exact quiet_pending trivial fun _ => rfl
  | putClaimCode code =>
    exact ⟨rfl, rfl, rfl, ⟨[.codeIssued code], rfl, by simp [Answer.isPlain]⟩,
      fun _ member => absurd member not_mem_nil⟩
  | getClaimed hubUuid accountId presentedCode homeName =>
    simp only [Registry.resume, Registry.afterClaimed]
    split
    · exact quiet_answer rfl
    · rename_i hub found
      split
      · exact quiet_answer rfl
      · exact quiet_pending (keyed hubUuid hub found) fun _ => rfl
  | getClaimCode hub hubUuid accountId presentedCode homeName =>
    simp only [Registry.resume, Registry.afterClaimCode]
    split
    · refine quiet_putHub ?_ fun hub same => ⟨same, rfl⟩
      intro stored same
      cases same
      exact sound
    · exact quiet_answer rfl
  | getTransferred hubUuid toAccountId =>
    exact quiet_putHub (keyed hubUuid) fun hub same => ⟨same, rfl⟩
  | getHeard hubUuid =>
    exact quiet_putHub (keyed hubUuid) fun hub same => ⟨same, _, rfl⟩
  | putHub | putHome | putMembership => cases reads

end Quiet

section Fields

variable {registry next : Registry} {more : List Answer}

theorem claimsOf_concat (answers : next.answers = registry.answers ++ more) (hubUuid : String) :
    next.claimsOf hubUuid = registry.claimsOf hubUuid + more.countP (Answer.claims hubUuid) := by
  rw [Registry.claimsOf, answers, countP_append]
  rfl

theorem plain_answers (answers : next.answers = registry.answers ++ more)
    (plain : ∀ answer ∈ more, answer.isPlain = true) (hubUuid : String) :
    next.claimsOf hubUuid = registry.claimsOf hubUuid ∧
      next.lastOwner hubUuid = registry.lastOwner hubUuid ∧
      next.answers.filterMap Answer.membership = registry.answers.filterMap Answer.membership := by
  have nothing : ∀ answer ∈ more, answer.claims hubUuid = false ∧
      answer.setsOwner hubUuid = none ∧ answer.membership = none := by
    intro answer member
    have isPlain := plain answer member
    cases answer with
    | enrolled | codeIssued | heard | refused => exact ⟨rfl, rfl, rfl⟩
    | claimed | transferred => cases isPlain
  refine ⟨?_, ?_, ?_⟩
  · rw [claimsOf_concat answers, countP_eq_zero.mpr fun answer member => by
      simp [(nothing answer member).1]]
    rfl
  · rw [Registry.lastOwner, Registry.lastOwner, answers, lastSet, foldl_append]
    exact lastSet_of_none fun answer member => (nothing answer member).2.1
  · rw [answers, filterMap_append, filterMap_eq_nil_iff.mpr fun answer member =>
      (nothing answer member).2.2, append_nil]

end Fields

/-! ## One step -/

section Steps

variable {options : RegistryOptions} {config next : Config Registry RegistryCall}

theorem settles_le_claims (calls : List RegistryCall) (hubUuid : String) :
    calls.countP (RegistryCall.settles hubUuid) ≤ calls.countP (RegistryCall.claims hubUuid) := by
  apply countP_mono_left
  intro call _ settles
  cases call with
  | putMembership => exact settles
  | _ => cases settles

/-- A segment that writes nothing about a hub keeps what is known. -/
theorem RegistrySound.quiet (sound : RegistrySound config) {shared : Registry}
    {more : List RegistryCall} (quiet : Quiet config.shared (shared, more))
    (same : next.shared = shared)
    (calls : ∀ call ∈ next.pending, call ∈ config.pending ∨ call ∈ more)
    (claims : ∀ hubUuid, next.pending.countP (RegistryCall.claims hubUuid) =
      config.pending.countP (RegistryCall.claims hubUuid))
    (settles : ∀ hubUuid, next.pending.countP (RegistryCall.settles hubUuid) =
      config.pending.countP (RegistryCall.settles hubUuid)) : RegistrySound next := by
  subst same
  rcases quiet.answers with ⟨answers, appended, plain⟩
  have fields := plain_answers appended plain
  have underWay : ∀ hubUuid, claimsUnderWay next hubUuid = claimsUnderWay config hubUuid := by
    intro hubUuid
    rw [claimsUnderWay, claimsUnderWay, claims, (fields hubUuid).1]
  refine ⟨?_, ?_, ?_, ?_, ?_, ?_, ?_, ?_⟩
  · rw [quiet.hubs]
    exact sound.keyed
  · intro call member
    rcases calls call member with old | new
    · exact sound.calls call old
    · exact (quiet.calls call new).1
  · intro hubUuid
    rw [underWay]
    exact sound.once hubUuid
  · intro hubUuid
    rw [underWay, quiet.hubs]
    exact sound.status hubUuid
  · rw [quiet.homes]
    intro id home found
    rw [settles, (fields _).1]
    exact sound.homes id home found
  · rw [quiet.homes]
    exact sound.oneHome
  · rw [quiet.memberships, (fields "").2.2]
    exact sound.memberships
  · intro hubUuid
    rw [(fields hubUuid).1, (fields hubUuid).2.1, quiet.hubs]
    exact sound.owner hubUuid

def HubChange.setsOwner : HubChange → Option (Option String)
  | .claimed accountId | .transferred accountId => some (some accountId)
  | .enrolled _ _ _ | .heard _ => none

variable {before after : List RegistryCall} {hubUuid : String} {hub : HubRecord}
    {change : HubChange} {home : HomeRecord} {call : RegistryCall}

theorem ownership_of_applyTo {stored : HubRecord} (applied : some hub.ownership =
      (change.applyTo hubUuid (some stored)).map HubRecord.ownership) :
    hub.publicKey = stored.publicKey ∧
      (hub.status = if change.isClaim then .claimed else stored.status) ∧
      hub.claimedByAccountId = change.setsOwner.getD stored.claimedByAccountId := by
  cases change <;>
    · injection applied with same
      injection same with publicKey status claimedBy
      exact ⟨publicKey, status, claimedBy⟩

theorem stored_of_applyTo {stored : Option HubRecord} (applied : some hub.ownership =
      (change.applyTo hubUuid stored).map HubRecord.ownership) (claim : change.isClaim = true) :
    ∃ before, stored = some before := by
  cases stored with
  | none => cases change with
    | claimed => cases applied
    | enrolled | transferred | heard => cases claim
  | some before => exact ⟨before, rfl⟩

structure Written (config next : Config Registry RegistryCall) (hubUuid : String)
    (change : HubChange) (hub : HubRecord) : Prop where
  keyed : hub.hubUuid = hubUuid
  inTurn : some hub.ownership =
    (change.applyTo hubUuid (config.shared.store.hubs.get hubUuid)).map HubRecord.ownership
  unclaimed : change.isClaim = true →
    ∀ stored ∈ config.shared.store.hubs.get hubUuid, stored.status ≠ .claimed
  hubs : next.shared.store.hubs = config.shared.store.hubs.set hub.hubUuid hub
  homes : next.shared.store.homes = config.shared.store.homes
  memberships : next.shared.store.memberships = config.shared.store.memberships
  claimsOf : ∀ query, next.shared.claimsOf query = config.shared.claimsOf query
  answered : next.shared.answers.filterMap Answer.membership =
    config.shared.answers.filterMap Answer.membership
  lastOwner : ∀ query, next.shared.lastOwner query =
    if query = hubUuid ∧ change.isClaim = false then
      change.setsOwner.getD (config.shared.lastOwner query)
    else config.shared.lastOwner query
  claims : ∀ query, next.pending.countP (RegistryCall.claims query) =
    config.pending.countP (RegistryCall.claims query) +
      if query = hubUuid ∧ change.isClaim = true then 1 else 0
  settles : ∀ query, next.pending.countP (RegistryCall.settles query) =
    config.pending.countP (RegistryCall.settles query)
  calls : ∀ call ∈ next.pending, call.Sound

theorem RegistrySound.written (sound : RegistrySound config) {hubUuid : String}
    {change : HubChange} {hub : HubRecord} (written : Written config next hubUuid change hub) :
    RegistrySound next := by
  have found : ∀ query, next.shared.store.hubs.get query =
      if query = hubUuid then some hub else config.shared.store.hubs.get query := by
    intro query
    rw [written.hubs, get_set, written.keyed]
  have underWay : ∀ query, claimsUnderWay next query = claimsUnderWay config query +
      if query = hubUuid ∧ change.isClaim = true then 1 else 0 := by
    intro query
    rw [claimsUnderWay, claimsUnderWay, written.claimsOf, written.claims, Nat.add_assoc]
  -- a hub that is claimed here has not been claimed before
  have first : change.isClaim = true → claimsUnderWay config hubUuid = 0 := by
    intro claim
    by_contra more
    rcases sound.status hubUuid (Nat.pos_of_ne_zero more) with ⟨stored, known, status⟩
    exact written.unclaimed claim stored known status
  refine ⟨?_, written.calls, ?_, ?_, ?_, ?_, ?_, ?_⟩
  · intro query other known
    rw [found] at known
    split at known
    · rename_i same
      rw [same, ← some.inj known, written.keyed]
    · exact sound.keyed query other known
  · intro query
    rw [underWay]
    split
    · rename_i here
      exact Nat.le_of_eq (by rw [here.1, first here.2])
    · exact sound.once query
  · intro query claimed
    rw [found]
    rw [underWay] at claimed
    by_cases same : query = hubUuid
    · subst same
      refine ⟨hub, if_pos rfl, ?_⟩
      by_cases claim : change.isClaim = true
      · rcases stored_of_applyTo written.inTurn claim with ⟨stored, known⟩
        have status := (ownership_of_applyTo (known ▸ written.inTurn)).2.1
        rwa [if_pos claim] at status
      · rw [if_neg fun here => claim here.2, Nat.add_zero] at claimed
        rcases sound.status query claimed with ⟨stored, known, status⟩
        have kept := (ownership_of_applyTo (known ▸ written.inTurn)).2.1
        rw [if_neg claim] at kept
        exact kept.trans status
    · simp only [same, false_and, if_false, Nat.add_zero] at claimed ⊢
      exact sound.status query claimed
  · rw [written.homes]
    intro id home known
    rw [written.claimsOf, written.settles]
    exact sound.homes id home known
  · rw [written.homes]
    exact sound.oneHome
  · rw [written.memberships, written.answered]
    exact sound.memberships
  · intro query claimed other known
    rw [written.claimsOf] at claimed
    rw [found] at known
    rw [written.lastOwner]
    by_cases same : query = hubUuid
    · subst same
      rw [if_pos rfl] at known
      cases known
      rcases sound.status query (Nat.lt_of_lt_of_le claimed (Nat.le_add_right _ _)) with
        ⟨stored, before, status⟩
      have claim : change.isClaim = false := by
        by_contra claim
        exact written.unclaimed (eq_true_of_ne_false claim) stored before status
      have owner := (ownership_of_applyTo (before ▸ written.inTurn)).2.2
      rw [if_pos ⟨rfl, claim⟩, owner, sound.owner query claimed stored before]
    · rw [if_neg same] at known
      rw [if_neg fun here => same here.1]
      exact sound.owner query claimed other known

theorem RegistrySound.putHome (sound : RegistrySound config) {membership : MembershipRecord}
    (split : config.pending = before ++ .putHome home membership :: after) :
    RegistrySound ⟨{ config.shared with store := { config.shared.store with
      homes := config.shared.store.homes.set home.id home } },
        before ++ [.putMembership home membership] ++ after⟩ := by
  have claims : ∀ query, (before ++ [RegistryCall.putMembership home membership] ++ after).countP
      (RegistryCall.claims query) = config.pending.countP (RegistryCall.claims query) := by
    intro query
    have count := Program.countP_pending (RegistryCall.claims query) before after
      [RegistryCall.putMembership home membership] (.putHome home membership)
    rw [split]
    simpa [RegistryCall.claims] using count
  have settles : ∀ query, (before ++ [RegistryCall.putMembership home membership] ++ after).countP
      (RegistryCall.settles query) = config.pending.countP (RegistryCall.settles query) +
        if home.hubUuid = query then 1 else 0 := by
    intro query
    have count := Program.countP_pending (RegistryCall.settles query) before after
      [RegistryCall.putMembership home membership] (.putHome home membership)
    rw [split]
    simpa [RegistryCall.settles] using count
  -- the home of this claim is the first of its hub
  have alone : config.shared.claimsOf home.hubUuid +
      config.pending.countP (RegistryCall.settles home.hubUuid) = 0 := by
    have one := sound.once home.hubUuid
    rw [claimsUnderWay, ← claims] at one
    have some_ := settles_le_claims
      (before ++ [RegistryCall.putMembership home membership] ++ after) home.hubUuid
    rw [settles, if_pos rfl] at some_
    omega
  have fresh : ∀ id other, config.shared.store.homes.get id = some other →
      other.hubUuid ≠ home.hubUuid := by
    intro id other known same
    have there := sound.homes id other known
    rw [same, alone] at there
    exact Nat.lt_irrefl 0 there
  refine ⟨sound.keyed, ?_, ?_, ?_, ?_, ?_, sound.memberships, sound.owner⟩
  · intro call member
    rw [mem_append, mem_append] at member
    rcases member with (left | new) | right
    · exact sound.calls call (split ▸ mem_append_left _ left)
    · rw [mem_singleton.mp new]
      trivial
    · exact sound.calls call (split ▸ mem_append_right _ (.tail _ right))
  · intro query
    have one := sound.once query
    rw [claimsUnderWay, ← claims] at one
    exact one
  · intro query claimed
    rw [claimsUnderWay, claims] at claimed
    exact sound.status query claimed
  · intro id other known
    rw [settles]
    rw [get_set] at known
    split at known
    · rw [← some.inj known, if_pos rfl]
      omega
    · exact Nat.lt_of_lt_of_le (sound.homes id other known)
        (Nat.add_le_add_left (Nat.le_add_right _ _) _)
  · intro id one other two known second same
    rw [get_set] at known second
    split at known <;> split at second
    · rename_i first last
      exact first.trans last.symm
    · rw [← some.inj known] at same
      exact absurd same.symm (fresh other two second)
    · rw [← some.inj second] at same
      exact absurd same (fresh id one known)
    · exact sound.oneHome id one other two known second same

theorem RegistrySound.putMembership (sound : RegistrySound config) {membership : MembershipRecord}
    (split : config.pending = before ++ .putMembership home membership :: after)
    (inTurn : ∀ stored ∈ config.shared.store.hubs.get home.hubUuid,
      stored.claimedByAccountId = some home.ownerAccountId) :
    RegistrySound ⟨{ config.shared with
      store := { config.shared.store with
        memberships := config.shared.store.memberships ++ [membership] }
      answers := config.shared.answers ++ [.claimed ⟨home, membership⟩] },
        before ++ [] ++ after⟩ := by
  have claims : ∀ query, (before ++ [] ++ after).countP (RegistryCall.claims query) +
      (if home.hubUuid = query then 1 else 0) =
        config.pending.countP (RegistryCall.claims query) := by
    intro query
    have count := Program.countP_pending (RegistryCall.claims query) before after []
      (.putMembership home membership)
    rw [split]
    simpa [RegistryCall.claims] using count
  have settles : ∀ query, (before ++ [] ++ after).countP (RegistryCall.settles query) +
      (if home.hubUuid = query then 1 else 0) =
        config.pending.countP (RegistryCall.settles query) := by
    intro query
    have count := Program.countP_pending (RegistryCall.settles query) before after []
      (.putMembership home membership)
    rw [split]
    simpa [RegistryCall.settles] using count
  have claimsOf : ∀ query, (config.shared.answers ++ [Answer.claimed ⟨home, membership⟩]).countP
      (Answer.claims query) = config.shared.claimsOf query +
        if home.hubUuid = query then 1 else 0 := by
    intro query
    rw [countP_append, Registry.claimsOf]
    simp [countP_cons, Answer.claims]
  refine ⟨sound.keyed, ?_, ?_, ?_, ?_, sound.oneHome, ?_, ?_⟩
  · intro call member
    rw [append_nil, mem_append] at member
    rcases member with left | right
    · exact sound.calls call (split ▸ mem_append_left _ left)
    · exact sound.calls call (split ▸ mem_append_right _ (.tail _ right))
  · intro query
    have one := sound.once query
    rw [claimsUnderWay, ← claims, Nat.add_comm (List.countP _ _), ← Nat.add_assoc, ← claimsOf]
      at one
    exact one
  · intro query claimed
    apply sound.status query
    rw [claimsUnderWay, ← claims, Nat.add_comm (List.countP _ _), ← Nat.add_assoc, ← claimsOf]
    exact claimed
  · intro id other known
    have there := sound.homes id other known
    rw [← settles, Nat.add_comm (List.countP _ _), ← Nat.add_assoc, ← claimsOf] at there
    exact there
  · rw [filterMap_append, ← sound.memberships]
    rfl
  · intro query claimed hub known
    rw [Registry.lastOwner, lastSet_concat]
    by_cases same : home.hubUuid = query
    · subst same
      rw [Answer.setsOwner, if_pos rfl]
      exact inTurn hub known
    · rw [Answer.setsOwner, if_neg same]
      rw [Registry.claimsOf, claimsOf, if_neg same] at claimed
      exact sound.owner query claimed hub known

theorem countP_same {kind : RegistryCall → Bool} {more : List RegistryCall}
    (split : config.pending = before ++ call :: after)
    (own : kind call = false) (new : more.countP kind = 0) :
    (before ++ more ++ after).countP kind = config.pending.countP kind := by
  have count := Program.countP_pending kind before after more call
  rw [own, new] at count
  rw [split]
  simpa using count

theorem mem_of_split {more : List RegistryCall} {other : RegistryCall}
    (split : config.pending = before ++ call :: after) (member : other ∈ before ++ more ++ after) :
    other ∈ config.pending ∨ other ∈ more := by
  rw [mem_append, mem_append] at member
  rcases member with (left | new) | right
  · exact .inl (split ▸ mem_append_left _ left)
  · exact .inr new
  · exact .inl (split ▸ mem_append_right _ (.tail _ right))

theorem written_answer {rest : AfterPut} {answer : Answer} (sound : RegistrySound config)
    (keyed : hub.hubUuid = hubUuid)
    (split : config.pending = before ++ .putHub hubUuid change hub rest :: after)
    (inTurn : (RegistryCall.putHub hubUuid change hub rest).inTurn config.shared)
    (other : change.isClaim = false) (claims : ∀ query, answer.claims query = false)
    (membership : answer.membership = none)
    (owner : ∀ query, answer.setsOwner query = if query = hubUuid then change.setsOwner else none) :
    Written config ⟨{ config.shared with
      store := { config.shared.store with
        hubs := config.shared.store.hubs.set hub.hubUuid hub }
      answers := config.shared.answers ++ [answer] }, before ++ [] ++ after⟩ hubUuid
        change hub where
  keyed := keyed
  inTurn := inTurn.1
  unclaimed := inTurn.2
  hubs := rfl
  homes := rfl
  memberships := rfl
  claimsOf := fun query => by
    rw [Registry.claimsOf, countP_append, countP_singleton, claims]
    rfl
  answered := by
    rw [filterMap_append, filterMap_cons_none membership]
    exact append_nil _
  lastOwner := fun query => by
    rw [Registry.lastOwner, lastSet_concat, owner, other]
    by_cases same : query = hubUuid
    · simp [same, Registry.lastOwner]
    · simp [same, Registry.lastOwner]
  claims := fun query => by
    rw [countP_same split rfl rfl, other]
    simp
  settles := fun query => countP_same split rfl rfl
  calls := fun call member => by
    rcases mem_of_split split member with old | new
    · exact sound.calls call old
    · cases new

theorem written_claim {accountId homeName : String}
    {createdAt seq : Nat} {membership : MembershipRecord}
    (sound : RegistrySound config) (keyed : hub.hubUuid = hubUuid)
    (split : config.pending = before ++
      .putHub hubUuid (.claimed accountId) hub (.claimed accountId homeName createdAt) :: after)
    (inTurn : (RegistryCall.putHub hubUuid (.claimed accountId) hub
      (.claimed accountId homeName createdAt)).inTurn config.shared)
    (ofHub : home.hubUuid = hubUuid) :
    Written config ⟨{ config.shared with
      store := { config.shared.store with
        hubs := config.shared.store.hubs.set hub.hubUuid hub }
      seq := seq }, before ++ [.putHome home membership] ++ after⟩ hubUuid (.claimed accountId)
        hub where
  keyed := keyed
  inTurn := inTurn.1
  unclaimed := inTurn.2
  hubs := rfl
  homes := rfl
  memberships := rfl
  claimsOf := fun query => rfl
  answered := rfl
  lastOwner := fun query => by simp [HubChange.isClaim, Registry.lastOwner]
  claims := fun query => by
    have count := Program.countP_pending (RegistryCall.claims query) before after
      [.putHome home membership]
      (.putHub hubUuid (.claimed accountId) hub (.claimed accountId homeName createdAt))
    have own : RegistryCall.claims query (.putHub hubUuid (.claimed accountId) hub
      (.claimed accountId homeName createdAt)) = false := rfl
    rw [own, if_neg Bool.false_ne_true, ← split, countP_singleton] at count
    refine count.trans (congrArg _ (if_congr ?_ rfl rfl))
    rw [RegistryCall.claims, beq_iff_eq, ofHub]
    exact ⟨fun same => ⟨same.symm, rfl⟩, fun same => same.1.symm⟩
  settles := fun query => countP_same split rfl rfl
  calls := fun call member => by
    rcases mem_of_split split member with old | new
    · exact sound.calls call old
    · rw [mem_singleton.mp new]
      trivial

theorem Written.keyKept (written : Written config next hubUuid change hub)
    (label : Schedule RegistryRequest Surroundings) : KeyKept config label next := by
  intro query stored known
  rw [written.hubs, get_set, written.keyed]
  split
  · rename_i same
    subst same
    exact ⟨hub, rfl, (ownership_of_applyTo (known ▸ written.inTurn)).1⟩
  · exact ⟨stored, known, rfl⟩

theorem keyKept_of_same (same : next.shared.store.hubs = config.shared.store.hubs)
    (label : Schedule RegistryRequest Surroundings) : KeyKept config label next := by
  intro hubUuid hub known
  exact ⟨hub, same ▸ known, rfl⟩

theorem registrySound_resume {more : List RegistryCall}
    {surroundings : Surroundings} {shared : Registry} (sound : RegistrySound config)
    (split : config.pending = before ++ call :: after) (inTurn : call.inTurn config.shared)
    (went : config.shared.resume options call surroundings = (shared, more))
    (label : Schedule RegistryRequest Surroundings) :
    RegistrySound ⟨shared, before ++ more ++ after⟩ ∧
      KeyKept config label ⟨shared, before ++ more ++ after⟩ := by
  have own := sound.calls call (split ▸ mem_append_right _ (.head _))
  have byWriting : ∀ {hubUuid change hub},
      Written config ⟨shared, before ++ more ++ after⟩ hubUuid change hub →
        RegistrySound ⟨shared, before ++ more ++ after⟩ ∧
          KeyKept config label ⟨shared, before ++ more ++ after⟩ :=
    fun written => ⟨sound.written written, written.keyKept label⟩
  cases kind : call.writes with
  | false =>
    have quiet := @quiet_resume config.shared options call surroundings sound.keyed own kind
    rw [went] at quiet
    have plain : ∀ query, call.claims query = false ∧ call.settles query = false := by
      intro query
      cases call <;> first | exact ⟨rfl, rfl⟩ | cases kind
    have none_ : ∀ query, more.countP (RegistryCall.claims query) = 0 := by
      intro query
      exact countP_eq_zero.mpr fun other member => by
        simp [(quiet.calls other member).2 query]
    refine ⟨sound.quiet quiet rfl (fun other member => mem_of_split split member) ?_ ?_,
      keyKept_of_same quiet.hubs label⟩
    · exact fun query => countP_same split (plain query).1 (none_ query)
    · intro query
      refine countP_same split (plain query).2 (Nat.eq_zero_of_le_zero ?_)
      exact none_ query ▸ settles_le_claims more query
  | true =>
    cases call with
    | putHub hubUuid change hub rest =>
      rcases own with ⟨keyed, fits⟩
      cases rest with
      | enrolled result =>
        rcases fits with ⟨req, serial, at_, rfl⟩
        cases went
        exact byWriting (written_answer sound keyed split inTurn rfl (fun _ => rfl) rfl
          fun query => by simp [Answer.setsOwner, HubChange.setsOwner])
      | claimed accountId homeName createdAt =>
        obtain rfl := fits
        cases went
        exact byWriting (written_claim sound keyed split inTurn rfl)
      | transferred toAccountId =>
        obtain rfl := fits
        cases went
        exact byWriting (written_answer sound keyed split inTurn rfl (fun _ => rfl) rfl
          fun query => if_congr eq_comm rfl rfl)
      | heard =>
        rcases fits with ⟨at_, rfl⟩
        cases went
        exact byWriting (written_answer sound keyed split inTurn rfl (fun _ => rfl) rfl
          fun query => by simp [Answer.setsOwner, HubChange.setsOwner])
    | putHome home membership =>
      cases went
      exact ⟨sound.putHome split, keyKept_of_same rfl label⟩
    | putMembership home membership =>
      cases went
      exact ⟨sound.putMembership split inTurn, keyKept_of_same rfl label⟩
    | _ => cases kind

theorem registrySound_step {label : Schedule RegistryRequest Surroundings}
    (sound : RegistrySound config) (inTurn : ownershipGuard config label)
    (taken : (registryProgram options).machine.step config label = some next) :
    RegistrySound next ∧ KeyKept config label next := by
  cases label with
  | call request =>
    obtain rfl := Program.step_call_eq_some.mp taken
    have quiet := @quiet_start config.shared options request
    have none_ : ∀ query, ((registryProgram options).start config.shared request).2.countP
        (RegistryCall.claims query) = 0 := by
      intro query
      exact countP_eq_zero.mpr fun other member => by
        simp [(quiet.calls other member).2 query]
    refine ⟨sound.quiet quiet rfl (fun other member => mem_append.mp member) ?_ ?_,
      keyKept_of_same quiet.hubs _⟩
    · intro query
      rw [countP_append]
      exact Nat.add_eq_left.mpr (none_ query)
    · intro query
      rw [countP_append]
      refine Nat.add_eq_left.mpr (Nat.eq_zero_of_le_zero ?_)
      exact none_ query ▸ settles_le_claims _ query
  | resume index surroundings =>
    rcases Program.step_resume_eq_some.mp taken with
      ⟨before, call, after, shared, more, split, rfl, resumed, rfl⟩
    exact registrySound_resume sound split
      (inTurn call (Program.getElem?_pending split)) (some.inj resumed) _

end Steps

theorem registrySound_initial : RegistrySound (Program.idle Registry.initial) where
  keyed := fun key hub known => by cases known
  calls := fun call member => absurd member not_mem_nil
  once := fun hubUuid => Nat.zero_le 1
  status := fun hubUuid claimed => absurd claimed (Nat.lt_irrefl 0)
  homes := fun id home known => by cases known
  oneHome := fun id home other second known => by cases known
  memberships := rfl
  owner := fun hubUuid claimed => absurd claimed (Nat.lt_irrefl 0)

/-- A registry that accepts what is signed "signed", with a certificate authority of its own. -/
def plainOptions : RegistryOptions where
  brokerEndpoint := "https://broker"
  caPublicKey := "ca-public"
  issue := fun req nowMs => ⟨req.hubUuid, req.publicKey, "serial-" ++ req.nonce, nowMs,
    nowMs + 86400000, "ca-1", "ca-signature"⟩
  verifyEnrollmentSelfSignature := fun req => req.selfSignature == "signed"
  verifyAttestation := none
  issueDeviceCert := none
  newId := fun kind seq _ => kind ++ "-" ++ toString seq

def someHub : String := "01890a5d-ac96-774b-bcce-b302099a8057"

def enrolledHub : List (Schedule RegistryRequest Surroundings) :=
  [.call (.enroll ⟨someHub, "key", ⟨"Pro", "1.0"⟩, ⟨.factory, "stamp"⟩, "n1", 1000, "signed"⟩ 1000),
    .resume 0 ⟨1001, []⟩, .resume 0 ⟨1002, []⟩, .resume 0 ⟨1003, []⟩,
    .call (.issueClaimCode someHub), .resume 0 ⟨2000, [0, 1, 2, 3, 4, 5, 6, 7]⟩,
    .resume 0 ⟨2001, []⟩]

/-- A heartbeat comes and goes while the hub is being claimed, and then it is transferred. -/
def claimedHub : List (Schedule RegistryRequest Surroundings) :=
  enrolledHub ++ [.call (.claim someHub "ann" "ABCDEFGH" "My Home"), .resume 0 ⟨3000, []⟩,
    .call (.heartbeat someHub), .resume 1 ⟨3001, []⟩, .resume 1 ⟨3002, []⟩, .resume 0 ⟨3003, []⟩,
    .resume 0 ⟨3004, []⟩, .resume 0 ⟨3005, []⟩, .resume 0 ⟨3006, []⟩,
    .call (.transfer someHub "bob"), .resume 0 ⟨4000, []⟩, .resume 0 ⟨4001, []⟩]

/-- A heartbeat reads the hub before it is claimed and writes it back afterwards. -/
def heardLate : List (Schedule RegistryRequest Surroundings) :=
  enrolledHub ++ [.call (.heartbeat someHub), .resume 0 ⟨3000, []⟩,
    .call (.claim someHub "ann" "ABCDEFGH" "My Home"), .resume 1 ⟨3001, []⟩, .resume 1 ⟨3002, []⟩,
    .resume 1 ⟨3003, []⟩, .resume 1 ⟨3004, []⟩, .resume 1 ⟨3005, []⟩, .resume 0 ⟨3006, []⟩]

end SupremeOs.HubRegistry
