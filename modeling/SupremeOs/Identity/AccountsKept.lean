import SupremeOs.DomainModel.Ids
import SupremeOs.Identity.Accounts
import SupremeOs.Support.Updates

/-!
# Accounts stay unique and a suspension sticks

There should be one master at most, who is active, and no two users with the
same address or username.  No user should be stored again after his deletion,
and when nothing is in flight status and type should be what they were last set
to.

What an operation has read or looked for may have changed when it writes.  All
this holds as long as it writes what it would make of the user that is stored
by then, and finds the home, the address or the username as free as before.
-/

namespace SupremeOs.Identity

open Support DomainModel List OrderedMap Option

namespace AccountRecord

/-- The status that the user with this identifier is given. -/
def setsStatus (id : String) : AccountRecord → Option (Option UserStatus)
  | .created user => if user.id = id then some (some user.status) else none
  | .updated other (.statusSet status) => if other = id then some (some status) else none
  | .updated other .expire => if other = id then some (some .expired) else none
  | .updated _ (.emailSet _) | .updated _ .emailVerified | .updated _ (.typeSet _)
  | .deleted _ => none

def setsType (id : String) : AccountRecord → Option (Option UserType)
  | .created user => if user.id = id then some (some user.userType) else none
  | .updated other (.typeSet userType) => if other = id then some (some userType) else none
  | .updated _ (.emailSet _) | .updated _ .emailVerified | .updated _ (.statusSet _)
  | .updated _ .expire | .deleted _ => none

end AccountRecord

variable (setup : AccountSetup)

/-- Whether two users have the same address or the same username. -/
def User.Clashes (user other : User) : Prop :=
  setup.toLowerCase user.email = setup.toLowerCase other.email ∨ user.username ≠ none ∧
      user.username.map setup.toLowerCase = other.username.map setup.toLowerCase

instance (setup : AccountSetup) (user other : User) : Decidable (user.Clashes setup other) :=
  inferInstanceAs (Decidable (_ ∨ _))

structure AccountsKept (setup : AccountSetup) (config : Config Accounts AccountCall) : Prop where
  oneMaster : ∀ id user other second, config.shared.store.getUser id = some user →
    config.shared.store.getUser other = some second →
    user.userType = .master → second.userType = .master → id = other
  masterActive : ∀ id user, config.shared.store.getUser id = some user →
    user.userType = .master → user.status = .active
  unique : ∀ id user other second, config.shared.store.getUser id = some user →
    config.shared.store.getUser other = some second → user.Clashes setup second → id = other
  gone : ∀ id, .deleted id ∈ config.shared.history → config.shared.store.getUser id = none
  status : config.pending = [] → ∀ id user, config.shared.store.getUser id = some user →
    lastSet (AccountRecord.setsStatus id) none config.shared.history = some user.status
  userType : config.pending = [] → ∀ id user, config.shared.store.getUser id = some user →
    lastSet (AccountRecord.setsType id) none config.shared.history = some user.userType

/-- The checks that an operation makes on the user it has read. -/
def UserUpdate.refused (user : User) : UserUpdate → Bool
  | .emailSet _ | .emailVerified => false
  | .statusSet status => user.userType = .master && status ≠ .active
  | .typeSet userType => user.userType = .master || userType = .master
  | .expire => user.userType = .master

/-- What an operation makes of a user. -/
def UserUpdate.applyTo (update : UserUpdate) (user : User) : Option User :=
  if update.refused user then none else some (update.apply setup user)

/-- Nobody else has the address or the username of the user. -/
def Unclaimed (store : InMemoryIdentityStore) (user : User) : Prop :=
  ∀ entry ∈ store.users.entries, entry.1 ≠ user.id → ¬user.Clashes setup entry.2

instance (setup : AccountSetup) (store : InMemoryIdentityStore) (user : User) :
    Decidable (Unclaimed setup store user) :=
  inferInstanceAs (Decidable (∀ entry ∈ store.users.entries, _))

/-- Whether a call is about to write the home. -/
def AccountCall.commissions : AccountCall → Bool
  | .commissionGetHome none input => setup.checkPassword input.password
  | _ => false

/--
The home is written if there is still none; a user is written if nobody else
has his address or username, and a change if it is what the operation would
make of the user that is stored now.
-/
def accountCurrent (accounts : Accounts) (call : AccountCall) : Prop :=
  (call.commissions setup = true → accounts.store.home = none) ∧
    (∀ user ∈ call.creates (setup.newId accounts.issued), Unclaimed setup accounts.store user) ∧
    ∀ written ∈ call.update setup,
      Unclaimed setup accounts.store (written.2.apply setup written.1) ∧
        (accounts.store.getUser written.1.id).bind (written.2.applyTo setup) =
          some (written.2.apply setup written.1)

instance (setup : AccountSetup) (accounts : Accounts) (call : AccountCall) :
    Decidable (accountCurrent setup accounts call) := inferInstanceAs (Decidable (_ ∧ _))

/-- The condition on the call that goes on. -/
def accountGuard (config : Config Accounts AccountCall) :
    Schedule AccountRequest AccountReply → Prop
  | .call _ => True
  | .resume index _ => ∀ call ∈ config.pending[index]?, accountCurrent setup config.shared call

instance (setup : AccountSetup) (config : Config Accounts AccountCall) :
    ∀ label, Decidable (accountGuard setup config label) := by
  intro label
  unfold accountGuard
  split <;> infer_instance

/-- The identifier has been handed out. -/
def Accounts.Issued (accounts : Accounts) (id : String) : Prop :=
  ∃ number < accounts.issued, setup.newId number = id

def Accounts.IsMaster (accounts : Accounts) (id : String) : Prop :=
  ∃ home, accounts.store.home = some home ∧ home.masterUserId = id

structure AccountsSound (setup : AccountSetup) (accounts : Accounts) : Prop where
  keyed : ∀ id user, accounts.store.getUser id = some user → user.id = id
  issued : ∀ id user, accounts.store.getUser id = some user → accounts.Issued setup id
  deletedIssued : ∀ id, .deleted id ∈ accounts.history → accounts.Issued setup id
  masterIssued : ∀ id, accounts.IsMaster id → accounts.Issued setup id
  master : ∀ id user, accounts.store.getUser id = some user →
    (user.userType = .master ↔ accounts.IsMaster id)
  masterActive : ∀ id user, accounts.store.getUser id = some user →
    user.userType = .master → user.status = .active
  masterStays : ∀ id, accounts.IsMaster id → .deleted id ∉ accounts.history
  unique : ∀ id user other second, accounts.store.getUser id = some user →
    accounts.store.getUser other = some second → user.Clashes setup second → id = other
  gone : ∀ id, .deleted id ∈ accounts.history → accounts.store.getUser id = none
  status : ∀ id user, accounts.store.getUser id = some user →
    lastSet (AccountRecord.setsStatus id) none accounts.history = some user.status
  userType : ∀ id user, accounts.store.getUser id = some user →
    lastSet (AccountRecord.setsType id) none accounts.history = some user.userType

/-- What a pending call relies on: the master it is about to write is the one of the home, and
the user it is about to delete is not. -/
def AccountCall.Sound (accounts : Accounts) : AccountCall → Prop
  | .commissionPutHome master =>
    accounts.IsMaster master.id ∧ master.userType = .master ∧ master.status = .active
  | .deleteGetUser (some user) =>
    accounts.Issued setup user.id ∧ (accounts.IsMaster user.id → user.userType = .master)
  | _ => True

section Steps

variable {setup : AccountSetup} {accounts next : Accounts} {user : User}

theorem User.Clashes.symm {other : User} (clash : user.Clashes setup other) :
    other.Clashes setup user := by
  rcases clash with same | ⟨named, same⟩
  · exact .inl same.symm
  · refine .inr ⟨?_, same.symm⟩
    intro unnamed
    rw [unnamed, map_none, map_eq_none_iff] at same
    exact named same

theorem unclaimed_iff {store : InMemoryIdentityStore} :
    Unclaimed setup store user ↔ ∀ id other, store.getUser id = some other → id ≠ user.id →
      ¬user.Clashes setup other := by
  simp only [Unclaimed, InMemoryIdentityStore.getUser, get_eq_some_iff, Prod.forall]

@[simp]
theorem getUser_putUser (store : InMemoryIdentityStore) (user : User) (id : String) :
    (store.putUser user).getUser id = if id = user.id then some user else store.getUser id := by
  simp [InMemoryIdentityStore.putUser, InMemoryIdentityStore.getUser]

@[simp]
theorem getUser_deleteUser (store : InMemoryIdentityStore) (id other : String) :
    (store.deleteUser id).getUser other = if other = id then none else store.getUser other := by
  simp [InMemoryIdentityStore.deleteUser, InMemoryIdentityStore.getUser]

namespace UserUpdate

variable {update : UserUpdate} {user : User}

@[simp]
theorem apply_id : (update.apply setup user).id = user.id := by
  cases update <;> rfl

theorem apply_master (allowed : update.refused user = false) :
    (update.apply setup user).userType = .master ↔ user.userType = .master := by
  cases update with
  | typeSet userType =>
    simp only [refused, Bool.or_eq_false_iff, decide_eq_false_iff_not] at allowed
    exact iff_of_false allowed.2 allowed.1
  | emailSet email | emailVerified | statusSet status | expire => rfl

theorem apply_active (allowed : update.refused user = false) (master : user.userType = .master)
    (active : user.status = .active) : (update.apply setup user).status = .active := by
  cases update with
  | statusSet status => simpa [refused, master, apply] using allowed
  | expire => simp [refused, master] at allowed
  | emailSet email | emailVerified | typeSet userType => exact active

theorem setsStatus_apply (setup : AccountSetup) (update : UserUpdate) (user : User) (id : String) :
    (AccountRecord.setsStatus id (.updated id update)).getD (some user.status) =
      some (update.apply setup user).status := by
  cases update <;> simp [AccountRecord.setsStatus, apply]

theorem setsType_apply (setup : AccountSetup) (update : UserUpdate) (user : User) (id : String) :
    (AccountRecord.setsType id (.updated id update)).getD (some user.userType) =
      some (update.apply setup user).userType := by
  cases update <;> simp [AccountRecord.setsType, apply]

theorem setsStatus_other {id other : String} (differs : other ≠ id) :
    AccountRecord.setsStatus id (.updated other update) = none := by
  cases update <;> simp [AccountRecord.setsStatus, differs]

theorem setsType_other {id other : String} (differs : other ≠ id) :
    AccountRecord.setsType id (.updated other update) = none := by
  cases update <;> simp [AccountRecord.setsType, differs]

theorem stored_of_applyTo {stored : Option User}
    (applied : stored.bind (update.applyTo setup) = some (update.apply setup user)) :
    ∃ old, stored = some old ∧ update.refused old = false ∧
      update.apply setup user = update.apply setup old := by
  rcases bind_eq_some_iff.mp applied with ⟨old, found, applied⟩
  simp only [applyTo] at applied
  split at applied
  · simp at applied
  · rename_i allowed
    exact ⟨old, found, eq_false_of_ne_true allowed, (some.inj applied).symm⟩

end UserUpdate

theorem accountsSound_initial (setup : AccountSetup) (now : Nat)
    (verifyTokens : OrderedMap String VerifyToken) :
    AccountsSound setup ⟨now, .initial, 0, verifyTokens, []⟩ := by
  have nobody : ∀ id user, InMemoryIdentityStore.initial.getUser id ≠ some user := by
    intro id user found
    simp [InMemoryIdentityStore.initial, InMemoryIdentityStore.getUser] at found
  have noMaster : ∀ id, ¬Accounts.IsMaster ⟨now, .initial, 0, verifyTokens, []⟩ id := by
    rintro id ⟨home, found, _⟩
    simp [InMemoryIdentityStore.initial] at found
  exact
    { keyed := fun id user found => absurd found (nobody id user)
      issued := fun id user found => absurd found (nobody id user)
      deletedIssued := fun id member => absurd member not_mem_nil
      masterIssued := fun id master => absurd master (noMaster id)
      master := fun id user found => absurd found (nobody id user)
      masterActive := fun id user found => absurd found (nobody id user)
      masterStays := fun id master => absurd master (noMaster id)
      unique := fun id user _ _ found => absurd found (nobody id user)
      gone := fun id member => absurd member not_mem_nil
      status := fun id user found => absurd found (nobody id user)
      userType := fun id user found => absurd found (nobody id user) }

section

variable (sound : AccountsSound setup accounts)

include sound

theorem AccountsSound.of_same
    (home : next.store.home = accounts.store.home) (users : next.store.users = accounts.store.users)
    (history : next.history = accounts.history) (issued : next.issued = accounts.issued) :
    AccountsSound setup next := by
  rcases accounts with ⟨now, ⟨oldHome, oldUsers, credentials⟩, count, tokens, records⟩
  rcases next with ⟨now', ⟨_, _, credentials'⟩, _, tokens', _⟩
  simp only at home users history issued
  subst home users history issued
  exact ⟨sound.keyed, sound.issued, sound.deletedIssued, sound.masterIssued, sound.master,
    sound.masterActive, sound.masterStays, sound.unique, sound.gone, sound.status, sound.userType⟩

theorem AccountsSound.put {record : AccountRecord} {count : Nat} (grows : accounts.issued ≤ count)
    (issued : ∃ number < count, setup.newId number = user.id)
    (master : user.userType = .master ↔ accounts.IsMaster user.id)
    (active : user.userType = .master → user.status = .active)
    (kept : .deleted user.id ∉ accounts.history) (unclaimed : Unclaimed setup accounts.store user)
    (noDeletion : ∀ id, record ≠ .deleted id)
    (status : lastSet (AccountRecord.setsStatus user.id) none (accounts.history ++ [record]) =
      some user.status)
    (userType : lastSet (AccountRecord.setsType user.id) none (accounts.history ++ [record]) =
      some user.userType)
    (others : ∀ id, id ≠ user.id → record.setsStatus id = none ∧ record.setsType id = none) :
    AccountsSound setup
      { accounts with
        store := accounts.store.putUser user
        issued := count
        history := accounts.history ++ [record] } := by
  have unclaimed := unclaimed_iff.mp unclaimed
  have deleted : ∀ id, .deleted id ∈ accounts.history ++ [record] →
      .deleted id ∈ accounts.history := by
    intro id member
    rcases mem_append.mp member with earlier | last
    · exact earlier
    · exact absurd (mem_singleton.mp last).symm (noDeletion id)
  have more : ∀ id, accounts.Issued setup id → ∃ number < count, setup.newId number = id := by
    rintro id ⟨number, below, same⟩
    exact ⟨number, Nat.lt_of_lt_of_le below grows, same⟩
  refine
    { keyed := ?_, issued := ?_, deletedIssued := fun id member => more id
        (sound.deletedIssued id (deleted id member)),
      masterIssued := fun id master => more id (sound.masterIssued id master),
      master := ?_, masterActive := ?_,
      masterStays := fun id master member => sound.masterStays id master (deleted id member),
      unique := ?_, gone := ?_, status := ?_, userType := ?_ }
  · exact forall_get_set rfl fun id found _ at_id => sound.keyed id found at_id
  · exact forall_get_set issued
      fun id found _ at_id => more id (sound.issued id found at_id)
  · exact forall_get_set master fun id found _ at_id => sound.master id found at_id
  · exact forall_get_set active
      fun id found _ at_id => sound.masterActive id found at_id
  · exact unique_set (fun _ _ => User.Clashes.symm)
      (fun id other at_id differs => unclaimed id other at_id differs) sound.unique
  · intro id member
    have earlier := deleted id member
    rw [getUser_putUser, if_neg]
    · exact sound.gone id earlier
    · rintro rfl
      exact kept earlier
  · refine forall_get_set status fun id found differs at_id => ?_
    rw [lastSet_concat, (others id differs).1, getD_none]
    exact sound.status id found at_id
  · refine forall_get_set userType fun id found differs at_id => ?_
    rw [lastSet_concat, (others id differs).2, getD_none]
    exact sound.userType id found at_id

theorem AccountsSound.putUpdate {update : UserUpdate}
    (unclaimed : Unclaimed setup accounts.store (update.apply setup user))
    (applied : (accounts.store.getUser user.id).bind (update.applyTo setup) =
      some (update.apply setup user)) :
    AccountsSound setup (accounts.putUpdate setup user update) := by
  rcases UserUpdate.stored_of_applyTo applied with ⟨old, found, allowed, same⟩
  have id_eq : (update.apply setup user).id = user.id := UserUpdate.apply_id
  have present : .deleted user.id ∉ accounts.history := by
    intro member
    rw [sound.gone user.id member] at found
    cases found
  have master : (update.apply setup user).userType = .master ↔ old.userType = .master := by
    rw [same]
    exact UserUpdate.apply_master allowed
  apply sound.put (Nat.le_refl _)
  · rw [id_eq]
    exact sound.issued user.id old found
  · rw [id_eq, master]
    exact sound.master user.id old found
  · intro isMaster
    have wasMaster := master.mp isMaster
    rw [same]
    exact UserUpdate.apply_active allowed wasMaster (sound.masterActive user.id old found wasMaster)
  · rw [id_eq]
    exact present
  · exact unclaimed
  · simp
  · rw [id_eq, lastSet_concat, sound.status user.id old found, same]
    exact UserUpdate.setsStatus_apply setup update old user.id
  · rw [id_eq, lastSet_concat, sound.userType user.id old found, same]
    exact UserUpdate.setsType_apply setup update old user.id
  · intro id differs
    rw [id_eq] at differs
    exact ⟨UserUpdate.setsStatus_other differs.symm, UserUpdate.setsType_other differs.symm⟩

theorem AccountsSound.putNew {count : Nat} (grows : accounts.issued ≤ count)
    (issued : ∃ number < count, setup.newId number = user.id)
    (master : user.userType = .master ↔ accounts.IsMaster user.id)
    (active : user.userType = .master → user.status = .active)
    (kept : .deleted user.id ∉ accounts.history) (unclaimed : Unclaimed setup accounts.store user) :
    AccountsSound setup (accounts.putNew user count) := by
  apply sound.put grows issued master active kept unclaimed
  · simp
  · simp [AccountRecord.setsStatus]
  · simp [AccountRecord.setsType]
  · intro id differs
    simp [AccountRecord.setsStatus, AccountRecord.setsType, differs.symm]

end

theorem not_issued_next (distinct : Function.Injective setup.newId) {number : Nat}
    (next : accounts.issued ≤ number) : ¬accounts.Issued setup (setup.newId number) := by
  rintro ⟨earlier, below, same⟩
  have equal := distinct same
  omega

theorem AccountsSound.putHome (sound : AccountsSound setup accounts)
    (distinct : Function.Injective setup.newId) (first : accounts.store.home = none)
    (input : CommissionInput) : AccountsSound setup (accounts.putHome setup input).1 := by
  have noMaster : ∀ id, ¬accounts.IsMaster id := by
    rintro id ⟨home, found, _⟩
    rw [first] at found
    cases found
  have master : ∀ id, (accounts.putHome setup input).1.IsMaster id ↔
      setup.newId (accounts.issued + 1) = id := by
    intro id
    simp [Accounts.IsMaster, Accounts.putHome, InMemoryIdentityStore.putHome]
  have more : ∀ id, accounts.Issued setup id →
      (accounts.putHome setup input).1.Issued setup id := by
    rintro id ⟨number, below, same⟩
    exact ⟨number, Nat.lt_of_lt_of_le below (Nat.le_add_right _ 2), same⟩
  have fresh := not_issued_next distinct (Nat.le_add_right accounts.issued 1)
  refine
    { keyed := sound.keyed, issued := fun id user found => more id (sound.issued id user found)
      deletedIssued := fun id member => more id (sound.deletedIssued id member)
      masterIssued := ?_, master := ?_
      masterActive := sound.masterActive
      masterStays := ?_
      unique := sound.unique
      gone := sound.gone
      status := sound.status
      userType := sound.userType }
  · intro id isMaster
    exact ⟨accounts.issued + 1, Nat.lt_succ_self _, (master id).mp isMaster⟩
  · intro id user found
    apply iff_of_false
    · intro isMaster
      exact noMaster id ((sound.master id user found).mp isMaster)
    · intro isMaster
      rw [master] at isMaster
      exact fresh (isMaster ▸ sound.issued id user found)
  · intro id isMaster member
    rw [master] at isMaster
    exact fresh (isMaster ▸ sound.deletedIssued id member)

theorem AccountsSound.deleteUser (sound : AccountsSound setup accounts) {id : String}
    (issued : accounts.Issued setup id) (other : ¬accounts.IsMaster id) :
    AccountsSound setup
      { accounts with
        store := accounts.store.deleteUser id
        history := accounts.history ++ [.deleted id] } := by
  have remains : ∀ query user, (accounts.store.deleteUser id).getUser query = some user →
      query ≠ id ∧ accounts.store.getUser query = some user := by
    intro query user found
    rw [getUser_deleteUser] at found
    split at found
    · cases found
    · rename_i differs
      exact ⟨differs, found⟩
  have deleted : ∀ query, .deleted query ∈ accounts.history ++ [.deleted id] →
      .deleted query ∈ accounts.history ∨ query = id := by
    intro query member
    rcases mem_append.mp member with earlier | last
    · exact .inl earlier
    · exact .inr (AccountRecord.deleted.inj (mem_singleton.mp last))
  refine
    { keyed := fun query user found => sound.keyed query user (remains query user found).2
      issued := fun query user found => sound.issued query user (remains query user found).2
      deletedIssued := ?_
      masterIssued := sound.masterIssued
      master := fun query user found => sound.master query user (remains query user found).2
      masterActive := fun query user found =>
        sound.masterActive query user (remains query user found).2
      masterStays := ?_
      unique := fun query user second found at_query at_second =>
        sound.unique query user second found (remains query user at_query).2
          (remains second found at_second).2
      gone := ?_, status := ?_, userType := ?_ }
  · intro query member
    rcases deleted query member with earlier | rfl
    · exact sound.deletedIssued query earlier
    · exact issued
  · intro query isMaster member
    rcases deleted query member with earlier | rfl
    · exact sound.masterStays query isMaster earlier
    · exact other isMaster
  · intro query member
    rw [getUser_deleteUser]
    split
    · rfl
    · rename_i differs
      rcases deleted query member with earlier | same
      · exact sound.gone query earlier
      · exact absurd same differs
  · intro query user found
    rw [lastSet_concat]
    exact sound.status query user (remains query user found).2
  · intro query user found
    rw [lastSet_concat]
    exact sound.userType query user (remains query user found).2

theorem AccountCall.Sound.mono {call : AccountCall} (sound : call.Sound setup accounts)
    (home : next.store.home = accounts.store.home) (grows : accounts.issued ≤ next.issued) :
    call.Sound setup next := by
  have master : ∀ id, next.IsMaster id ↔ accounts.IsMaster id := by
    intro id
    rw [Accounts.IsMaster, Accounts.IsMaster, home]
  cases call with
  | commissionPutHome user => exact ⟨(master user.id).mpr sound.1, sound.2⟩
  | deleteGetUser user =>
    cases user with
    | none => trivial
    | some user =>
      rcases sound with ⟨⟨number, below, same⟩, typed⟩
      exact ⟨⟨number, Nat.lt_of_lt_of_le below grows, same⟩,
        fun isMaster => typed ((master user.id).mp isMaster)⟩
  | commissionGetHome _ _ | createGetHome _ _ | createFindByEmail _ _ _
  | createFindByUsername _ _ _ | hashing _ | changeGetUser _ _ _ | changeGetCredential _ _ _ _
  | changeVerify _ _ _ | changeFindByEmail _ _ _ | requestGetUser _ _ | verifyGetUser _ _
  | statusGetUser _ _ | roleGetUser _ _ | sweeping _ _ => trivial

def KeepsSound (setup : AccountSetup) (accounts next : Accounts) : Prop :=
  AccountsSound setup next ∧ ∀ call, AccountCall.Sound setup accounts call → call.Sound setup next

theorem AccountsSound.keeps (sound : AccountsSound setup next)
    (home : next.store.home = accounts.store.home) (grows : accounts.issued ≤ next.issued) :
    KeepsSound setup accounts next :=
  ⟨sound, fun _ call => call.mono home grows⟩

section

variable (sound : AccountsSound setup accounts)

include sound

theorem AccountsSound.keepsSelf :
    KeepsSound setup accounts accounts := sound.keeps rfl (Nat.le_refl _)

theorem AccountsSound.keeps_of_same
    (home : next.store.home = accounts.store.home) (users : next.store.users = accounts.store.users)
    (history : next.history = accounts.history) (issued : next.issued = accounts.issued) :
    KeepsSound setup accounts next :=
  (sound.of_same home users history issued).keeps home (Nat.le_of_eq issued.symm)

theorem AccountsSound.keeps_putHome
    (distinct : Function.Injective setup.newId) (first : accounts.store.home = none)
    (input : CommissionInput) :
    KeepsSound setup accounts (accounts.putHome setup input).1 := by
  refine ⟨sound.putHome distinct first input, ?_⟩
  intro call own
  cases call with
  | commissionPutHome user =>
    rcases own.1 with ⟨home, found, _⟩
    rw [first] at found
    cases found
  | deleteGetUser user =>
    cases user with
    | none => trivial
    | some user =>
      rcases own.1 with ⟨number, below, same⟩
      refine ⟨⟨number, Nat.lt_of_lt_of_le below (Nat.le_add_right _ 2), same⟩, ?_⟩
      rintro ⟨home, found, isMaster⟩
      cases found
      have fresh := not_issued_next distinct (Nat.le_add_right accounts.issued 1)
      exact absurd ⟨number, below, same.trans isMaster.symm⟩ fresh
  | commissionGetHome _ _ | createGetHome _ _ | createFindByEmail _ _ _
  | createFindByUsername _ _ _ | hashing _ | changeGetUser _ _ _ | changeGetCredential _ _ _ _
  | changeVerify _ _ _ | changeFindByEmail _ _ _ | requestGetUser _ _ | verifyGetUser _ _
  | statusGetUser _ _ | roleGetUser _ _ | sweeping _ _ => trivial

theorem AccountsSound.keeps_putNew (distinct : Function.Injective setup.newId)
    (id_eq : user.id = setup.newId accounts.issued) (notMaster : user.userType ≠ .master)
    (unclaimed : Unclaimed setup accounts.store user) :
    KeepsSound setup accounts (accounts.putNew user (accounts.issued + 1)) := by
  have fresh : ¬accounts.Issued setup user.id := id_eq ▸ not_issued_next distinct (Nat.le_refl _)
  have new := sound.putNew (Nat.le_add_right accounts.issued 1)
    ⟨accounts.issued, Nat.lt_succ_self _, id_eq.symm⟩
    (iff_of_false notMaster fun master => fresh (sound.masterIssued user.id master))
    (fun master => absurd master notMaster)
    (fun member => fresh (sound.deletedIssued user.id member)) unclaimed
  exact new.keeps rfl (Nat.le_add_right _ 1)

theorem AccountsSound.keeps_update {call : AccountCall}
    {update : UserUpdate} (written : call.update setup = some (user, update))
    (current : accountCurrent setup accounts call) :
    KeepsSound setup accounts (accounts.putUpdate setup user update) := by
  rcases current.2.2 (user, update) written with ⟨unclaimed, applied⟩
  exact (sound.putUpdate unclaimed applied).keeps rfl (Nat.le_refl _)

theorem AccountsSound.deleteGetUser_sound (id : String) :
    AccountCall.Sound setup accounts (.deleteGetUser (accounts.store.getUser id)) := by
  cases found : accounts.store.getUser id with
  | none => trivial
  | some user =>
    rw [← sound.keyed id user found] at found
    exact ⟨sound.issued _ _ found, (sound.master _ _ found).mpr⟩

theorem AccountsSound.start (request : AccountRequest) :
    KeepsSound setup accounts (accounts.start request).1 ∧
      ∀ call ∈ (accounts.start request).2, call.Sound setup (accounts.start request).1 := by
  cases request with
  | verifyEmail key =>
    have forgotten : KeepsSound setup accounts
        { accounts with verifyTokens := accounts.verifyTokens.delete key } :=
      sound.keeps_of_same rfl rfl rfl rfl
    simp only [Accounts.start]
    split
    · exact ⟨forgotten, by simp⟩
    · split
      · exact ⟨forgotten, by simp⟩
      · exact ⟨forgotten, by simp [AccountCall.Sound]⟩
  | deleteUser id =>
    refine ⟨sound.keepsSelf, ?_⟩
    intro call member
    obtain rfl := mem_singleton.mp member
    exact sound.deleteGetUser_sound id
  | tick milliseconds =>
    exact ⟨sound.keeps_of_same rfl rfl rfl rfl, by simp [Accounts.start]⟩
  | commission input | createUser input | changeEmail userId newEmail currentPassword
  | requestEmailVerification userId key | setUserStatus id status | updateUserRole id userType
  | sweepExpired nowMs =>
    exact ⟨sound.keepsSelf, by simp [Accounts.start, AccountCall.Sound]⟩

theorem AccountsSound.resume (distinct : Function.Injective setup.newId) {call : AccountCall}
    (own : call.Sound setup accounts) (current : accountCurrent setup accounts call)
    (reply : AccountReply) :
    KeepsSound setup accounts (accounts.resume setup call reply).1 ∧
      ∀ other ∈ (accounts.resume setup call reply).2,
        other.Sound setup (accounts.resume setup call reply).1 := by
  cases reply with
  | rejected => exact ⟨sound.keepsSelf, by simp [Accounts.resume]⟩
  | resolved passwordHash =>
    cases call with
    | commissionGetHome home input =>
      simp only [Accounts.resume]
      split
      · exact ⟨sound.keepsSelf, by simp⟩
      split
      · exact ⟨sound.keepsSelf, by simp⟩
      · rename_i none_read allowed
        have home_none : home = none := by simpa using none_read
        subst home_none
        have first := current.1 (by simpa [AccountCall.commissions] using allowed)
        refine ⟨sound.keeps_putHome distinct first input, ?_⟩
        intro other member
        obtain rfl := mem_singleton.mp member
        exact ⟨⟨_, rfl, rfl⟩, rfl, rfl⟩
    | commissionPutHome master =>
      rcases own with ⟨isMaster, typed, active⟩
      have new := sound.putNew (Nat.le_refl _) (sound.masterIssued master.id isMaster)
        (iff_of_true typed isMaster) (fun _ => active)
        (sound.masterStays master.id isMaster) (current.2.1 master rfl)
      exact ⟨new.keeps rfl (Nat.le_refl _), by simp [Accounts.resume, AccountCall.Sound]⟩
    | createGetHome home input =>
      cases home with
      | none => exact ⟨sound.keepsSelf, by simp [Accounts.resume]⟩
      | some home =>
        simp only [Accounts.resume]
        split
        · exact ⟨sound.keepsSelf, by simp⟩
        · exact ⟨sound.keepsSelf, by simp [AccountCall.Sound]⟩
    | createFindByEmail homeId found input =>
      cases found with
      | some other => exact ⟨sound.keepsSelf, by simp [Accounts.resume]⟩
      | none =>
        simp only [Accounts.resume]
        split
        · rename_i user created
          have unclaimed := current.2.1 user created
          simp only [AccountCall.creates] at created
          split at created
          · cases created
          · cases created
            exact ⟨sound.keeps_putNew distinct rfl input.notMaster unclaimed,
              by simp [AccountCall.Sound]⟩
        · exact ⟨sound.keepsSelf, by simp [AccountCall.Sound]⟩
    | createFindByUsername homeId found input =>
      simp only [Accounts.resume]
      split
      · rename_i user created
        have unclaimed := current.2.1 user created
        cases found with
        | some other => cases created
        | none =>
          cases created
          exact ⟨sound.keeps_putNew distinct rfl input.notMaster unclaimed,
            by simp [AccountCall.Sound]⟩
      · exact ⟨sound.keepsSelf, by simp⟩
    | hashing userId =>
      exact ⟨sound.keeps_of_same rfl rfl rfl rfl, by simp [Accounts.resume]⟩
    | changeGetUser user newEmail currentPassword =>
      cases user <;> exact ⟨sound.keepsSelf, by simp [Accounts.resume, AccountCall.Sound]⟩
    | changeGetCredential user cred newEmail currentPassword =>
      exact ⟨sound.keepsSelf, by simp [Accounts.resume, AccountCall.Sound]⟩
    | changeVerify user ok newEmail =>
      simp only [Accounts.resume]
      split
      · exact ⟨sound.keepsSelf, by simp⟩
      · exact ⟨sound.keepsSelf, by simp [AccountCall.Sound]⟩
    | requestGetUser user key =>
      cases user with
      | none => exact ⟨sound.keepsSelf, by simp [Accounts.resume]⟩
      | some user =>
        simp only [Accounts.resume]
        split
        · exact ⟨sound.keepsSelf, by simp⟩
        · exact ⟨sound.keeps_of_same rfl rfl rfl rfl, by simp⟩
    | changeFindByEmail _ _ _ | verifyGetUser _ _ | statusGetUser _ _ | roleGetUser _ _ =>
      simp only [Accounts.resume]
      split
      · exact ⟨sound.keepsSelf, by simp⟩
      · rename_i user update written
        exact ⟨sound.keeps_update written current, by simp⟩
    | sweeping nowMs rest =>
      simp only [Accounts.resume]
      split
      · exact ⟨sound.keepsSelf, by simp⟩
      · rename_i user update written
        exact ⟨sound.keeps_update written current, by simp [AccountCall.Sound]⟩
    | deleteGetUser user =>
      cases user with
      | none => exact ⟨sound.keepsSelf, by simp [Accounts.resume]⟩
      | some user =>
        simp only [Accounts.resume]
        split
        · exact ⟨sound.keepsSelf, by simp⟩
        · rename_i notMaster
          have other : ¬accounts.IsMaster user.id := fun master => notMaster (own.2 master)
          exact ⟨(sound.deleteUser own.1 other).keeps rfl (Nat.le_refl _), by simp⟩

end

end Steps

theorem accountsSound_step {setup : AccountSetup} (distinct : Function.Injective setup.newId) :
    ∀ config label next, Program.Holds (AccountsSound setup) (AccountCall.Sound setup) config →
      accountGuard setup config label →
      (accountProgram setup).machine.step config label = some next →
      Program.Holds (AccountsSound setup) (AccountCall.Sound setup) next := by
  refine Program.holds_step_of_keeps (fun shared call _ => accountCurrent setup
    shared call) ?_ ?_ ?_
  · intro config index reply call found current
    exact current call found
  · exact fun accounts request sound => sound.start request
  · intro accounts call reply outcome sound own current resumed
    have kept := sound.resume distinct own current reply
    simp only [accountProgram, some.injEq] at resumed
    rwa [resumed] at kept

/-- Letters are compared as they are. -/
def plainAccounts : AccountSetup where
  toLowerCase := id
  trim := id
  newId := nthId
  verify := fun passwordHash password => passwordHash = password
  checkPassword := fun _ => true

def commissioning : CommissionInput := ⟨"Home", "a@b", "secret", "Ann", none⟩

end SupremeOs.Identity
