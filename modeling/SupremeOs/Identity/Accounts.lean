import SupremeOs.Identity.Store
import SupremeOs.Support.Interleaving

/-!
# Operations on accounts

The store keeps its maps in memory, so a store call takes effect when it is
made; the operation that awaits it goes on later with a snapshot of what it has
read.  An operation counts as completed when it has written the user.

`newId` is the sequence of identifiers that are handed out.  Creations, changes
and deletions of users are recorded in their order.
-/

namespace SupremeOs.Identity

open Support

/-- What is taken from elsewhere. -/
structure AccountSetup where
  toLowerCase : String → String
  trim : String → String
  newId : Nat → String
  /-- Whether a password belongs to a hash; an error counts as no. -/
  verify : String → String → Bool
  /-- Whether a new password meets the policy. -/
  checkPassword : String → Bool

inductive UserUpdate where
  | emailSet (email : String)
  | emailVerified
  | statusSet (status : UserStatus)
  | typeSet (userType : UserType)
  | expire

inductive AccountRecord where
  | created (user : User)
  | updated (id : String) (update : UserUpdate)
  | deleted (id : String)

/-- What a verification link is for. -/
structure VerifyToken where
  userId : String
  email : String
  expiresAt : Nat

structure Accounts where
  now : Nat
  store : InMemoryIdentityStore
  /-- How many identifiers have been handed out. -/
  issued : Nat
  verifyTokens : OrderedMap String VerifyToken
  history : List AccountRecord

structure CommissionInput where
  homeName : String
  email : String
  password : String
  displayName : String
  username : Option String

/-- The input of `createUser`; no caller creates a master with it. -/
structure CreateInput where
  email : String
  password : String
  displayName : String
  userType : UserType
  expiresAt : Option Nat
  username : Option String
  notMaster : userType ≠ .master

inductive AccountRequest where
  | commission (input : CommissionInput)
  | createUser (input : CreateInput)
  | changeEmail (userId newEmail currentPassword : String)
  | requestEmailVerification (userId key : String)
  | verifyEmail (key : String)
  | setUserStatus (id : String) (status : UserStatus)
  | updateUserRole (id : String) (userType : UserType)
  | sweepExpired (nowMs : Nat)
  | deleteUser (id : String)
  /-- Time passes. -/
  | tick (milliseconds : Nat)

/-- The awaits of the operations, with what has been read. -/
inductive AccountCall where
  | commissionGetHome (home : Option Home) (input : CommissionInput)
  | commissionPutHome (master : User)
  | createGetHome (home : Option Home) (input : CreateInput)
  | createFindByEmail (homeId : String) (found : Option User) (input : CreateInput)
  | createFindByUsername (homeId : String) (found : Option User) (input : CreateInput)
  /-- The password of a new user is hashed. -/
  | hashing (userId : String)
  | changeGetUser (user : Option User) (newEmail currentPassword : String)
  | changeGetCredential (user : User) (cred : Option StoredCredential)
      (newEmail currentPassword : String)
  | changeVerify (user : User) (ok : Bool) (newEmail : String)
  | changeFindByEmail (user : User) (found : Option User) (normalized : String)
  | requestGetUser (user : Option User) (key : String)
  | verifyGetUser (user : Option User) (email : String)
  | statusGetUser (user : Option User) (status : UserStatus)
  | roleGetUser (user : Option User) (userType : UserType)
  | sweeping (nowMs : Nat) (rest : List User)
  | deleteGetUser (user : Option User)

inductive AccountReply where
  /-- Where a hash is awaited, it is this one. -/
  | resolved (passwordHash : String)
  | rejected

/-- A day. -/
def verifyTtlMs : Nat := 24 * 60 * 60 * 1000

/-- The user after an operation that has read him. -/
def UserUpdate.apply (setup : AccountSetup) (user : User) : UserUpdate → User
  | .emailSet email =>
    { user with
      email := email
      emailVerified :=
        if setup.toLowerCase email = setup.toLowerCase user.email then user.emailVerified
        else false }
  | .emailVerified => { user with emailVerified := true }
  | .statusSet status => { user with status := status }
  | .typeSet userType => { user with userType := userType }
  | .expire => { user with status := .expired }

/-- Whether a user has to be expired by a sweep. -/
def User.due (nowMs : Nat) (user : User) : Bool :=
  user.status = .active && user.userType ≠ .master && user.expiresAt.any fun time => time ≤ nowMs

/-- The change that a call is about to write, to the user as it has read him. -/
def AccountCall.update (setup : AccountSetup) : AccountCall → Option (User × UserUpdate)
  | .changeFindByEmail user found normalized =>
    if found.any fun existing => existing.id ≠ user.id then none
    else some (user, .emailSet normalized)
  | .verifyGetUser (some user) email =>
    if setup.toLowerCase user.email ≠ email then none
    else if user.emailVerified then none
    else some (user, .emailVerified)
  | .statusGetUser (some user) status =>
    if user.userType = .master ∧ status ≠ .active then none
    else some (user, .statusSet status)
  | .roleGetUser (some user) userType =>
    if user.userType = .master then none
    else if userType = .master then none
    else some (user, .typeSet userType)
  | .sweeping nowMs rest => (rest.find? (User.due nowMs)).map fun user => (user, .expire)
  | _ => none

/-- The user that a call is about to create, with the identifiers that come next. -/
def AccountCall.creates (newId : String) : AccountCall → Option User
  | .commissionPutHome master => some master
  | .createFindByEmail homeId none input =>
    -- an empty username is not looked for
    if input.username.any fun username => username ≠ "" then none
    else some ⟨newId, homeId, input.email, input.username, input.displayName, input.userType,
      .active, false, input.expiresAt⟩
  | .createFindByUsername homeId none input =>
    some ⟨newId, homeId, input.email, input.username, input.displayName, input.userType,
      .active, false, input.expiresAt⟩
  | _ => none

namespace Accounts

variable (setup : AccountSetup)

/-- The user is written, with the change that has been made. -/
def putUpdate (accounts : Accounts) (user : User) (update : UserUpdate) : Accounts :=
  { accounts with
    store := accounts.store.putUser (update.apply setup user)
    history := accounts.history ++ [.updated user.id update] }

/-- A new user is written, with `issued` identifiers handed out by then. -/
def putNew (accounts : Accounts) (user : User) (issued : Nat) : Accounts :=
  { accounts with
    store := accounts.store.putUser user
    issued := issued
    history := accounts.history ++ [.created user] }

/-- The home is written; the master comes next. -/
def putHome (accounts : Accounts) (input : CommissionInput) : Accounts × List AccountCall :=
  let homeId := setup.newId accounts.issued
  let userId := setup.newId (accounts.issued + 1)
  ({ accounts with
      store := accounts.store.putHome ⟨homeId, input.homeName, userId⟩
      issued := accounts.issued + 2 },
    [.commissionPutHome ⟨userId, homeId, input.email, input.username, input.displayName,
      .master, .active, true, none⟩])

def start (accounts : Accounts) : AccountRequest → Accounts × List AccountCall
  | .commission input => (accounts, [.commissionGetHome accounts.store.home input])
  | .createUser input => (accounts, [.createGetHome accounts.store.home input])
  | .changeEmail userId newEmail currentPassword =>
    (accounts, [.changeGetUser (accounts.store.getUser userId) newEmail currentPassword])
  | .requestEmailVerification userId key =>
    (accounts, [.requestGetUser (accounts.store.getUser userId) key])
  | .verifyEmail key =>
    let forgotten := { accounts with verifyTokens := accounts.verifyTokens.delete key }
    match accounts.verifyTokens.get key with
    | none => (forgotten, [])
    | some link =>
      if link.expiresAt < accounts.now then (forgotten, [])
      else (forgotten, [.verifyGetUser (accounts.store.getUser link.userId) link.email])
  | .setUserStatus id status => (accounts, [.statusGetUser (accounts.store.getUser id) status])
  | .updateUserRole id userType => (accounts, [.roleGetUser (accounts.store.getUser id) userType])
  | .sweepExpired nowMs => (accounts, [.sweeping nowMs accounts.store.listUsers])
  | .deleteUser id => (accounts, [.deleteGetUser (accounts.store.getUser id)])
  | .tick milliseconds => ({ accounts with now := accounts.now + milliseconds }, [])

def resume (accounts : Accounts) (call : AccountCall) : AccountReply → Accounts × List AccountCall
  | .rejected => (accounts, [])
  | .resolved passwordHash =>
    match call with
    | .commissionGetHome home input =>
      if home.isSome then (accounts, [])
      else if !setup.checkPassword input.password then (accounts, [])
      else accounts.putHome setup input
    | .commissionPutHome master =>
      (accounts.putNew master accounts.issued, [.hashing master.id])
    | .createGetHome none _ => (accounts, [])
    | .createGetHome (some home) input =>
      if !setup.checkPassword input.password then (accounts, [])
      else (accounts, [.createFindByEmail home.id
        (accounts.store.findUserByEmail setup.toLowerCase input.email) input])
    | .createFindByEmail _ (some _) _ => (accounts, [])
    | .createFindByEmail homeId none input =>
      match (AccountCall.createFindByEmail homeId none input).creates
          (setup.newId accounts.issued) with
      | some user => (accounts.putNew user (accounts.issued + 1), [.hashing user.id])
      | none => (accounts, [.createFindByUsername homeId
          (accounts.store.findUserByUsername setup.toLowerCase (input.username.getD ""))
          input])
    | .createFindByUsername homeId found input =>
      match (AccountCall.createFindByUsername homeId found input).creates
          (setup.newId accounts.issued) with
      | some user => (accounts.putNew user (accounts.issued + 1), [.hashing user.id])
      | none => (accounts, [])
    | .hashing userId =>
      ({ accounts with
        store := accounts.store.putCredential ⟨userId, passwordHash, none, none⟩ }, [])
    | .changeGetUser none _ _ => (accounts, [])
    | .changeGetUser (some user) newEmail currentPassword =>
      (accounts, [.changeGetCredential user (accounts.store.getCredential user.id) newEmail
        currentPassword])
    | .changeGetCredential user cred newEmail currentPassword =>
      (accounts, [.changeVerify user
        (cred.any fun cred => setup.verify cred.passwordHash currentPassword) newEmail])
    | .changeVerify user ok newEmail =>
      let normalized := setup.trim newEmail
      if !ok then (accounts, [])
      else (accounts, [.changeFindByEmail user
        (accounts.store.findUserByEmail setup.toLowerCase normalized) normalized])
    | .requestGetUser none _ => (accounts, [])
    | .requestGetUser (some user) key =>
      if user.emailVerified then (accounts, [])
      else ({ accounts with
        verifyTokens := accounts.verifyTokens.set key
          ⟨user.id, setup.toLowerCase user.email, accounts.now + verifyTtlMs⟩ }, [])
    | .changeFindByEmail _ _ _ | .verifyGetUser _ _ | .statusGetUser _ _ | .roleGetUser _ _ =>
      match call.update setup with
      | none => (accounts, [])
      | some (user, update) => (accounts.putUpdate setup user update, [])
    | .sweeping nowMs rest =>
      match call.update setup with
      | none => (accounts, [])
      | some (user, update) =>
        (accounts.putUpdate setup user update,
          [.sweeping nowMs (rest.dropWhile fun user => !user.due nowMs).tail])
    | .deleteGetUser none => (accounts, [])
    | .deleteGetUser (some user) =>
      if user.userType = .master then (accounts, [])
      else ({ accounts with
        store := accounts.store.deleteUser user.id
        history := accounts.history ++ [.deleted user.id] }, [])

end Accounts

/-- The operations of a service, segment by segment. -/
def accountProgram (setup : AccountSetup) :
    Program Accounts AccountRequest AccountCall AccountReply where
  start := Accounts.start
  resume accounts call reply := some (accounts.resume setup call reply)

end SupremeOs.Identity
