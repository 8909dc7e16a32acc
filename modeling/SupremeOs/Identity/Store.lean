import SupremeOs.Support.OrderedMap

/-!
# Users and credentials in memory

Addresses and usernames are compared after both have been brought to lower
case.  The conversion is that of the language; nothing is assumed of it.
Points in time are in milliseconds.
-/

namespace SupremeOs.Identity

open Support

inductive UserType where
  | master
  | admin
  | homeowner
  | family
  | child
  | guest
  | staff
  | installer
  | serviceEngineer
  | developer
deriving DecidableEq

inductive UserStatus where
  | active
  | suspended
  | expired
deriving DecidableEq

structure User where
  id : String
  homeId : String
  email : String
  username : Option String
  displayName : String
  userType : UserType
  status : UserStatus
  emailVerified : Bool
  expiresAt : Option Nat
deriving DecidableEq

structure Home where
  id : String
  name : String
  masterUserId : String

structure StoredCredential where
  userId : String
  passwordHash : String
  mfaSecret : Option String
  /-- The hashes of the codes that have not been used. -/
  recoveryCodes : Option (List String)
deriving DecidableEq

structure InMemoryIdentityStore where
  home : Option Home
  users : OrderedMap String User
  credentials : OrderedMap String StoredCredential

namespace InMemoryIdentityStore

def initial : InMemoryIdentityStore := ⟨none, OrderedMap.empty, OrderedMap.empty⟩

variable (store : InMemoryIdentityStore)

def putHome (home : Home) : InMemoryIdentityStore :=
  { store with home := some home }

def findUserByEmail (toLowerCase : String → String) (store : InMemoryIdentityStore)
    (email : String) : Option User :=
  store.users.values.find? fun user => toLowerCase user.email = toLowerCase email

def findUserByUsername (toLowerCase : String → String) (store : InMemoryIdentityStore)
    (username : String) : Option User :=
  store.users.values.find? fun user => user.username.map toLowerCase = some (toLowerCase username)

def getUser (id : String) : Option User := store.users.get id

def listUsers : List User := store.users.values

def putUser (user : User) : InMemoryIdentityStore :=
  { store with users := store.users.set user.id user }

def deleteUser (id : String) : InMemoryIdentityStore :=
  { store with
    users := store.users.delete id
    credentials := store.credentials.delete id }

def getCredential (userId : String) : Option StoredCredential :=
  store.credentials.get userId

def putCredential (cred : StoredCredential) : InMemoryIdentityStore :=
  { store with credentials := store.credentials.set cred.userId cred }

end InMemoryIdentityStore

end SupremeOs.Identity
