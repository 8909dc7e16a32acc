import SupremeOs.Identity.Store
import SupremeOs.Support.Interleaving

/-!
# Logging in

A login is refused while its identifier is locked; otherwise it looks for the
user, by address and then by username, reads the credential and compares the
password.  The failure is counted after that, under the identifier as it was
typed, with the time at which the call began.

Only logins run, so the store stays as it is.  What follows the comparison
(the second factor, the session and the tokens) does not touch the counters.
Comparisons and successes are recorded in their order.
-/

namespace SupremeOs.Identity

open Support

/-- The options, the store, and what is taken from elsewhere. -/
structure LoginSetup where
  maxLoginAttempts : Nat
  lockoutMs : Nat
  store : InMemoryIdentityStore
  toLowerCase : String → String
  trim : String → String
  /-- Whether a password belongs to a hash; an error counts as no. -/
  verify : String → String → Bool

structure LoginFailure where
  count : Nat
  lockedUntil : Nat

inductive LoginRecord where
  /-- A password is compared with the stored hash of the user. -/
  | compared (userId key : String) (moment : Nat) (ok : Bool)
  | succeeded (userId : String)

structure Logins where
  /-- What the clock shows. -/
  now : Nat
  loginFailures : OrderedMap String LoginFailure
  history : List LoginRecord

inductive LoginRequest where
  | login (identifier password : String)
  /-- Time passes. -/
  | tick (milliseconds : Nat)

/-- What a login keeps across its awaits: its password, its key and when it began. -/
structure LoginAttempt where
  password : String
  key : String
  nowMs : Nat

inductive LoginCall where
  | findByEmail (identifier : String) (attempt : LoginAttempt)
  | findByUsername (identifier : String) (attempt : LoginAttempt)
  | getCredential (user : User) (attempt : LoginAttempt)
  | verifying (user : User) (cred : StoredCredential) (attempt : LoginAttempt)
  | dummyVerify (attempt : LoginAttempt)

namespace Logins

def initial : Logins := ⟨0, OrderedMap.empty, []⟩

/-- What is recorded under a key; nothing counts as no failure. -/
def failure (logins : Logins) (key : String) : LoginFailure :=
  (logins.loginFailures.get key).getD ⟨0, 0⟩

def locked (logins : Logins) (key : String) : Bool :=
  logins.now < (logins.failure key).lockedUntil

def recordLoginFailure (setup : LoginSetup) (logins : Logins) (key : String) (nowMs : Nat) :
    Logins :=
  let count := (logins.failure key).count + 1
  { logins with
    loginFailures := logins.loginFailures.set key
      ⟨count, if setup.maxLoginAttempts ≤ count then nowMs + setup.lockoutMs
        else (logins.failure key).lockedUntil⟩ }

def clearLoginFailures (logins : Logins) (key : String) : Logins :=
  { logins with loginFailures := logins.loginFailures.delete key }

def record (logins : Logins) (entry : LoginRecord) : Logins :=
  { logins with history := logins.history ++ [entry] }

def verified (setup : LoginSetup) (logins : Logins) (user : User) (cred : StoredCredential)
    (attempt : LoginAttempt) : Logins :=
  let ok := setup.verify cred.passwordHash attempt.password
  let seen := logins.record (.compared user.id attempt.key logins.now ok)
  if !ok then seen.recordLoginFailure setup attempt.key attempt.nowMs
  else if user.status ≠ .active then seen
  else (seen.clearLoginFailures attempt.key).record (.succeeded user.id)

def start (setup : LoginSetup) (logins : Logins) : LoginRequest → Logins × List LoginCall
  | .login identifier password =>
    let key := setup.toLowerCase (setup.trim identifier)
    if logins.locked key then (logins, [])
    else (logins, [.findByEmail identifier ⟨password, key, logins.now⟩])
  | .tick milliseconds => ({ logins with now := logins.now + milliseconds }, [])

def resume (setup : LoginSetup) (logins : Logins) : LoginCall → Logins × List LoginCall
  | .findByEmail identifier attempt =>
    match setup.store.findUserByEmail setup.toLowerCase identifier with
    | some user => (logins, [.getCredential user attempt])
    | none => (logins, [.findByUsername identifier attempt])
  | .findByUsername identifier attempt =>
    match setup.store.findUserByUsername setup.toLowerCase identifier with
    | some user => (logins, [.getCredential user attempt])
    | none => (logins, [.dummyVerify attempt])
  | .getCredential user attempt =>
    match setup.store.getCredential user.id with
    | some cred => (logins, [.verifying user cred attempt])
    | none => (logins, [.dummyVerify attempt])
  | .verifying user cred attempt => (logins.verified setup user cred attempt, [])
  | .dummyVerify attempt => (logins.recordLoginFailure setup attempt.key attempt.nowMs, [])

variable {setup : LoginSetup} {logins : Logins}

@[simp]
theorem failure_recordLoginFailure (key other : String) (nowMs : Nat) :
    (logins.recordLoginFailure setup key nowMs).failure other = if other = key then
        ⟨(logins.failure key).count + 1,
          if setup.maxLoginAttempts ≤ (logins.failure key).count + 1 then
            nowMs + setup.lockoutMs
          else (logins.failure key).lockedUntil⟩
      else logins.failure other := by
  by_cases same : other = key <;>
    simp [recordLoginFailure, failure, same]

@[simp]
theorem history_recordLoginFailure (key : String) (nowMs : Nat) :
    (logins.recordLoginFailure setup key nowMs).history = logins.history := rfl

theorem failure_clearLoginFailures {key other : String} (differs : other ≠ key) :
    (logins.clearLoginFailures key).failure other = logins.failure other := by
  simp [clearLoginFailures, failure, differs]

@[simp]
theorem history_clearLoginFailures (key : String) :
    (logins.clearLoginFailures key).history = logins.history := rfl

@[simp]
theorem failure_record (entry : LoginRecord) (key : String) :
    (logins.record entry).failure key = logins.failure key := rfl

@[simp]
theorem history_record (entry : LoginRecord) :
    (logins.record entry).history = logins.history ++ [entry] := rfl

end Logins

/-- The logins of a service, segment by segment. -/
def loginProgram (setup : LoginSetup) : Program Logins LoginRequest LoginCall Unit where
  start := Logins.start setup
  resume logins call _ := some (logins.resume setup call)

end SupremeOs.Identity
