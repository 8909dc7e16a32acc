import SupremeOs.Identity.Store
import SupremeOs.Support.Interleaving

/-!
# Operations on a stored credential

Six operations read the whole credential of a user, wait, and write the whole
credential back: a login with a recovery code, new recovery codes, the two
switches of the second factor and the two ways to a new password.  A store call
takes effect when the operation that awaits it goes on.

What a write completes is recorded with the user it is about.  A login ends in
the model when its code has been accepted; the session it opens is not part of
it.
-/

namespace SupremeOs.Identity

open Support

/-- What is taken from elsewhere: hashes, codes and conversions of texts. -/
structure CredentialSetup where
  sha256 : String → String
  toLowerCase : String → String
  removeSpaces : String → String
  /-- Whether a code fits a secret at a time. -/
  verifyTotp : Nat → String → String → Bool
  /-- Whether a password belongs to a hash; an error counts as no. -/
  verify : String → String → Bool
  /-- Whether a new password meets the policy. -/
  checkPassword : String → Bool

structure ResetToken where
  userId : String
  expiresAt : Nat

inductive CredentialChange where
  | passwordSet (passwordHash : String)
  | enrolled (secret : String)
  | disabled
  | regenerated (recoveryCodes : List String)
  | usedCode (codeHash : String)

structure Credentials where
  now : Nat
  store : InMemoryIdentityStore
  pendingMfa : OrderedMap String String
  resetTokens : OrderedMap String ResetToken
  history : List (String × CredentialChange)

inductive CredentialRequest where
  /-- A login whose token names this user; a token that does not verify has no effect. -/
  | verifyMfaLogin (userId code : String)
  /-- The codes are those that will be drawn. -/
  | regenerateRecoveryCodes (userId : String) (codes : List String)
  | startMfaEnrollment (userId secret : String)
  | confirmMfaEnrollment (userId code : String)
  | disableMfa (userId code : String)
  | requestPasswordReset (email token : String)
  | resetPassword (token newPassword : String)
  | changePassword (userId currentPassword newPassword : String)
  /-- Time passes. -/
  | tick (milliseconds : Nat)

inductive CredentialReader where
  | verifyMfaLogin (code : String)
  | regenerateRecoveryCodes (codes : List String)
  | confirmMfaEnrollment (secret : String)
  | disableMfa (code : String)
  | resetPassword
  | changePassword (currentPassword : String)

inductive CredentialCall where
  | getLoginUser (userId code : String)
  | getEnrollingUser (userId secret : String)
  | findUserByEmail (email token : String)
  | getCredential (userId : String) (reader : CredentialReader)
  | verifying (userId : String) (cred : StoredCredential) (currentPassword : String)
  /-- The new password is hashed; the credential that was read waits. -/
  | hashing (userId : String) (cred : Option StoredCredential)
  | putCredential (userId : String) (change : CredentialChange) (cred : StoredCredential)

inductive CredentialReply where
  /-- Where a hash is awaited, it is this one; hashes are salted. -/
  | resolved (passwordHash : String)
  | rejected

/-- Half an hour. -/
def resetTtlMs : Nat := 30 * 60 * 1000

namespace StoredCredential

/-- Whether there is a secret; an empty one counts as none. -/
def hasMfa (cred : StoredCredential) : Bool := cred.mfaSecret.any fun secret => secret ≠ ""

def codes (cred : StoredCredential) : List String := cred.recoveryCodes.getD []

end StoredCredential

namespace Credentials

variable (setup : CredentialSetup)

def start (credentials : Credentials) : CredentialRequest → Credentials × List CredentialCall
  | .verifyMfaLogin userId code => (credentials, [.getLoginUser userId code])
  | .regenerateRecoveryCodes userId codes =>
    (credentials, [.getCredential userId (.regenerateRecoveryCodes codes)])
  | .startMfaEnrollment userId secret => (credentials, [.getEnrollingUser userId secret])
  | .confirmMfaEnrollment userId code =>
    match credentials.pendingMfa.get userId with
    | none => (credentials, [])
    | some secret =>
      if secret = "" then (credentials, [])
      else if !setup.verifyTotp credentials.now secret code then (credentials, [])
      else (credentials, [.getCredential userId (.confirmMfaEnrollment secret)])
  | .disableMfa userId code => (credentials, [.getCredential userId (.disableMfa code)])
  | .requestPasswordReset email token => (credentials, [.findUserByEmail email token])
  | .resetPassword token newPassword =>
    if !setup.checkPassword newPassword then (credentials, [])
    else
      let key := setup.sha256 token
      let forgotten := { credentials with resetTokens := credentials.resetTokens.delete key }
      match credentials.resetTokens.get key with
      | none => (forgotten, [])
      | some reset =>
        if reset.expiresAt < credentials.now then (forgotten, [])
        else (forgotten, [.getCredential reset.userId .resetPassword])
  | .changePassword userId currentPassword newPassword =>
    if !setup.checkPassword newPassword then (credentials, [])
    else (credentials, [.getCredential userId (.changePassword currentPassword)])
  | .tick milliseconds => ({ credentials with now := credentials.now + milliseconds }, [])

/-- How a reader goes on with what it has read at this time. -/
def afterRead (now : Nat) (userId : String) (read : Option StoredCredential) :
    CredentialReader → List CredentialCall
  | .verifyMfaLogin code =>
    match read with
    | none => []
    | some cred =>
      let normalized := setup.removeSpaces code
      let codeHash := setup.sha256 (setup.toLowerCase normalized)
      if !cred.hasMfa then []
      else if setup.verifyTotp now (cred.mfaSecret.getD "") normalized then []
      else if codeHash ∉ cred.codes then []
      else [.putCredential userId (.usedCode codeHash)
        { cred with recoveryCodes := some (cred.codes.filter fun code => code ≠ codeHash) }]
  | .regenerateRecoveryCodes codes =>
    match read with
    | none => []
    | some cred =>
      let hashes := codes.map fun code => setup.sha256 (setup.toLowerCase code)
      if !cred.hasMfa then []
      else
        [.putCredential userId (.regenerated hashes) { cred with recoveryCodes := some hashes }]
  | .confirmMfaEnrollment secret =>
    match read with
    | none => []
    | some cred =>
      [.putCredential userId (.enrolled secret) { cred with mfaSecret := some secret }]
  | .disableMfa code =>
    match read with
    | none => []
    | some cred =>
      if !cred.hasMfa then []
      else if !setup.verifyTotp now (cred.mfaSecret.getD "") code then []
      else [.putCredential userId .disabled
        { cred with mfaSecret := none, recoveryCodes := some [] }]
  | .resetPassword => [.hashing userId read]
  | .changePassword currentPassword =>
    match read with
    | none => []
    | some cred => [.verifying userId cred currentPassword]

def resume (credentials : Credentials) : CredentialCall → CredentialReply →
    Credentials × List CredentialCall
  | _, .rejected => (credentials, [])
  | .getLoginUser userId code, _ =>
    match credentials.store.getUser userId with
    | none => (credentials, [])
    | some user =>
      if user.status ≠ .active then (credentials, [])
      else (credentials, [.getCredential user.id (.verifyMfaLogin code)])
  | .getEnrollingUser userId secret, _ =>
    match credentials.store.getUser userId with
    | none => (credentials, [])
    | some _ =>
      ({ credentials with pendingMfa := credentials.pendingMfa.set userId secret }, [])
  | .findUserByEmail email token, _ =>
    match credentials.store.findUserByEmail setup.toLowerCase email with
    | none => (credentials, [])
    | some user =>
      ({ credentials with
        resetTokens := credentials.resetTokens.set (setup.sha256 token)
          ⟨user.id, credentials.now + resetTtlMs⟩ }, [])
  | .getCredential userId reader, _ =>
    (credentials, afterRead setup credentials.now userId
      (credentials.store.getCredential userId) reader)
  | .verifying userId cred currentPassword, _ =>
    if !setup.verify cred.passwordHash currentPassword then (credentials, [])
    else (credentials, [.hashing userId (some cred)])
  | .hashing userId cred, .resolved passwordHash =>
    (credentials, [.putCredential userId (.passwordSet passwordHash)
      ⟨userId, passwordHash, cred.bind StoredCredential.mfaSecret,
        some ((cred.bind StoredCredential.recoveryCodes).getD [])⟩])
  | .putCredential userId change cred, _ =>
    ({ credentials with
      store := credentials.store.putCredential cred
      pendingMfa :=
        match change with
        | .enrolled _ => credentials.pendingMfa.delete userId
        | .passwordSet _ | .disabled | .regenerated _ | .usedCode _ => credentials.pendingMfa
      history := credentials.history ++ [(userId, change)] }, [])

end Credentials

/-- The operations of a service, segment by segment. -/
def credentialProgram (setup : CredentialSetup) :
    Program Credentials CredentialRequest CredentialCall CredentialReply where
  start := Credentials.start setup
  resume credentials call reply := some (credentials.resume setup call reply)

end SupremeOs.Identity
