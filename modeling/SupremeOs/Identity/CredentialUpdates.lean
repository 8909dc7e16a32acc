import SupremeOs.Identity.Credentials
import SupremeOs.Support.Histories
import SupremeOs.Support.Updates

/-!
# Credential updates are not lost

When nothing is in flight, the credential of a user should be what the
completed operations make of it: the password of the last change, the second
factor as it was last switched, and none but unused codes of the last batch.
No code should be accepted that is not one of these.

An operation writes back what it has read some time before, with one field
changed.  This is right as long as it writes what it would make of the
credential that is stored by then.
-/

namespace SupremeOs.Identity

open Support

/-- The completed operations on the credential of a user. -/
def changesOf (userId : String) (history : List (String × CredentialChange)) :
    List CredentialChange :=
  history.filterMap fun entry => if entry.1 = userId then some entry.2 else none

namespace CredentialChange

def setsPassword : CredentialChange → Option (Option String)
  | .passwordSet passwordHash => some (some passwordHash)
  | .enrolled _ | .disabled | .regenerated _ | .usedCode _ => none

/-- Whether the second factor is switched on or off. -/
def setsMfa : CredentialChange → Option Bool
  | .enrolled _ => some true
  | .disabled => some false
  | .passwordSet _ | .regenerated _ | .usedCode _ => none

/-- The codes that can be used after an operation. -/
def keeps (codes : List String) : CredentialChange → List String
  | .regenerated recoveryCodes => recoveryCodes
  | .disabled => []
  | .usedCode codeHash => codes.filter fun code => code ≠ codeHash
  | .passwordSet _ | .enrolled _ => codes

def uses : CredentialChange → Option String
  | .usedCode codeHash => some codeHash
  | .passwordSet _ | .enrolled _ | .disabled | .regenerated _ => none

end CredentialChange

/-- The codes that were issued, and neither used nor replaced nor invalidated since. -/
def liveCodes (initial : List String) (changes : List CredentialChange) : List String :=
  afterAll CredentialChange.keeps initial changes

namespace Credentials

variable (credentials : Credentials) (userId : String)

def passwordOf : Option String :=
  (credentials.store.getCredential userId).map StoredCredential.passwordHash

def mfaOf : Bool := (credentials.store.getCredential userId).any StoredCredential.hasMfa

def codesOf : List String := (credentials.store.getCredential userId).elim [] StoredCredential.codes

def changes : List CredentialChange := changesOf userId credentials.history

end Credentials

/-- What should hold of a user, given what was stored at the start. -/
structure CredentialsKept (initial : Credentials) (userId : String)
    (config : Config Credentials CredentialCall) : Prop where
  /-- A login with a code uses up one that could be used. -/
  once : ∀ earlier codeHash later,
    config.shared.changes userId = earlier ++ .usedCode codeHash :: later →
    codeHash ∈ liveCodes (initial.codesOf userId) earlier
  password : config.pending = [] → config.shared.passwordOf userId =
      lastSet CredentialChange.setsPassword (initial.passwordOf userId)
        (config.shared.changes userId)
  mfa : config.pending = [] → config.shared.mfaOf userId =
      lastSet CredentialChange.setsMfa (initial.mfaOf userId) (config.shared.changes userId)
  codes : config.pending = [] → ∀ codeHash ∈ config.shared.codesOf userId,
    codeHash ∈ liveCodes (initial.codesOf userId) (config.shared.changes userId)

/-- What an operation makes of the credential of a user. -/
def CredentialChange.applyTo (userId : String) (stored : Option StoredCredential) :
    CredentialChange → Option StoredCredential
  | .passwordSet passwordHash =>
    some ⟨userId, passwordHash, stored.bind StoredCredential.mfaSecret,
      some ((stored.bind StoredCredential.recoveryCodes).getD [])⟩
  | .enrolled secret => stored.map fun cred => { cred with mfaSecret := some secret }
  | .disabled => stored.map fun cred => { cred with mfaSecret := none, recoveryCodes := some [] }
  | .regenerated recoveryCodes =>
    stored.map fun cred => { cred with recoveryCodes := some recoveryCodes }
  | .usedCode codeHash =>
    stored.map fun cred =>
      { cred with recoveryCodes := some (cred.codes.filter fun code => code ≠ codeHash) }

/--
What is written for the user is what the operation makes of the credential that
is stored now, and a code that is used is still stored.
-/
def writesCurrent (userId : String) (credentials : Credentials) : CredentialCall → Prop
  | .putCredential owner change cred =>
    owner = userId → some cred = change.applyTo userId (credentials.store.getCredential userId) ∧
        ∀ codeHash ∈ change.uses, codeHash ∈ credentials.codesOf userId
  | .getLoginUser _ _ | .getEnrollingUser _ _ | .findUserByEmail _ _ | .getCredential _ _
  | .verifying _ _ _ | .hashing _ _ => True

instance (userId : String) (credentials : Credentials) :
    ∀ call, Decidable (writesCurrent userId credentials call) := by
  intro call
  unfold writesCurrent
  split <;> infer_instance

/-- The condition on the call that goes on. -/
def credentialGuard (userId : String) (config : Config Credentials CredentialCall) :
    Schedule CredentialRequest CredentialReply → Prop
  | .call _ => True
  | .resume index _ =>
    match config.pending[index]? with
    | some call => writesCurrent userId config.shared call
    | none => True

instance (userId : String) (config : Config Credentials CredentialCall) :
    ∀ label, Decidable (credentialGuard userId config label)
  | .call _ => isTrue trivial
  | .resume index _ =>
    match found : config.pending[index]? with
    | some call =>
      decidable_of_iff (writesCurrent userId config.shared call) (by
        simp only [credentialGuard, found])
    | none => isTrue (by simp only [credentialGuard, found])

def InMemoryIdentityStore.Keyed (store : InMemoryIdentityStore) : Prop :=
  ∀ entry ∈ store.credentials.entries, entry.2.userId = entry.1

instance (store : InMemoryIdentityStore) : Decidable store.Keyed :=
  inferInstanceAs (Decidable (∀ entry ∈ store.credentials.entries, _))

theorem InMemoryIdentityStore.keyed_iff {store : InMemoryIdentityStore} :
    store.Keyed ↔ ∀ userId cred, store.getCredential userId = some cred → cred.userId = userId := by
  simp [Keyed, getCredential, OrderedMap.get_eq_some_iff]

/-- What is kept by every step that meets the guard, whatever is in flight. -/
structure CredentialsSound (initial : Credentials) (userId : String) (credentials : Credentials) :
    Prop where
  keyed : ∀ owner cred, credentials.store.getCredential owner = some cred → cred.userId = owner
  once : ∀ earlier codeHash later,
    credentials.changes userId = earlier ++ .usedCode codeHash :: later →
    codeHash ∈ liveCodes (initial.codesOf userId) earlier
  password : credentials.passwordOf userId =
    lastSet CredentialChange.setsPassword (initial.passwordOf userId) (credentials.changes userId)
  mfa : credentials.mfaOf userId =
    lastSet CredentialChange.setsMfa (initial.mfaOf userId) (credentials.changes userId)
  codes : credentials.codesOf userId =
    liveCodes (initial.codesOf userId) (credentials.changes userId)

/-- A pending operation writes under its own user, and enrols with a secret that is not empty. -/
def CredentialCall.Sound : CredentialCall → Prop
  | .putCredential owner change cred =>
    cred.userId = owner ∧ ∀ secret, change = .enrolled secret → secret ≠ ""
  | .getCredential _ (.confirmMfaEnrollment secret) => secret ≠ ""
  | .getCredential _ _ | .getLoginUser _ _ | .getEnrollingUser _ _ | .findUserByEmail _ _
  | .verifying _ _ _ | .hashing _ _ => True

section Steps

variable {setup : CredentialSetup} {initial credentials : Credentials} {userId : String}

theorem credentialsSound_initial (keyed : initial.store.Keyed) (new : initial.history = []) :
    CredentialsSound initial userId initial := by
  have nothing : initial.changes userId = [] := by
    simp [Credentials.changes, changesOf, new]
  refine ⟨InMemoryIdentityStore.keyed_iff.mp keyed, ?_, ?_, ?_, ?_⟩
  · intro earlier codeHash later split
    simp [nothing] at split
  · rw [nothing, lastSet_nil]
  · rw [nothing, lastSet_nil]
  · rw [nothing]
    rfl

variable {next : Credentials} {change : CredentialChange}

theorem CredentialsSound.of_unchanged (sound : CredentialsSound initial userId credentials)
    (keyed : ∀ owner cred, next.store.getCredential owner = some cred → cred.userId = owner)
    (found : next.store.getCredential userId = credentials.store.getCredential userId)
    (changes : next.changes userId = credentials.changes userId) :
    CredentialsSound initial userId next := by
  refine ⟨keyed, ?_, ?_, ?_, ?_⟩
  · rw [changes]
    exact sound.once
  · rw [changes, Credentials.passwordOf, found]
    exact sound.password
  · rw [changes, Credentials.mfaOf, found]
    exact sound.mfa
  · rw [changes, Credentials.codesOf, found]
    exact sound.codes

theorem CredentialsSound.of_same (sound : CredentialsSound initial userId credentials)
    (store : next.store = credentials.store) (history : next.history = credentials.history) :
    CredentialsSound initial userId next := by
  apply sound.of_unchanged
  · rw [store]
    exact sound.keyed
  · rw [store]
  · rw [Credentials.changes, Credentials.changes, history]

section Fields

variable {stored : Option StoredCredential} {change : CredentialChange} {cred : StoredCredential}

theorem password_of_applyTo (applied : some cred = change.applyTo userId stored) :
    some cred.passwordHash =
      change.setsPassword.getD (stored.map StoredCredential.passwordHash) := by
  cases change with
  | passwordSet passwordHash =>
    cases applied
    rfl
  | enrolled secret | disabled | regenerated recoveryCodes | usedCode codeHash =>
    rcases Option.map_eq_some_iff.mp applied.symm with ⟨old, rfl, rfl⟩
    rfl

theorem mfa_of_applyTo (applied : some cred = change.applyTo userId stored)
    (secrets : ∀ secret, change = .enrolled secret → secret ≠ "") :
    cred.hasMfa = change.setsMfa.getD (stored.any StoredCredential.hasMfa) := by
  cases change with
  | passwordSet passwordHash =>
    cases applied
    cases stored <;> rfl
  | enrolled secret =>
    rcases Option.map_eq_some_iff.mp applied.symm with ⟨old, rfl, rfl⟩
    simpa [StoredCredential.hasMfa, CredentialChange.setsMfa] using secrets secret rfl
  | disabled | regenerated recoveryCodes | usedCode codeHash =>
    rcases Option.map_eq_some_iff.mp applied.symm with ⟨old, rfl, rfl⟩
    rfl

theorem codes_of_applyTo (applied : some cred = change.applyTo userId stored) :
    cred.codes = change.keeps (stored.elim [] StoredCredential.codes) := by
  cases change with
  | passwordSet passwordHash =>
    cases applied
    cases stored <;> rfl
  | enrolled secret | disabled | regenerated recoveryCodes | usedCode codeHash =>
    rcases Option.map_eq_some_iff.mp applied.symm with ⟨old, rfl, rfl⟩
    rfl

end Fields

theorem CredentialsSound.written (sound : CredentialsSound initial userId credentials)
    {cred : StoredCredential}
    (keyed : ∀ owner cred, next.store.getCredential owner = some cred → cred.userId = owner)
    (found : next.store.getCredential userId = some cred)
    (changes : next.changes userId = credentials.changes userId ++ [change])
    (applied : some cred = change.applyTo userId (credentials.store.getCredential userId))
    (live : ∀ codeHash ∈ change.uses, codeHash ∈ credentials.codesOf userId)
    (secrets : ∀ secret, change = .enrolled secret → secret ≠ "") :
    CredentialsSound initial userId next := by
  refine ⟨keyed, ?_, ?_, ?_, ?_⟩
  · intro earlier codeHash later split
    rw [changes] at split
    rcases concat_eq_append_cons.mp split with ⟨rfl, rfl, _⟩ | ⟨before, rfl, same⟩
    · rw [← sound.codes]
      exact live codeHash rfl
    · exact sound.once earlier codeHash before same
  · rw [changes, lastSet_concat, ← sound.password, Credentials.passwordOf, found]
    exact password_of_applyTo applied
  · rw [changes, lastSet_concat, ← sound.mfa, Credentials.mfaOf, found]
    exact mfa_of_applyTo applied secrets
  · rw [changes, liveCodes, afterAll_concat, ← liveCodes, ← sound.codes, Credentials.codesOf, found]
    exact codes_of_applyTo applied

theorem changesOf_concat (history : List (String × CredentialChange)) (owner : String)
    (change : CredentialChange) :
    changesOf userId (history ++ [(owner, change)]) =
      if owner = userId then changesOf userId history ++ [change]
      else changesOf userId history := by
  by_cases own : owner = userId <;> simp [changesOf, own]

theorem getCredential_putCredential (store : InMemoryIdentityStore) (cred : StoredCredential)
    (owner : String) :
    (store.putCredential cred).getCredential owner =
      if owner = cred.userId then some cred else store.getCredential owner := by
  simp [InMemoryIdentityStore.putCredential, InMemoryIdentityStore.getCredential]

theorem CredentialsSound.put (sound : CredentialsSound initial userId credentials)
    {owner : String} {cred : StoredCredential}
    (own : CredentialCall.Sound (.putCredential owner change cred))
    (current : writesCurrent userId credentials (.putCredential owner change cred))
    (pendingMfa : OrderedMap String String) :
    CredentialsSound initial userId
      { credentials with
        store := credentials.store.putCredential cred
        pendingMfa := pendingMfa
        history := credentials.history ++ [(owner, change)] } := by
  rcases own with ⟨rfl, secrets⟩
  have keyed : ∀ other stored,
      (credentials.store.putCredential cred).getCredential other = some stored →
      stored.userId = other := by
    intro other stored found
    rw [getCredential_putCredential] at found
    split at found
    · rename_i same
      rw [same, Option.some.inj found]
    · exact sound.keyed other stored found
  by_cases same : cred.userId = userId
  · rcases current same with ⟨applied, live⟩
    apply sound.written keyed _ _ applied live secrets
    · rw [getCredential_putCredential, if_pos same.symm]
    · rw [Credentials.changes, changesOf_concat, if_pos same, Credentials.changes]
  · apply sound.of_unchanged keyed
    · rw [getCredential_putCredential, if_neg fun equal => same equal.symm]
    · rw [Credentials.changes, changesOf_concat, if_neg same, Credentials.changes]

theorem start_same (credentials : Credentials) (request : CredentialRequest) :
    (credentials.start setup request).1.store = credentials.store ∧
      (credentials.start setup request).1.history = credentials.history := by
  cases request with
  | confirmMfaEnrollment userId code =>
    simp only [Credentials.start]
    split
    · exact ⟨rfl, rfl⟩
    · split
      · exact ⟨rfl, rfl⟩
      split <;> exact ⟨rfl, rfl⟩
  | resetPassword token newPassword =>
    simp only [Credentials.start]
    split
    · exact ⟨rfl, rfl⟩
    split
    · exact ⟨rfl, rfl⟩
    · split <;> exact ⟨rfl, rfl⟩
  | changePassword userId currentPassword newPassword =>
    simp only [Credentials.start]
    split <;> exact ⟨rfl, rfl⟩
  | verifyMfaLogin userId code | regenerateRecoveryCodes userId codes
  | startMfaEnrollment userId secret | disableMfa userId code
  | requestPasswordReset email token | tick milliseconds => exact ⟨rfl, rfl⟩

theorem start_sound (credentials : Credentials) (request : CredentialRequest) :
    ∀ call ∈ (credentials.start setup request).2, call.Sound := by
  cases request with
  | confirmMfaEnrollment userId code =>
    simp only [Credentials.start]
    split
    · simp
    · split
      · simp
      split
      · simp
      · rename_i filled _
        simpa [CredentialCall.Sound] using filled
  | resetPassword token newPassword =>
    simp only [Credentials.start]
    split
    · simp
    split
    · simp
    · split <;> simp [CredentialCall.Sound]
  | changePassword userId currentPassword newPassword =>
    simp only [Credentials.start]
    split <;> simp [CredentialCall.Sound]
  | verifyMfaLogin userId code | regenerateRecoveryCodes userId codes
  | startMfaEnrollment userId secret | disableMfa userId code
  | requestPasswordReset email token | tick milliseconds =>
    simp [Credentials.start, CredentialCall.Sound]

/-- What a reader writes, it writes under the user whose credential it has read. -/
theorem afterRead_sound {now : Nat} {owner : String} {read : Option StoredCredential}
    {reader : CredentialReader} (keyed : ∀ cred, read = some cred → cred.userId = owner)
    (sound : CredentialCall.Sound (.getCredential owner reader)) :
    ∀ call ∈ Credentials.afterRead setup now owner read reader, call.Sound := by
  cases reader with
  | verifyMfaLogin code =>
    simp only [Credentials.afterRead]
    split
    · simp
    · rename_i cred
      split
      · simp
      split
      · simp
      split
      · simp
      · simpa [CredentialCall.Sound] using keyed cred rfl
  | regenerateRecoveryCodes codes =>
    simp only [Credentials.afterRead]
    split
    · simp
    · rename_i cred
      split
      · simp
      · simpa [CredentialCall.Sound] using keyed cred rfl
  | confirmMfaEnrollment secret =>
    simp only [Credentials.afterRead]
    split
    · simp
    · rename_i cred
      simpa [CredentialCall.Sound] using ⟨keyed cred rfl, sound⟩
  | disableMfa code =>
    simp only [Credentials.afterRead]
    split
    · simp
    · rename_i cred
      split
      · simp
      split
      · simp
      · simpa [CredentialCall.Sound] using keyed cred rfl
  | resetPassword => simp [Credentials.afterRead, CredentialCall.Sound]
  | changePassword currentPassword =>
    simp only [Credentials.afterRead]
    split <;> simp [CredentialCall.Sound]

theorem CredentialsSound.resume (sound : CredentialsSound initial userId credentials)
    {call : CredentialCall} (own : call.Sound) (current : writesCurrent userId credentials call)
    (reply : CredentialReply) :
    CredentialsSound initial userId (credentials.resume setup call reply).1 ∧
      ∀ other ∈ (credentials.resume setup call reply).2, other.Sound := by
  cases reply with
  | rejected =>
    have nothing : credentials.resume setup call .rejected = (credentials, []) := by
      cases call <;> rfl
    rw [nothing]
    exact ⟨sound, by simp⟩
  | resolved passwordHash =>
    cases call with
    | getLoginUser owner code =>
      simp only [Credentials.resume]
      split
      · exact ⟨sound, by simp⟩
      · split
        · exact ⟨sound, by simp⟩
        · exact ⟨sound, by simp [CredentialCall.Sound]⟩
    | getEnrollingUser owner secret =>
      simp only [Credentials.resume]
      split
      · exact ⟨sound, by simp⟩
      · exact ⟨sound.of_same rfl rfl, by simp⟩
    | findUserByEmail email token =>
      simp only [Credentials.resume]
      split
      · exact ⟨sound, by simp⟩
      · exact ⟨sound.of_same rfl rfl, by simp⟩
    | getCredential owner reader =>
      exact ⟨sound, afterRead_sound (fun cred found => sound.keyed owner cred found) own⟩
    | verifying owner cred currentPassword =>
      simp only [Credentials.resume]
      split
      · exact ⟨sound, by simp⟩
      · exact ⟨sound, by simp [CredentialCall.Sound]⟩
    | hashing owner cred =>
      exact ⟨sound, by simp [Credentials.resume, CredentialCall.Sound]⟩
    | putCredential owner change cred =>
      exact ⟨sound.put own current _, by simp [Credentials.resume]⟩

end Steps

theorem credentialsSound_step {setup : CredentialSetup} {initial : Credentials}
    {userId : String} : ∀ config label next,
    Program.Holds (CredentialsSound initial userId) (fun _ => CredentialCall.Sound) config →
    credentialGuard userId config label →
    (credentialProgram setup).machine.step config label = some next →
    Program.Holds (CredentialsSound initial userId) (fun _ => CredentialCall.Sound) next := by
  refine Program.holds_step_of_keeps (fun shared call _ => writesCurrent userId
    shared call) ?_ ?_ ?_
  · intro config index reply call found current
    simpa only [credentialGuard, found] using current
  · intro shared request sound
    have same := @start_same setup shared request
    exact ⟨⟨sound.of_same same.1 same.2, fun _ own => own⟩, start_sound shared request⟩
  · intro shared call reply outcome sound own current resumed
    have kept := @CredentialsSound.resume setup _ _ _ sound _ own current reply
    simp only [credentialProgram, Option.some.injEq] at resumed
    rw [resumed] at kept
    exact ⟨⟨kept.1, fun _ own => own⟩, kept.2⟩

/-- Hashing changes nothing, and the code of a secret is the secret itself. -/
def plainCredentials : CredentialSetup where
  sha256 := id
  toLowerCase := id
  removeSpaces := id
  verifyTotp := fun _ secret code => code = secret
  verify := fun passwordHash password => passwordHash = password
  checkPassword := fun _ => true

/-- A user with the second factor and one recovery code. -/
def enrolledUser : Credentials where
  now := 0
  store := (InMemoryIdentityStore.initial.putUser
    ⟨"user", "home", "a@b", none, "Ann", .family, .active, true, none⟩).putCredential
      ⟨"user", "old", some "secret", some ["code"]⟩
  pendingMfa := OrderedMap.empty
  resetTokens := OrderedMap.empty
  history := []

end SupremeOs.Identity
