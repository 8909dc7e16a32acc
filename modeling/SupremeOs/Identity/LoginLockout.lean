import SupremeOs.Identity.Login
import SupremeOs.Support.Histories
import SupremeOs.Support.Windows

/-!
# The lockout of an account

Between two successes of an account, no window shorter than the lockout should
see more wrong passwords compared than are allowed, and nothing should be
compared while as many lie less than the lockout back.

The lock is looked at before the passwords are compared and the failures are
counted afterwards, under the identifier and with the time of the lock test.
Logins that overlap, or that use both names of the account, are therefore not
counted together in time.
-/

namespace SupremeOs.Identity

open Support List

/-- The wrong passwords of an account since its last success: the keys and the moments. -/
def LoginRecord.extend (userId : String) (wrong : List (String × Nat)) :
    LoginRecord → List (String × Nat)
  | .compared other key moment false =>
    if other = userId then wrong ++ [(key, moment)] else wrong
  | .compared _ _ _ true => wrong
  | .succeeded other => if other = userId then [] else wrong

def wrongSince (userId : String) (history : List LoginRecord) : List (String × Nat) :=
  history.foldl (LoginRecord.extend userId) []

structure LockoutHolds (setup : LoginSetup) (userId : String) (logins : Logins) : Prop where
  bounded : ∀ start,
    (inWindow Prod.snd setup.lockoutMs start (wrongSince userId logins.history)).length ≤
      setup.maxLoginAttempts
  /-- Before anything is compared, the wrong ones that are less than the lockout back are fewer. -/
  refused : ∀ earlier key moment ok later,
    logins.history = earlier ++ .compared userId key moment ok :: later →
    (recent Prod.snd setup.lockoutMs moment (wrongSince userId earlier)).length <
      setup.maxLoginAttempts

/--
When a password is compared for the account, its key is not locked by then, the
wrong ones since the last success have the same key, and fewer than allowed of
them, this one included, came after the lock test of the call.  Whatever else
counts or clears failures does so under a key that none of them has.
-/
def lockCurrent (setup : LoginSetup) (userId : String) (logins : Logins) : LoginCall → Prop
  | .verifying user cred attempt =>
    if user.id = userId then
      0 < setup.maxLoginAttempts ∧ logins.locked attempt.key = false ∧
        (∀ entry ∈ wrongSince userId logins.history, entry.1 = attempt.key) ∧
        (setup.verify cred.passwordHash attempt.password = false →
          ((wrongSince userId logins.history ++ [(attempt.key, logins.now)]).filter
            fun entry => attempt.nowMs < entry.2).length < setup.maxLoginAttempts)
    else ∀ entry ∈ wrongSince userId logins.history, entry.1 ≠ attempt.key
  | .dummyVerify attempt => ∀ entry ∈ wrongSince userId logins.history, entry.1 ≠ attempt.key
  | .findByEmail _ _ | .findByUsername _ _ | .getCredential _ _ => True

instance (setup : LoginSetup) (userId : String) (logins : Logins) :
    ∀ call, Decidable (lockCurrent setup userId logins call) := by
  intro call
  unfold lockCurrent
  split <;> infer_instance

/-- The condition on the call that goes on. -/
def lockoutGuard (setup : LoginSetup) (userId : String) (config : Config Logins LoginCall) :
    Schedule LoginRequest Unit → Prop
  | .call _ => True
  | .resume index _ =>
    match config.pending[index]? with
    | some call => lockCurrent setup userId config.shared call
    | none => True

instance (setup : LoginSetup) (userId : String) (config : Config Logins LoginCall) :
    ∀ label, Decidable (lockoutGuard setup userId config label)
  | .call _ => isTrue trivial
  | .resume index _ =>
    match found : config.pending[index]? with
    | some call =>
      decidable_of_iff (lockCurrent setup userId config.shared call) (by
        simp only [lockoutGuard, found])
    | none => isTrue (by simp only [lockoutGuard, found])

/-- The counters under the keys of the wrong passwords since the last success. -/
structure CountsWrong (setup : LoginSetup) (userId : String) (logins : Logins) : Prop where
  counted : ∀ entry ∈ wrongSince userId logins.history,
    (wrongSince userId logins.history).length ≤ (logins.failure entry.1).count
  /-- When the lock ends, few of them are recent. -/
  lasts : ∀ entry ∈ wrongSince userId logins.history,
    (recent Prod.snd setup.lockoutMs (logins.failure entry.1).lockedUntil
      (wrongSince userId logins.history)).length < setup.maxLoginAttempts
  holds : LockoutHolds setup userId logins

@[simp]
theorem wrongSince_concat (userId : String) (history : List LoginRecord) (record : LoginRecord) :
    wrongSince userId (history ++ [record]) = record.extend userId (wrongSince userId history) := by
  simp [wrongSince]

section Steps

variable {setup : LoginSetup} {userId : String} {logins : Logins}

theorem countsWrong_initial (setup : LoginSetup) (userId : String) :
    CountsWrong setup userId Logins.initial where
  counted := fun _ member => absurd member not_mem_nil
  lasts := fun _ member => absurd member not_mem_nil
  holds :=
    { bounded := fun _ => Nat.zero_le _
      refused := fun earlier key moment ok later split => by
        simp [Logins.initial] at split }

variable {key : String}

theorem CountsWrong.length_le (counts : CountsWrong setup userId logins)
    (same : ∀ entry ∈ wrongSince userId logins.history, entry.1 = key) :
    (wrongSince userId logins.history).length ≤ (logins.failure key).count := by
  cases wrong : wrongSince userId logins.history with
  | nil => exact Nat.zero_le _
  | cons entry rest =>
    have member : entry ∈ wrongSince userId logins.history := wrong ▸ mem_cons_self
    have counted := counts.counted entry member
    rwa [wrong, same entry member] at counted

theorem CountsWrong.recent_lt (counts : CountsWrong setup userId logins)
    (some_allowed : 0 < setup.maxLoginAttempts)
    (same : ∀ entry ∈ wrongSince userId logins.history, entry.1 = key) :
    (recent Prod.snd setup.lockoutMs (logins.failure key).lockedUntil
      (wrongSince userId logins.history)).length < setup.maxLoginAttempts := by
  cases wrong : wrongSince userId logins.history with
  | nil => exact some_allowed
  | cons entry rest =>
    have member : entry ∈ wrongSince userId logins.history := wrong ▸ mem_cons_self
    have lasts := counts.lasts entry member
    rwa [wrong, same entry member] at lasts

theorem CountsWrong.of_same (counts : CountsWrong setup userId logins) {next : Logins}
    (history : next.history = logins.history)
    (failures : ∀ entry ∈ wrongSince userId logins.history,
      next.failure entry.1 = logins.failure entry.1) :
    CountsWrong setup userId next := by
  refine ⟨?_, ?_, ?_, ?_⟩
  · intro entry member
    rw [history] at member ⊢
    rw [failures entry member]
    exact counts.counted entry member
  · intro entry member
    rw [history] at member ⊢
    rw [failures entry member]
    exact counts.lasts entry member
  · rw [history]
    exact counts.holds.bounded
  · rw [history]
    exact counts.holds.refused

theorem LockoutHolds.refused_concat (holds : LockoutHolds setup userId logins)
    {record : LoginRecord} (few : ∀ key moment ok, record = .compared userId key moment ok →
      (recent Prod.snd setup.lockoutMs moment (wrongSince userId logins.history)).length <
        setup.maxLoginAttempts) :
    ∀ earlier key moment ok later,
      logins.history ++ [record] = earlier ++ .compared userId key moment ok :: later →
      (recent Prod.snd setup.lockoutMs moment (wrongSince userId earlier)).length <
        setup.maxLoginAttempts := by
  intro earlier key moment ok later split
  rcases concat_eq_append_cons.mp split with ⟨rfl, rfl, _⟩ | ⟨before, rfl, same⟩
  · exact few key moment ok rfl
  · exact holds.refused earlier key moment ok before same

section

variable (counts : CountsWrong setup userId logins)

include counts

theorem CountsWrong.few
    (some_allowed : 0 < setup.maxLoginAttempts) (unlocked : logins.locked key = false)
    (same : ∀ entry ∈ wrongSince userId logins.history, entry.1 = key) :
    (recent Prod.snd setup.lockoutMs logins.now (wrongSince userId logins.history)).length <
      setup.maxLoginAttempts := by
  have expired : (logins.failure key).lockedUntil ≤ logins.now := by
    simpa [Logins.locked] using unlocked
  exact Nat.lt_of_le_of_lt (length_recent_anti expired) (counts.recent_lt some_allowed same)

/-- A wrong password is compared for the account. -/
theorem CountsWrong.wrong {attempt : LoginAttempt}
    (some_allowed : 0 < setup.maxLoginAttempts) (unlocked : logins.locked attempt.key = false)
    (same : ∀ entry ∈ wrongSince userId logins.history, entry.1 = attempt.key)
    (timely : ((wrongSince userId logins.history ++ [(attempt.key, logins.now)]).filter
      fun entry => attempt.nowMs < entry.2).length < setup.maxLoginAttempts) :
    CountsWrong setup userId
      ((logins.record (.compared userId attempt.key logins.now false)).recordLoginFailure setup
        attempt.key attempt.nowMs) := by
  have few := counts.few some_allowed unlocked same
  have counted := counts.length_le same
  have keys : ∀ entry ∈ wrongSince userId logins.history ++ [(attempt.key, logins.now)],
      entry.1 = attempt.key := by
    intro entry member
    rcases mem_append.mp member with earlier | last
    · exact same entry earlier
    · rw [mem_singleton.mp last]
  have wrong : wrongSince userId ((logins.record (.compared userId attempt.key logins.now
      false)).recordLoginFailure setup attempt.key attempt.nowMs).history =
      wrongSince userId logins.history ++ [(attempt.key, logins.now)] := by
    simp [LoginRecord.extend]
  refine ⟨?_, ?_, ?_, ?_⟩
  · intro entry member
    rw [wrong] at member ⊢
    rw [keys entry member, Logins.failure_recordLoginFailure, if_pos rfl, Logins.failure_record,
      length_append, length_singleton]
    exact Nat.succ_le_succ counted
  · intro entry member
    rw [wrong] at member ⊢
    rw [keys entry member, Logins.failure_recordLoginFailure, if_pos rfl, Logins.failure_record]
    by_cases locks : setup.maxLoginAttempts ≤ (logins.failure attempt.key).count + 1
    · simp only [if_pos locks, recent, Nat.add_lt_add_iff_right]
      exact timely
    · simp only [if_neg locks]
      have all := @length_recent_le _ Prod.snd setup.lockoutMs
        (wrongSince userId logins.history ++ [(attempt.key, logins.now)])
        (logins.failure attempt.key).lockedUntil
      rw [length_append, length_singleton] at all
      omega
  · rw [wrong]
    exact @length_inWindow_concat_le _ Prod.snd _ _ _ (attempt.key, logins.now) few
      counts.holds.bounded
  · apply counts.holds.refused_concat
    intro key moment ok equal
    simp only [LoginRecord.compared.injEq, true_and] at equal
    obtain ⟨rfl, rfl, rfl⟩ := equal
    exact few

/-- A record that leaves the wrong ones as they are, and is a comparison of the account only if
few of them are recent. -/
theorem CountsWrong.record {entry : LoginRecord} (kept : ∀ wrong, entry.extend userId wrong = wrong)
    (few : ∀ key moment ok, entry = .compared userId key moment ok →
      (recent Prod.snd setup.lockoutMs moment (wrongSince userId logins.history)).length <
        setup.maxLoginAttempts) :
    CountsWrong setup userId (logins.record entry) := by
  have wrong : wrongSince userId (logins.record entry).history =
      wrongSince userId logins.history := by
    rw [Logins.history_record, wrongSince_concat, kept]
  refine ⟨?_, ?_, ?_, counts.holds.refused_concat few⟩
  · rw [wrong]
    exact counts.counted
  · rw [wrong]
    exact counts.lasts
  · rw [wrong]
    exact counts.holds.bounded

theorem CountsWrong.succeeded (key : String) :
    CountsWrong setup userId ((logins.clearLoginFailures key).record (.succeeded userId)) := by
  have none : wrongSince userId
      ((logins.clearLoginFailures key).record (.succeeded userId)).history = [] := by
    simp [LoginRecord.extend]
  refine ⟨?_, ?_, ?_, ?_⟩
  · rw [none]
    exact fun _ member => absurd member not_mem_nil
  · rw [none]
    exact fun _ member => absurd member not_mem_nil
  · rw [none]
    exact fun _ => Nat.zero_le _
  · apply counts.holds.refused_concat
    intro other moment ok equal
    cases equal

theorem CountsWrong.recordLoginFailure
    (elsewhere : ∀ entry ∈ wrongSince userId logins.history, entry.1 ≠ key) (nowMs : Nat) :
    CountsWrong setup userId (logins.recordLoginFailure setup key nowMs) := by
  apply counts.of_same (Logins.history_recordLoginFailure _ _)
  intro entry member
  rw [Logins.failure_recordLoginFailure, if_neg (elsewhere entry member)]

theorem CountsWrong.clearLoginFailures
    (elsewhere : ∀ entry ∈ wrongSince userId logins.history, entry.1 ≠ key) :
    CountsWrong setup userId (logins.clearLoginFailures key) := by
  apply counts.of_same (Logins.history_clearLoginFailures _)
  intro entry member
  exact Logins.failure_clearLoginFailures (elsewhere entry member)

theorem CountsWrong.verified {user : User} {cred : StoredCredential} {attempt : LoginAttempt}
    (current : lockCurrent setup userId logins (.verifying user cred attempt)) :
    CountsWrong setup userId (logins.verified setup user cred attempt) := by
  by_cases own : user.id = userId
  · simp only [lockCurrent, if_pos own] at current
    rcases current with ⟨some_allowed, unlocked, same, timely⟩
    have few := counts.few some_allowed unlocked same
    have seen : CountsWrong setup userId
        (logins.record (.compared userId attempt.key logins.now true)) := by
      apply counts.record (fun _ => rfl)
      intro key moment ok equal
      simp only [LoginRecord.compared.injEq, true_and] at equal
      obtain ⟨rfl, rfl, rfl⟩ := equal
      exact few
    simp only [Logins.verified, own]
    cases ok : setup.verify cred.passwordHash attempt.password with
    | false => exact counts.wrong some_allowed unlocked same (timely ok)
    | true =>
      simp only [Bool.not_true, Bool.false_eq_true, if_false]
      split
      · exact seen
      · exact seen.succeeded attempt.key
  · simp only [lockCurrent, if_neg own] at current
    have seen : ∀ ok, CountsWrong setup userId
        (logins.record (.compared user.id attempt.key logins.now ok)) := by
      intro ok
      apply counts.record
      · intro wrong
        cases ok <;> simp [LoginRecord.extend, own]
      · intro key moment ok equal
        simp only [LoginRecord.compared.injEq] at equal
        exact absurd equal.1 own
    have elsewhere : ∀ ok, ∀ entry ∈ wrongSince userId
        (logins.record (.compared user.id attempt.key logins.now ok)).history,
        entry.1 ≠ attempt.key := by
      intro ok
      rw [Logins.history_record, wrongSince_concat]
      cases ok <;> simpa [LoginRecord.extend, own] using current
    simp only [Logins.verified]
    cases setup.verify cred.passwordHash attempt.password with
    | false => exact (seen false).recordLoginFailure (elsewhere false) attempt.nowMs
    | true =>
      simp only [Bool.not_true, Bool.false_eq_true, if_false]
      split
      · exact seen true
      · apply ((seen true).clearLoginFailures (elsewhere true)).record
        · intro wrong
          simp [LoginRecord.extend, own]
        · intro key moment ok equal
          cases equal

end

theorem countsWrong_step {config next : Config Logins LoginCall}
    {label : Schedule LoginRequest Unit} (counts : CountsWrong setup userId config.shared)
    (current : lockoutGuard setup userId config label)
    (step : (loginProgram setup).machine.step config label = some next) :
    CountsWrong setup userId next.shared := by
  cases label with
  | call request =>
    obtain rfl := Program.step_call_eq_some.mp step
    cases request with
    | login identifier password =>
      simp only [loginProgram, Logins.start]
      split
      · exact counts
      · exact counts
    | tick milliseconds => exact counts.of_same rfl fun _ _ => rfl
  | resume index reply =>
    rcases Program.step_resume_eq_some.mp step with
      ⟨before, call, after, shared, more, split, rfl, resumed, rfl⟩
    simp only [lockoutGuard, Program.getElem?_pending split] at current
    simp only [loginProgram, Option.some.injEq] at resumed
    have shared_eq : (config.shared.resume setup call).1 = shared := congrArg Prod.fst resumed
    rw [← shared_eq]
    cases call with
    | findByEmail identifier attempt =>
      simp only [Logins.resume]
      split <;> exact counts
    | findByUsername identifier attempt =>
      simp only [Logins.resume]
      split <;> exact counts
    | getCredential user attempt =>
      simp only [Logins.resume]
      split <;> exact counts
    | verifying user cred attempt => exact counts.verified current
    | dummyVerify attempt => exact counts.recordLoginFailure current attempt.nowMs

end Steps

/-- One user; two wrong passwords lock an identifier for a second. -/
def oneUser : LoginSetup where
  maxLoginAttempts := 2
  lockoutMs := 1000
  store := (InMemoryIdentityStore.initial.putUser
    ⟨"user", "home", "a@b", some "ann", "Ann", .family, .active, true, none⟩).putCredential
      ⟨"user", "secret", none, none⟩
  toLowerCase := id
  trim := id
  verify := fun passwordHash password => passwordHash = password

end SupremeOs.Identity
