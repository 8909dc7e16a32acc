import SupremeOs.DomainModel.Ids
import SupremeOs.Identity.Refresh
import SupremeOs.Support.Histories

/-!
# The rotation of refresh tokens

A token should be rotated away once, and a revoked session should stay revoked,
be rotated no more and issue tokens to no refresh that had not rotated it
before.  A refresh with a token that had been rotated away should issue nothing
and leave the session revoked; one with a current token should never revoke it.

The swap does not look at the revocation, a refresh that has lost the race does
not look at it once more before it issues, and a refresh that began in time may
read the session after another one has rotated it.
-/

namespace SupremeOs.Identity

open Support DomainModel List OrderedMap Option

/-- The identifiers of a session that have been rotated away, in order. -/
def rotatedJtis (sid : String) (history : List SessionRecord) : List String :=
  history.filterMap fun
    | .rotated refresh => if refresh.sid = sid then some refresh.jti else none
    | .revoked _ _ | .issued _ | .refused _ => none

def Sessions.IsRevoked (service : Sessions) (sid : String) : Prop :=
  ∃ session, service.sessions.get sid = some session ∧ session.revoked = true

structure RotationHolds (service : Sessions) : Prop where
  once : ∀ sid, (rotatedJtis sid service.history).Nodup
  staysRevoked : ∀ sid reuse, .revoked sid reuse ∈ service.history → service.IsRevoked sid
  noRotation : ∀ earlier refresh later, service.history = earlier ++ .rotated refresh :: later →
    ∀ reuse, .revoked refresh.sid reuse ∉ earlier
  /-- Who gets tokens after a revocation has rotated the session before it. -/
  noTokens : ∀ earlier reuse between refresh later,
    service.history = (earlier ++ .revoked refresh.sid reuse :: between) ++
      .issued refresh :: later →
    .rotated refresh ∈ earlier
  lateIssuesNothing : ∀ refresh, .issued refresh ∈ service.history → refresh.late = false
  lateRevokes : ∀ refresh, .refused refresh ∈ service.history → refresh.late = true →
    service.IsRevoked refresh.sid
  currentRevokesNot : ∀ sid refresh, .revoked sid (some refresh) ∈ service.history →
    refresh.current = false

/--
A refresh that began with the current token reads the session while the token
is still current, or else revoked; a swap that succeeds is not one of a revoked
session; and a refresh that has not rotated the session issues tokens while it
is not revoked.
-/
def refreshCurrent (service : Sessions) : SessionCall → Prop
  | .getSession refresh =>
    refresh.current = true → ∀ session ∈ service.sessions.get refresh.sid,
      session.revoked = true ∨ session.currentJti = refresh.jti
  | .setCurrentJti refresh =>
    ∀ session ∈ service.sessions.get refresh.sid,
      session.currentJti = refresh.jti → session.revoked = false
  | .issueTokens refresh _ =>
    .rotated refresh ∈ service.history ∨
      ∀ session ∈ service.sessions.get refresh.sid, session.revoked = false
  | .verify _ | .getUser _ | .revokeReused _ | .getLatest _ | .touch _ _ | .getOwned _ _
  | .listByUser _ _ | .verifyLogout _ | .revoke _ => True

instance (service : Sessions) : ∀ call, Decidable (refreshCurrent service call) := by
  intro call
  unfold refreshCurrent
  split <;> infer_instance

/-- The condition on the call that goes on. -/
def rotationGuard (config : Config Sessions SessionCall) : Schedule SessionRequest Unit → Prop
  | .call _ => True
  | .resume index _ => ∀ call ∈ config.pending[index]?, refreshCurrent config.shared call

instance (config : Config Sessions SessionCall) : ∀ label, Decidable (rotationGuard config label) := by
  intro label
  unfold rotationGuard
  split <;> infer_instance

structure RotationSound (newId : Nat → String) (service : Sessions) : Prop where
  sidDrawn : ∀ sid session, service.sessions.get sid = some session →
    ∃ number < service.drawn, newId number = sid
  jtiDrawn : ∀ sid session, service.sessions.get sid = some session →
    ∃ number < service.drawn, newId number = session.currentJti
  rotatedDrawn : ∀ refresh, .rotated refresh ∈ service.history →
    ∃ number < service.drawn, newId number = refresh.jti
  /-- What has been rotated away is not the current one. -/
  rotatedPast : ∀ refresh, .rotated refresh ∈ service.history →
    ∃ session, service.sessions.get refresh.sid = some session ∧ session.currentJti ≠ refresh.jti
  holds : RotationHolds service

/-- A refresh is late if its token had been rotated away; one that goes on to swap is not. -/
def SessionCall.Sound (service : Sessions) : SessionCall → Prop
  | .verify refresh | .getUser refresh | .getSession refresh =>
    refresh.late = true → service.rotatedAway refresh.sid refresh.jti = true
  | .revokeReused refresh =>
    refresh.current = false ∧
      (refresh.late = true → service.rotatedAway refresh.sid refresh.jti = true)
  | .setCurrentJti refresh | .getLatest refresh | .touch refresh _ | .issueTokens refresh _ =>
    refresh.late = false
  | .getOwned _ _ | .listByUser _ _ | .verifyLogout _ | .revoke _ => True

/-- What a new record needs in order to keep what should hold. -/
def Allowed (service next : Sessions) : SessionRecord → Prop
  | .rotated refresh =>
    refresh.jti ∉ rotatedJtis refresh.sid service.history ∧
      ∀ reuse, .revoked refresh.sid reuse ∉ service.history
  | .revoked sid reuse => next.IsRevoked sid ∧ ∀ refresh ∈ reuse, refresh.current = false
  | .issued refresh =>
    refresh.late = false ∧ (.rotated refresh ∈ service.history ∨ ¬service.IsRevoked refresh.sid)
  | .refused refresh => refresh.late = true → next.IsRevoked refresh.sid

section Steps

variable {newId : Nat → String} {service next : Sessions} {sid : String} {entry : SessionRecord}

theorem rotatedAway_iff {jti : String} : service.rotatedAway sid jti = true ↔
      ∃ refresh, .rotated refresh ∈ service.history ∧ refresh.sid = sid ∧ refresh.jti = jti := by
  simp only [Sessions.rotatedAway, List.any_eq_true]
  constructor
  · rintro ⟨entry, member, same⟩
    cases entry with
    | rotated refresh => exact ⟨refresh, member, by simpa using same⟩
    | revoked sid reuse | issued refresh | refused refresh => simp at same
  · rintro ⟨refresh, member, same⟩
    exact ⟨_, member, by simpa using same⟩

theorem mem_rotatedJtis {jti : String} {history : List SessionRecord} :
    jti ∈ rotatedJtis sid history ↔
      ∃ refresh, .rotated refresh ∈ history ∧ refresh.sid = sid ∧ refresh.jti = jti := by
  simp only [rotatedJtis, mem_filterMap]
  constructor
  · rintro ⟨entry, member, same⟩
    cases entry with
    | rotated refresh => exact ⟨refresh, member, by simpa using same⟩
    | revoked sid reuse | issued refresh | refused refresh => simp at same
  · rintro ⟨refresh, member, same⟩
    exact ⟨_, member, by simpa using same⟩

theorem rotatedJtis_concat (sid : String) (history : List SessionRecord) (entry : SessionRecord) :
    rotatedJtis sid (history ++ [entry]) = rotatedJtis sid history ++ rotatedJtis sid [entry] :=
  filterMap_append

theorem RotationHolds.concat (holds : RotationHolds service)
    (history : next.history = service.history ++ [entry])
    (revoked : ∀ sid, service.IsRevoked sid → next.IsRevoked sid)
    (allowed : Allowed service next entry) : RotationHolds next := by
  have earlier : ∀ {other}, other ∈ next.history → other ∈ service.history ∨ other = entry := by
    intro other member
    rw [history] at member
    exact (mem_append.mp member).imp_right mem_singleton.mp
  refine ⟨?_, ?_, ?_, ?_, ?_, ?_, ?_⟩
  · intro sid
    rw [history, rotatedJtis_concat]
    cases entry with
    | rotated refresh =>
      by_cases own : refresh.sid = sid
      · subst own
        have single : rotatedJtis refresh.sid [.rotated refresh] = [refresh.jti] := by
          simp [rotatedJtis]
        rw [single, nodup_append]
        refine ⟨holds.once refresh.sid, nodup_singleton _, ?_⟩
        rintro jti member other last rfl
        rw [mem_singleton.mp last] at member
        exact allowed.1 member
      · simpa [rotatedJtis, own] using holds.once sid
    | revoked other reuse | issued refresh | refused refresh =>
      simpa [rotatedJtis] using holds.once sid
  · intro sid reuse member
    rcases earlier member with old | rfl
    · exact revoked sid (holds.staysRevoked sid reuse old)
    · exact allowed.1
  · intro before refresh later split reuse
    rw [history] at split
    rcases concat_eq_append_cons.mp split with ⟨rfl, rfl, _⟩ | ⟨between, rfl, same⟩
    · exact allowed.2 reuse
    · exact holds.noRotation before refresh between same reuse
  · intro before reuse between refresh later split
    rw [history] at split
    rcases concat_eq_append_cons.mp split with ⟨same, rfl, _⟩ | ⟨middle, rfl, same⟩
    · have revokedNow := holds.staysRevoked refresh.sid reuse (by rw [same]; simp)
      have rotated := allowed.2.resolve_right (not_not_intro revokedNow)
      rw [same] at rotated
      rcases mem_append.mp rotated with before_it | after_it
      · exact before_it
      · rcases mem_cons.mp after_it with equal | after_it
        · cases equal
        · -- the rotation would be one of a revoked session
          rcases append_of_mem after_it with ⟨first, second, rfl⟩
          have noRotation := holds.noRotation (before ++ .revoked refresh.sid reuse :: first)
            refresh second (by rw [same]; simp) reuse
          exact absurd (by simp) noRotation
    · exact holds.noTokens before reuse between refresh middle same
  · intro refresh member
    rcases earlier member with old | rfl
    · exact holds.lateIssuesNothing refresh old
    · exact allowed.1
  · intro refresh member late
    rcases earlier member with old | rfl
    · exact revoked _ (holds.lateRevokes refresh old late)
    · exact allowed late
  · intro sid refresh member
    rcases earlier member with old | rfl
    · exact holds.currentRevokesNot sid refresh old
    · exact allowed.2 refresh rfl

section

variable (sound : RotationSound newId service)

include sound

theorem RotationSound.of_same
    (sessions : next.sessions = service.sessions) (history : next.history = service.history)
    (grows : service.drawn ≤ next.drawn) : RotationSound newId next := by
  have more : ∀ id, (∃ number < service.drawn, newId number = id) →
      ∃ number < next.drawn, newId number = id := by
    rintro id ⟨number, below, same⟩
    exact ⟨number, Nat.lt_of_lt_of_le below grows, same⟩
  have revoked : ∀ sid, next.IsRevoked sid ↔ service.IsRevoked sid := by
    intro sid
    rw [Sessions.IsRevoked, Sessions.IsRevoked, sessions]
  refine ⟨?_, ?_, ?_, ?_, ?_, ?_, ?_, ?_, ?_, ?_, ?_⟩
  · rw [sessions]
    exact fun sid session found => more _ (sound.sidDrawn sid session found)
  · rw [sessions]
    exact fun sid session found => more _ (sound.jtiDrawn sid session found)
  · rw [history]
    exact fun refresh member => more _ (sound.rotatedDrawn refresh member)
  · rw [sessions, history]
    exact sound.rotatedPast
  · rw [history]
    exact sound.holds.once
  · rw [history]
    exact fun sid reuse member => (revoked sid).mpr (sound.holds.staysRevoked sid reuse member)
  · rw [history]
    exact sound.holds.noRotation
  · rw [history]
    exact sound.holds.noTokens
  · rw [history]
    exact sound.holds.lateIssuesNothing
  · rw [history]
    exact fun refresh member late => (revoked _).mpr (sound.holds.lateRevokes refresh member late)
  · rw [history]
    exact sound.holds.currentRevokesNot

theorem RotationSound.record (noRotation : ∀ refresh, entry ≠ .rotated refresh)
    (allowed : Allowed service (service.record entry) entry) :
    RotationSound newId (service.record entry) := by
  have old : ∀ refresh, .rotated refresh ∈ service.history ++ [entry] →
      .rotated refresh ∈ service.history := by
    intro refresh member
    rcases mem_append.mp member with old | last
    · exact old
    · exact absurd (mem_singleton.mp last).symm (noRotation refresh)
  exact
    { sidDrawn := sound.sidDrawn, jtiDrawn := sound.jtiDrawn
      rotatedDrawn := fun refresh member => sound.rotatedDrawn refresh (old refresh member)
      rotatedPast := fun refresh member => sound.rotatedPast refresh (old refresh member)
      holds := sound.holds.concat rfl (fun _ revoked => revoked) allowed }

theorem RotationSound.revoke
    {reuse : Option Refresh} (current : ∀ refresh ∈ reuse, refresh.current = false) :
    RotationSound newId (service.revoke sid reuse) := by
  unfold Sessions.revoke
  split
  · exact sound
  · rename_i session found
    have stored : ∀ other session', (service.sessions.set sid { session with revoked := true }).get
        other = some session' → ∃ before, service.sessions.get other = some before ∧
          before.currentJti = session'.currentJti :=
      forall_get_set ⟨session, found, rfl⟩
        fun _ session' _ at_other => ⟨session', at_other, rfl⟩
    have old : ∀ refresh, .rotated refresh ∈ service.history ++ [.revoked sid reuse] →
        .rotated refresh ∈ service.history := by
      intro refresh member
      simpa using member
    refine
      { sidDrawn := ?_, jtiDrawn := ?_
        rotatedDrawn := fun refresh member => sound.rotatedDrawn refresh (old refresh member)
        rotatedPast := ?_, holds := sound.holds.concat rfl ?_ ⟨?_, current⟩ }
    · intro other session' at_other
      rcases stored other session' at_other with ⟨before, at_before, _⟩
      exact sound.sidDrawn other before at_before
    · intro other session' at_other
      rcases stored other session' at_other with ⟨before, at_before, same⟩
      exact same ▸ sound.jtiDrawn other before at_before
    · intro refresh member
      rcases sound.rotatedPast refresh (old refresh member) with ⟨before, at_before, past⟩
      by_cases same : refresh.sid = sid
      · rw [same, found, some.injEq] at at_before
        rw [← at_before] at past
        exact ⟨{ session with revoked := true }, by rw [get_set, if_pos same], past⟩
      · exact ⟨before, by rw [get_set, if_neg same]; exact at_before, past⟩
    · rintro other ⟨before, at_before, isRevoked⟩
      by_cases same : other = sid
      · exact ⟨_, by rw [get_set, if_pos same], rfl⟩
      · exact ⟨before, by rw [get_set, if_neg same]; exact at_before, isRevoked⟩
    · exact ⟨_, by rw [get_set, if_pos rfl], rfl⟩

theorem RotationSound.rotate
    (distinct : Function.Injective newId) {refresh : Refresh} {session : Session}
    (found : service.sessions.get refresh.sid = some session)
    (same : session.currentJti = refresh.jti) (live : session.revoked = false) :
    RotationSound newId
      { service with
        sessions := service.sessions.set refresh.sid
          { session with currentJti := newId service.drawn }
        drawn := service.drawn + 1
        history := service.history ++ [.rotated refresh] } := by
  have more : ∀ id, (∃ number < service.drawn, newId number = id) →
      ∃ number < service.drawn + 1, newId number = id := by
    rintro id ⟨number, below, equal⟩
    exact ⟨number, Nat.lt_succ_of_lt below, equal⟩
  have new : ∀ id, (∃ number < service.drawn, newId number = id) → newId service.drawn ≠ id := by
    rintro id ⟨number, below, equal⟩ again
    have number_eq := distinct (again.trans equal.symm)
    omega
  have past : refresh.jti ∉ rotatedJtis refresh.sid service.history := by
    rw [mem_rotatedJtis]
    rintro ⟨other, member, sid_eq, jti_eq⟩
    rcases sound.rotatedPast other member with ⟨session', at_other, past⟩
    rw [sid_eq, found, some.injEq] at at_other
    rw [← at_other, jti_eq] at past
    exact past same
  have notRevoked : ∀ reuse, .revoked refresh.sid reuse ∉ service.history := by
    intro reuse member
    rcases sound.holds.staysRevoked refresh.sid reuse member with ⟨session', at_sid, isRevoked⟩
    rw [found, some.injEq] at at_sid
    rw [← at_sid, live] at isRevoked
    exact Bool.false_ne_true isRevoked
  refine
    { sidDrawn := ?_, jtiDrawn := ?_, rotatedDrawn := ?_, rotatedPast := ?_
      holds := sound.holds.concat rfl ?_ ⟨past, notRevoked⟩ }
  · exact forall_get_set (more _ (sound.sidDrawn refresh.sid session found))
      fun sid session' _ at_sid => more sid (sound.sidDrawn sid session' at_sid)
  · exact forall_get_set ⟨service.drawn, Nat.lt_succ_self _, rfl⟩
      fun sid session' _ at_sid => more _ (sound.jtiDrawn sid session' at_sid)
  · intro other member
    rcases mem_append.mp member with old | last
    · exact more _ (sound.rotatedDrawn other old)
    · obtain rfl := SessionRecord.rotated.inj (mem_singleton.mp last)
      exact more _ (same ▸ sound.jtiDrawn _ session found)
  · intro other member
    have drawn : ∃ number < service.drawn, newId number = other.jti := by
      rcases mem_append.mp member with old | last
      · exact sound.rotatedDrawn other old
      · obtain rfl := SessionRecord.rotated.inj (mem_singleton.mp last)
        exact same ▸ sound.jtiDrawn _ session found
    by_cases own : other.sid = refresh.sid
    · exact ⟨_, by rw [get_set, if_pos own], new _ drawn⟩
    · rcases mem_append.mp member with old | last
      · rcases sound.rotatedPast other old with ⟨session', at_other, past⟩
        exact ⟨session', by rw [get_set, if_neg own]; exact at_other, past⟩
      · obtain rfl := SessionRecord.rotated.inj (mem_singleton.mp last)
        exact absurd rfl own
  · rintro sid ⟨session', at_sid, isRevoked⟩
    by_cases own : sid = refresh.sid
    · rw [own, found, some.injEq] at at_sid
      rw [← at_sid, live] at isRevoked
      exact absurd isRevoked Bool.false_ne_true
    · exact ⟨session', by rw [get_set, if_neg own]; exact at_sid, isRevoked⟩

theorem RotationSound.openSession
    (distinct : Function.Injective newId) (userId : String) (createdAt : Nat) :
    RotationSound newId (service.start newId (.openSession userId createdAt)).1 := by
  have more : ∀ id, (∃ number < service.drawn, newId number = id) →
      ∃ number < service.drawn + 2, newId number = id := by
    rintro id ⟨number, below, equal⟩
    exact ⟨number, Nat.lt_of_lt_of_le below (Nat.le_add_right _ 2), equal⟩
  have other : ∀ sid session, service.sessions.get sid = some session →
      sid ≠ newId service.drawn := by
    rintro sid session found rfl
    rcases sound.sidDrawn _ session found with ⟨number, below, equal⟩
    have number_eq := distinct equal
    omega
  have kept : ∀ sid session, service.sessions.get sid = some session →
      (service.start newId (.openSession userId createdAt)).1.sessions.get sid = some session := by
    intro sid session found
    simp only [Sessions.start]
    rw [get_set, if_neg (other sid session found)]
    exact found
  have revoked : ∀ sid, service.IsRevoked sid →
      (service.start newId (.openSession userId createdAt)).1.IsRevoked sid := by
    rintro sid ⟨session, found, isRevoked⟩
    exact ⟨session, kept sid session found, isRevoked⟩
  refine
    { sidDrawn := ?_, jtiDrawn := ?_
      rotatedDrawn := fun refresh member => more _ (sound.rotatedDrawn refresh member)
      rotatedPast := ?_
      holds :=
        { once := sound.holds.once, staysRevoked := fun sid reuse member =>
            revoked sid (sound.holds.staysRevoked sid reuse member)
          noRotation := sound.holds.noRotation
          noTokens := sound.holds.noTokens
          lateIssuesNothing := sound.holds.lateIssuesNothing
          lateRevokes := fun refresh member late =>
            revoked _ (sound.holds.lateRevokes refresh member late)
          currentRevokesNot := sound.holds.currentRevokesNot } }
  · exact forall_get_set
      ⟨service.drawn, Nat.lt_add_of_pos_right Nat.two_pos, rfl⟩
      fun sid session _ at_sid => more sid (sound.sidDrawn sid session at_sid)
  · exact forall_get_set ⟨service.drawn + 1, Nat.lt_succ_self _, rfl⟩
      fun sid session _ at_sid => more _ (sound.jtiDrawn sid session at_sid)
  · intro refresh member
    rcases sound.rotatedPast refresh member with ⟨session, found, past⟩
    exact ⟨session, kept _ session found, past⟩

end

def StaysSound (newId : Nat → String) (service next : Sessions) : Prop :=
  RotationSound newId next ∧ ∀ call, SessionCall.Sound service call → call.Sound next

theorem RotationSound.stays (sound : RotationSound newId next)
    (grows : ∀ entry ∈ service.history, entry ∈ next.history) :
    StaysSound newId service next := by
  have rotated : ∀ {sid jti}, service.rotatedAway sid jti = true →
      next.rotatedAway sid jti = true := by
    intro sid jti before
    rcases rotatedAway_iff.mp before with ⟨refresh, member, same⟩
    exact rotatedAway_iff.mpr ⟨refresh, grows _ member, same⟩
  refine ⟨sound, ?_⟩
  intro call own
  cases call with
  | verify refresh | getUser refresh | getSession refresh => exact fun late => rotated (own late)
  | revokeReused refresh => exact ⟨own.1, fun late => rotated (own.2 late)⟩
  | setCurrentJti refresh | getLatest refresh | touch refresh jti | issueTokens refresh jti =>
    exact own
  | getOwned userId sid | listByUser userId keepSessionId | verifyLogout sid | revoke sids =>
    trivial

theorem RotationSound.staysSelf (sound : RotationSound newId service) :
    StaysSound newId service service := sound.stays fun _ member => member

theorem RotationSound.stays_of_same (sound : RotationSound newId service)
    (sessions : next.sessions = service.sessions) (history : next.history = service.history)
    (grows : service.drawn ≤ next.drawn) : StaysSound newId service next :=
  (sound.of_same sessions history grows).stays fun _ member => history ▸ member

theorem mem_history_revoke {reuse : Option Refresh}
    (member : entry ∈ service.history) : entry ∈ (service.revoke sid reuse).history := by
  unfold Sessions.revoke
  split
  · exact member
  · exact mem_append_left _ member

theorem isRevoked_revoke {session : Session} (reuse : Option Refresh)
    (found : service.sessions.get sid = some session) :
    (service.revoke sid reuse).IsRevoked sid := by
  simp only [Sessions.revoke, found]
  exact ⟨{ session with revoked := true }, by simp, rfl⟩

section

variable (sound : RotationSound newId service)

include sound

theorem RotationSound.refuse {refresh : Refresh}
    (allowed : refresh.late = true → service.IsRevoked refresh.sid) :
    StaysSound newId service (service.record (.refused refresh)) := by
  have recorded : RotationSound newId (service.record (.refused refresh)) :=
    sound.record (by simp) allowed
  exact recorded.stays fun _ member => mem_append_left _ member

theorem RotationSound.of_rotatedAway {jti : String} (rotated : service.rotatedAway sid jti = true) :
    ∃ session, service.sessions.get sid = some session ∧ session.currentJti ≠ jti := by
  rcases rotatedAway_iff.mp rotated with ⟨refresh, member, rfl, rfl⟩
  exact sound.rotatedPast refresh member

theorem RotationSound.start (distinct : Function.Injective newId) (request : SessionRequest) :
    StaysSound newId service (service.start newId request).1 ∧
      ∀ call ∈ (service.start newId request).2, call.Sound (service.start newId request).1 := by
  cases request with
  | openSession userId createdAt =>
    exact ⟨(sound.openSession distinct userId createdAt).stays fun _ member => member, by
      simp [Sessions.start]⟩
  | refresh sid jti =>
    refine ⟨sound.stays_of_same rfl rfl (Nat.le_refl _), ?_⟩
    intro call member
    obtain rfl := mem_singleton.mp member
    exact fun late => late
  | revokeSession userId sid | revokeOtherSessions userId keepSessionId | logout sid =>
    exact ⟨sound.staysSelf, by simp [Sessions.start, SessionCall.Sound]⟩

theorem RotationSound.resume
    (distinct : Function.Injective newId) {call : SessionCall} (own : call.Sound service)
    (current : refreshCurrent service call) :
    StaysSound newId service (service.resume newId call).1 ∧
      ∀ other ∈ (service.resume newId call).2, other.Sound (service.resume newId call).1 := by
  cases call with
  | verify refresh =>
    exact ⟨sound.staysSelf, by simpa [Sessions.resume, SessionCall.Sound] using own⟩
  | getUser refresh =>
    exact ⟨sound.staysSelf, by simpa [Sessions.resume, SessionCall.Sound] using own⟩
  | getSession refresh =>
    simp only [Sessions.resume]
    split
    · rename_i absent
      refine ⟨sound.refuse ?_, by simp⟩
      intro late
      rcases sound.of_rotatedAway (own late) with ⟨session, found, _⟩
      rw [absent] at found
      cases found
    · rename_i session found
      split
      · rename_i isRevoked
        exact ⟨sound.refuse fun _ => ⟨session, found, isRevoked⟩, by simp⟩
      split
      · rename_i live differs
        refine ⟨sound.staysSelf, ?_⟩
        intro other member
        obtain rfl := mem_singleton.mp member
        refine ⟨eq_false_of_ne_true ?_, own⟩
        intro began
        exact (current began session found).elim live differs
      · rename_i same
        refine ⟨sound.staysSelf, ?_⟩
        intro other member
        obtain rfl := mem_singleton.mp member
        refine eq_false_of_ne_true ?_
        intro late
        rcases sound.of_rotatedAway (own late) with ⟨session', found', past⟩
        rw [found, some.injEq] at found'
        exact same (found' ▸ past)
  | revokeReused refresh =>
    have revoked : RotationSound newId (service.revoke refresh.sid (some refresh)) := by
      apply sound.revoke
      rintro _ ⟨⟩
      exact own.1
    refine ⟨?_, by simp [Sessions.resume]⟩
    have present : refresh.late = true →
        (service.revoke refresh.sid (some refresh)).IsRevoked refresh.sid := by
      intro late
      rcases sound.of_rotatedAway (own.2 late) with ⟨session, found, _⟩
      exact isRevoked_revoke (some refresh) found
    exact (revoked.refuse present).1.stays fun _ member =>
      mem_append_left _ (mem_history_revoke member)
  | setCurrentJti refresh =>
    have drew : StaysSound newId service { service with drawn := service.drawn + 1 } :=
      sound.stays_of_same rfl rfl (Nat.le_add_right _ 1)
    simp only [Sessions.resume]
    split
    · exact ⟨drew, by simpa [SessionCall.Sound] using own⟩
    · rename_i session found
      split
      · exact ⟨drew, by simpa [SessionCall.Sound] using own⟩
      · rename_i same
        rw [not_not] at same
        have rotated := sound.rotate distinct found same (current session found same)
        refine ⟨rotated.stays fun _ member => mem_append_left _ member, ?_⟩
        simpa [SessionCall.Sound] using own
  | getLatest refresh =>
    have notLate : refresh.late = true → service.IsRevoked refresh.sid :=
      fun late => absurd late (Bool.eq_false_iff.mp own)
    simp only [Sessions.resume]
    split
    · exact ⟨sound.refuse notLate, by simp⟩
    · split
      · exact ⟨sound.refuse notLate, by simp⟩
      · exact ⟨sound.staysSelf, by simpa [SessionCall.Sound] using own⟩
  | touch refresh jti =>
    exact ⟨sound.staysSelf, by simpa [Sessions.resume, SessionCall.Sound] using own⟩
  | issueTokens refresh jti =>
    have allowed : Allowed service (service.record (.issued refresh)) (.issued refresh) := by
      refine ⟨own, current.imp_right ?_⟩
      rintro live ⟨session, found, isRevoked⟩
      exact Bool.false_ne_true ((live session found).symm.trans isRevoked)
    have recorded := sound.record (by simp) allowed
    exact ⟨recorded.stays fun _ member => mem_append_left _ member, by
      simp [Sessions.resume]⟩
  | getOwned userId sid =>
    simp only [Sessions.resume]
    split
    · exact ⟨sound.staysSelf, by simp⟩
    · split
      · exact ⟨sound.staysSelf, by simp⟩
      · exact ⟨sound.staysSelf, by simp [SessionCall.Sound]⟩
  | listByUser userId keepSessionId =>
    exact ⟨sound.staysSelf, by simp [Sessions.resume, SessionCall.Sound]⟩
  | verifyLogout sid =>
    exact ⟨sound.staysSelf, by simp [Sessions.resume, SessionCall.Sound]⟩
  | revoke sids =>
    cases sids with
    | nil => exact ⟨sound.staysSelf, by simp [Sessions.resume]⟩
    | cons sid rest =>
      have revoked : RotationSound newId (service.revoke sid none) := sound.revoke (by simp)
      exact ⟨revoked.stays fun _ member => mem_history_revoke member, by
        simp [Sessions.resume, SessionCall.Sound]⟩

end

end Steps

theorem rotationSound_initial (newId : Nat → String) : RotationSound newId Sessions.initial where
  sidDrawn := fun sid session found => by simp [Sessions.initial] at found
  jtiDrawn := fun sid session found => by simp [Sessions.initial] at found
  rotatedDrawn := fun _ member => absurd member not_mem_nil
  rotatedPast := fun _ member => absurd member not_mem_nil
  holds :=
    { once := fun _ => nodup_nil
      staysRevoked := fun _ _ member => absurd member not_mem_nil
      noRotation := fun earlier refresh later split => by simp [Sessions.initial] at split
      noTokens := fun earlier reuse between refresh later split => by
        simp [Sessions.initial] at split
      lateIssuesNothing := fun _ member => absurd member not_mem_nil
      lateRevokes := fun _ member => absurd member not_mem_nil
      currentRevokesNot := fun _ _ member => absurd member not_mem_nil }

theorem rotationSound_step {newId : Nat → String} (distinct : Function.Injective newId) :
    ∀ config label next, Program.Holds (RotationSound newId) SessionCall.Sound config →
      rotationGuard config label → (sessionProgram newId).machine.step config label = some next →
      Program.Holds (RotationSound newId) SessionCall.Sound next := by
  refine Program.holds_step_of_keeps (fun shared call _ => refreshCurrent shared call) ?_ ?_ ?_
  · intro config index reply call found current
    exact current call found
  · exact fun service request sound => sound.start distinct request
  · intro service call reply outcome sound own current resumed
    have kept := sound.resume distinct own current
    simp only [sessionProgram, some.injEq] at resumed
    rwa [resumed] at kept

end SupremeOs.Identity
