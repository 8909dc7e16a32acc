import Mathlib.Data.List.Sort
import SupremeOs.Support.Interleaving
import SupremeOs.Support.OrderedMap

/-!
# Sessions and the refresh of their tokens

A session has the identifier of its current refresh token and a flag that it is
revoked.  A refresh reads the session, swaps the identifier for a new one if it
is still the one it presents, and issues tokens.  A token that is not current
when the session is read counts as reused and revokes the session; one that is
current then, but not when it is swapped, gets tokens for the current one.

A store call takes effect when the operation that awaits it goes on; the new
identifier is drawn with the swap.  `newId` is the sequence of identifiers that
are handed out.  The tokens verify and their user is active: others are refused
before any session is looked at, and nothing here changes that.

Rotations, revocations and the ends of the refreshes are recorded, each refresh
with what holds when it begins.
-/

namespace SupremeOs.Identity

open Support

structure Session where
  userId : String
  currentJti : String
  revoked : Bool
  createdAt : Nat

/-- A call of `refresh`: the session and the identifier that its token names. -/
structure Refresh where
  number : Nat
  sid : String
  jti : String
  /-- Whether the token is the current one when the call begins. -/
  current : Bool
  /-- Whether it has been rotated away when the call begins. -/
  late : Bool
deriving DecidableEq

inductive SessionRecord where
  | rotated (refresh : Refresh)
  /-- A session is revoked, because a refresh found its token reused or on request. -/
  | revoked (sid : String) (reuse : Option Refresh)
  | issued (refresh : Refresh)
  | refused (refresh : Refresh)
deriving DecidableEq

structure Sessions where
  sessions : OrderedMap String Session
  /-- How many identifiers have been handed out. -/
  drawn : Nat
  /-- How many refreshes have begun. -/
  begun : Nat
  history : List SessionRecord

inductive SessionRequest where
  /-- A login opens a session. -/
  | openSession (userId : String) (createdAt : Nat)
  | refresh (sid jti : String)
  | revokeSession (userId sid : String)
  | revokeOtherSessions (userId keepSessionId : String)
  /-- A token of this session is logged out. -/
  | logout (sid : String)

inductive SessionCall where
  | verify (refresh : Refresh)
  | getUser (refresh : Refresh)
  | getSession (refresh : Refresh)
  | revokeReused (refresh : Refresh)
  | setCurrentJti (refresh : Refresh)
  | getLatest (refresh : Refresh)
  | touch (refresh : Refresh) (jti : String)
  | issueTokens (refresh : Refresh) (jti : String)
  | getOwned (userId sid : String)
  | listByUser (userId keepSessionId : String)
  | verifyLogout (sid : String)
  | revoke (sids : List String)

namespace Sessions

def initial : Sessions := ⟨OrderedMap.empty, 0, 0, []⟩

def record (service : Sessions) (entry : SessionRecord) : Sessions :=
  { service with history := service.history ++ [entry] }

def revoke (service : Sessions) (sid : String) (reuse : Option Refresh) : Sessions :=
  match service.sessions.get sid with
  | none => service
  | some session =>
    { service with
      sessions := service.sessions.set sid { session with revoked := true }
      history := service.history ++ [.revoked sid reuse] }

def listByUser (service : Sessions) (userId : String) : List (String × Session) :=
  (service.sessions.entries.filter fun entry => entry.2.userId = userId).insertionSort
    fun first second => second.2.createdAt ≤ first.2.createdAt

def rotatedAway (service : Sessions) (sid jti : String) : Bool :=
  service.history.any fun
    | .rotated refresh => refresh.sid = sid && refresh.jti = jti
    | .revoked _ _ | .issued _ | .refused _ => false

def isCurrent (service : Sessions) (sid jti : String) : Bool :=
  (service.sessions.get sid).any fun session => session.currentJti = jti

def start (newId : Nat → String) (service : Sessions) : SessionRequest → Sessions × List SessionCall
  | .openSession userId createdAt =>
    ({ service with
      sessions := service.sessions.set (newId service.drawn)
        ⟨userId, newId (service.drawn + 1), false, createdAt⟩
      drawn := service.drawn + 2 }, [])
  | .refresh sid jti =>
    ({ service with begun := service.begun + 1 },
      [.verify ⟨service.begun, sid, jti, service.isCurrent sid jti, service.rotatedAway sid jti⟩])
  | .revokeSession userId sid => (service, [.getOwned userId sid])
  | .revokeOtherSessions userId keepSessionId => (service, [.listByUser userId keepSessionId])
  | .logout sid => (service, [.verifyLogout sid])

def resume (newId : Nat → String) (service : Sessions) : SessionCall → Sessions × List SessionCall
  | .verify refresh => (service, [.getUser refresh])
  | .getUser refresh => (service, [.getSession refresh])
  | .getSession refresh =>
    match service.sessions.get refresh.sid with
    | none => (service.record (.refused refresh), [])
    | some session =>
      if session.revoked then (service.record (.refused refresh), [])
      else if session.currentJti ≠ refresh.jti then (service, [.revokeReused refresh])
      else (service, [.setCurrentJti refresh])
  | .revokeReused refresh =>
    ((service.revoke refresh.sid (some refresh)).record (.refused refresh), [])
  | .setCurrentJti refresh =>
    let nextJti := newId service.drawn
    let next := { service with drawn := service.drawn + 1 }
    match service.sessions.get refresh.sid with
    | none => (next, [.getLatest refresh])
    | some session =>
      if session.currentJti ≠ refresh.jti then (next, [.getLatest refresh])
      else
        ({ next with
          sessions := service.sessions.set refresh.sid { session with currentJti := nextJti }
          history := service.history ++ [.rotated refresh] }, [.touch refresh nextJti])
  | .getLatest refresh =>
    match service.sessions.get refresh.sid with
    | none => (service.record (.refused refresh), [])
    | some latest =>
      if latest.revoked then (service.record (.refused refresh), [])
      else (service, [.touch refresh latest.currentJti])
  | .touch refresh jti => (service, [.issueTokens refresh jti])
  | .issueTokens refresh _ => (service.record (.issued refresh), [])
  | .getOwned userId sid =>
    match service.sessions.get sid with
    | none => (service, [])
    | some session =>
      if session.userId ≠ userId then (service, []) else (service, [.revoke [sid]])
  | .listByUser userId keepSessionId =>
    (service, [.revoke (((service.listByUser userId).filter fun entry =>
      entry.1 ≠ keepSessionId && !entry.2.revoked).map Prod.fst)])
  | .verifyLogout sid => (service, [.revoke [sid]])
  | .revoke [] => (service, [])
  | .revoke (sid :: rest) => (service.revoke sid none, [.revoke rest])

end Sessions

/-- The operations on sessions, segment by segment. -/
def sessionProgram (newId : Nat → String) : Program Sessions SessionRequest SessionCall Unit where
  start := Sessions.start newId
  resume service call _ := some (service.resume newId call)

end SupremeOs.Identity
