import SupremeOs.Support.Interleaving
import SupremeOs.Support.OrderedMap

/-!
# The hub registry

Hubs enroll with a signed request and are claimed by an account with a code.
Each operation reads the record of the hub, decides and writes the record back
as a whole; it is cut at the awaits of the store.

A call of the store takes effect when the operation that awaits it goes on.
What an operation takes from outside at that moment, the time and random bytes,
comes with its going on.
-/

namespace SupremeOs.HubRegistry

open Support

inductive HubStatus where
  | provisioned
  | claimed
  | suspended
  | decommissioned
deriving DecidableEq

structure HubRecord where
  hubUuid : String
  status : HubStatus
  publicKey : String
  model : String
  fwVersion : String
  certSerial : Option String
  claimedByAccountId : Option String
  dealerOrgId : Option String
  createdAt : Nat
  lastSeenAt : Option Nat
deriving DecidableEq

structure HomeRecord where
  id : String
  name : String
  ownerAccountId : String
  hubUuid : String
  createdAt : Nat
deriving DecidableEq

inductive Role where
  | owner
  | admin
  | installer
  | homeowner
  | family
  | guest
  | service
deriving DecidableEq

structure MembershipRecord where
  id : String
  homeId : String
  accountId : String
  role : Role
  createdAt : Nat
deriving DecidableEq

structure ClaimCode where
  hubUuid : String
  code : String
  expiresAt : Nat
deriving DecidableEq

inductive AttestationKind where
  | factory
  | installer
  | tpm
  | dev
deriving DecidableEq

structure Attestation where
  kind : AttestationKind
  evidence : String
deriving DecidableEq

structure HubMeta where
  model : String
  fwVersion : String
deriving DecidableEq

structure EnrollmentRequest where
  hubUuid : String
  publicKey : String
  hubMeta : HubMeta
  attestation : Attestation
  nonce : String
  issuedAt : Int
  selfSignature : String
deriving DecidableEq

structure DeviceCredential where
  hubUuid : String
  devicePublicKey : String
  serial : String
  notBefore : Nat
  notAfter : Nat
  caKeyId : String
  caSignature : String
deriving DecidableEq

/-- What a hub is given for its tunnel when there is a certificate authority for it. -/
structure MutualTls where
  deviceCert : String
  deviceKey : String
  mtlsCaCert : String
  mtlsEndpoint : Option String
deriving DecidableEq

structure EnrollResult where
  credential : DeviceCredential
  caPublicKey : String
  brokerEndpoint : String
  renewBeforeMs : Nat
  mutualTls : Option MutualTls
deriving DecidableEq

structure ClaimResult where
  home : HomeRecord
  membership : MembershipRecord

inductive RegistryErrorCode where
  | validationFailed
  | conflict
  | notFound
  | unauthorized

structure RegistryError where
  code : RegistryErrorCode
  message : String

structure RegistryOptions where
  brokerEndpoint : String
  caPublicKey : String
  /-- The credential that is issued for a request at a time. -/
  issue : EnrollmentRequest → Nat → DeviceCredential
  /-- Whether the key of the request has signed the rest of it. -/
  verifyEnrollmentSelfSignature : EnrollmentRequest → Bool
  verifyAttestation : Option (Attestation → EnrollmentRequest → Bool)
  /-- The certificate of a hub for a serial and a time. -/
  issueDeviceCert : Option (String → String → Nat → MutualTls)
  /-- An id made of its kind, the count of ids so far and the time. -/
  newId : String → Nat → Nat → String

def isHexDigit (char : Char) : Bool := "0123456789abcdef".toList.contains char

/-- The places of a UUID of version 7, one after the other. -/
def uuidPlaces : List (Char → Bool) :=
  List.replicate 8 isHexDigit ++ [fun char => char == '-'] ++
    List.replicate 4 isHexDigit ++ [fun char => char == '-'] ++
    [fun char => char == '7'] ++ List.replicate 3 isHexDigit ++ [fun char => char == '-'] ++
    [fun char => "89ab".toList.contains char] ++ List.replicate 3 isHexDigit ++
    [fun char => char == '-'] ++ List.replicate 12 isHexDigit

def isUuidv7 (value : String) : Bool :=
  value.toList.length == uuidPlaces.length &&
    (uuidPlaces.zip value.toList).all fun entry => entry.1 entry.2

def defaultAttestationVerifier (attestation : Attestation) : Bool :=
  match attestation.kind with
  | .factory | .installer | .dev => attestation.evidence != ""
  | .tpm => false

def validateEnrollmentRequest (options : RegistryOptions) (req : EnrollmentRequest) (nowMs : Nat) :
    Option String :=
  let maxAgeMs := 5 * 60000
  let attested := match options.verifyAttestation with
    | some verify => verify req.attestation req
    | none => defaultAttestationVerifier req.attestation
  if isUuidv7 req.hubUuid = false then some "invalid hub uuid"
  else if maxAgeMs < (nowMs - req.issuedAt).natAbs then some "stale or future-dated request"
  else if options.verifyEnrollmentSelfSignature req = false then some "bad self-signature"
  else if attested = false then some "attestation rejected"
  else none

def claimAlphabet : List Char := "ABCDEFGHJKLMNPQRSTUVWXYZ23456789".toList

def generateClaimCode (hubUuid : String) (raw : List Nat) (nowMs : Nat) : ClaimCode where
  hubUuid := hubUuid
  code := String.ofList (raw.map fun byte => claimAlphabet.getD (byte % claimAlphabet.length) 'A')
  expiresAt := nowMs + 10 * 60000

def verifyClaimCode (expected : ClaimCode) (presentedCode : String) (nowMs : Nat) : Bool :=
  decide (nowMs < expected.expiresAt) && expected.code == presentedCode

structure HubRegistryStore where
  hubs : OrderedMap String HubRecord
  nonces : OrderedMap String Nat
  claimCodes : OrderedMap String ClaimCode
  homes : OrderedMap String HomeRecord
  memberships : List MembershipRecord

inductive Answer where
  | enrolled (result : EnrollResult)
  | codeIssued (code : ClaimCode)
  | claimed (result : ClaimResult)
  | transferred (hubUuid toAccountId : String)
  | heard (hubUuid : String)
  | refused (error : RegistryError)

structure Registry where
  store : HubRegistryStore
  /-- The count of ids that have been made. -/
  seq : Nat
  /-- How the calls so far have ended, in this order. -/
  answers : List Answer

inductive RegistryRequest where
  /-- A call to enroll, and the time. -/
  | enroll (req : EnrollmentRequest) (nowMs : Nat)
  | renew (req : EnrollmentRequest)
  | issueClaimCode (hubUuid : String)
  | claim (hubUuid accountId presentedCode homeName : String)
  | transfer (hubUuid toAccountId : String)
  | heartbeat (hubUuid : String)

/-- What an operation makes of the record of a hub. -/
inductive HubChange where
  | enrolled (req : EnrollmentRequest) (serial : String) (nowMs : Nat)
  | claimed (accountId : String)
  | transferred (toAccountId : String)
  | heard (nowMs : Nat)
deriving DecidableEq

/-- What follows when the record has been written. -/
inductive AfterPut where
  | enrolled (result : EnrollResult)
  | claimed (accountId homeName : String) (nowMs : Nat)
  | transferred (toAccountId : String)
  | heard
deriving DecidableEq

/-- The call of the store that an operation awaits. -/
inductive RegistryCall where
  | recordNonce (req : EnrollmentRequest) (nowMs : Nat)
  | getEnrolling (req : EnrollmentRequest) (nowMs : Nat)
  | getRenewing (req : EnrollmentRequest)
  | getUnclaimed (hubUuid : String)
  | putClaimCode (code : ClaimCode)
  | getClaimed (hubUuid accountId presentedCode homeName : String)
  | getClaimCode (hub : HubRecord) (hubUuid accountId presentedCode homeName : String)
  | getTransferred (hubUuid toAccountId : String)
  | getHeard (hubUuid : String)
  | putHub (hubUuid : String) (change : HubChange) (hub : HubRecord) (next : AfterPut)
  | putHome (home : HomeRecord) (membership : MembershipRecord)
  | putMembership (home : HomeRecord) (membership : MembershipRecord)
deriving DecidableEq

/-- The time and random bytes, as an operation goes on. -/
structure Surroundings where
  nowMs : Nat
  raw : List Nat

namespace HubChange

/-- The record that an operation writes, given the one it has read. -/
def applyTo (hubUuid : String) : HubChange → Option HubRecord → Option HubRecord
  | enrolled req serial _, some existing =>
    some { existing with fwVersion := req.hubMeta.fwVersion, certSerial := some serial }
  | enrolled req serial nowMs, none =>
    some ⟨hubUuid, .provisioned, req.publicKey, req.hubMeta.model, req.hubMeta.fwVersion,
      some serial, none, none, nowMs, some nowMs⟩
  | claimed accountId, stored =>
    stored.map fun hub => { hub with status := .claimed, claimedByAccountId := some accountId }
  | transferred toAccountId, stored =>
    stored.map fun hub => { hub with claimedByAccountId := some toAccountId }
  | heard nowMs, stored => stored.map fun hub => { hub with lastSeenAt := some nowMs }

end HubChange

namespace Registry

/-- A registry over a store that holds nothing. -/
def initial : Registry :=
  ⟨⟨OrderedMap.empty, OrderedMap.empty, OrderedMap.empty, OrderedMap.empty, []⟩, 0, []⟩

def answer (registry : Registry) (answer : Answer) : Registry × List RegistryCall :=
  ({ registry with answers := registry.answers ++ [answer] }, [])

def refuse (registry : Registry) (code : RegistryErrorCode) (message : String) :
    Registry × List RegistryCall :=
  registry.answer (.refused ⟨code, message⟩)

/-- The call goes on and awaits the record to be written; nothing is written of no record. -/
def putHub (registry : Registry) (hubUuid : String) (change : HubChange) (read : Option HubRecord)
    (next : AfterPut) : Registry × List RegistryCall :=
  match change.applyTo hubUuid read with
  | some hub => (registry, [.putHub hubUuid change hub next])
  | none => registry.refuse .notFound "hub is not enrolled"

variable (options : RegistryOptions)

def enroll (registry : Registry) (req : EnrollmentRequest) (nowMs : Nat) :
    Registry × List RegistryCall :=
  match validateEnrollmentRequest options req nowMs with
  | some reason => registry.refuse .validationFailed reason
  | none => (registry, [.recordNonce req nowMs])

/-- The nonce is recorded unless it has been seen. -/
def afterNonce (registry : Registry) (req : EnrollmentRequest) (nowMs : Nat) :
    Registry × List RegistryCall :=
  if registry.store.nonces.has req.nonce then
    registry.refuse .conflict "enrollment nonce already used"
  else
    ({ registry with store := { registry.store with
        nonces := registry.store.nonces.set req.nonce (nowMs + 10 * 60000) } },
      [.getEnrolling req nowMs])

def enrollResult (req : EnrollmentRequest) (nowMs : Nat) : EnrollResult :=
  let credential := options.issue req nowMs
  { credential := credential, caPublicKey := options.caPublicKey
    brokerEndpoint := options.brokerEndpoint
    renewBeforeMs := 7 * 24 * 60 * 60000
    mutualTls := options.issueDeviceCert.map fun issue =>
      issue req.hubUuid credential.serial nowMs }

/-- The hub is known under the key of the request, or not known. -/
def afterExisting (registry : Registry) (req : EnrollmentRequest) (nowMs : Nat) :
    Registry × List RegistryCall :=
  let existing := registry.store.hubs.get req.hubUuid
  if existing.any fun hub => hub.publicKey != req.publicKey then
    registry.refuse .unauthorized "hub uuid already bound to a different key"
  else
    let result := enrollResult options req nowMs
    registry.putHub req.hubUuid (.enrolled req result.credential.serial nowMs) existing
      (.enrolled result)

def afterRenewing (registry : Registry) (req : EnrollmentRequest) (nowMs : Nat) :
    Registry × List RegistryCall :=
  match registry.store.hubs.get req.hubUuid with
  | none => registry.refuse .notFound "hub is not enrolled"
  | some hub =>
    if hub.publicKey = req.publicKey then registry.enroll options req nowMs
    else registry.refuse .unauthorized "key mismatch"

def afterUnclaimed (registry : Registry) (hubUuid : String) (surroundings : Surroundings) :
    Registry × List RegistryCall :=
  match registry.store.hubs.get hubUuid with
  | none => registry.refuse .notFound "hub is not enrolled"
  | some hub =>
    if hub.status = .claimed then registry.refuse .conflict "hub already claimed"
    else
      (registry, [.putClaimCode (generateClaimCode hubUuid surroundings.raw surroundings.nowMs)])

def afterClaimed (registry : Registry) (hubUuid accountId presentedCode homeName : String) :
    Registry × List RegistryCall :=
  match registry.store.hubs.get hubUuid with
  | none => registry.refuse .notFound "hub is not enrolled"
  | some hub =>
    if hub.status = .claimed then registry.refuse .conflict "hub already claimed"
    else (registry, [.getClaimCode hub hubUuid accountId presentedCode homeName])

def afterClaimCode (registry : Registry) (hub : HubRecord)
    (hubUuid accountId presentedCode homeName : String) (nowMs : Nat) :
    Registry × List RegistryCall :=
  if (registry.store.claimCodes.get hubUuid).any fun expected =>
      verifyClaimCode expected presentedCode nowMs then
    registry.putHub hubUuid (.claimed accountId) (some hub) (.claimed accountId homeName nowMs)
  else registry.refuse .unauthorized "invalid or expired claim code"

/-- The record of the hub has been written. -/
def afterPut (registry : Registry) (hubUuid : String) (nowMs : Nat) :
    AfterPut → Registry × List RegistryCall
  | .enrolled result => registry.answer (.enrolled result)
  | .claimed accountId homeName createdAt =>
    let home := ⟨options.newId "home" (registry.seq + 1) nowMs, homeName, accountId, hubUuid,
      createdAt⟩
    let membership := ⟨options.newId "mbr" (registry.seq + 2) nowMs, home.id, accountId, .owner,
      createdAt⟩
    ({ registry with seq := registry.seq + 2 }, [.putHome home membership])
  | .transferred toAccountId => registry.answer (.transferred hubUuid toAccountId)
  | .heard => registry.answer (.heard hubUuid)

/-- A request, up to its first await. -/
def start (registry : Registry) : RegistryRequest → Registry × List RegistryCall
  | .enroll req nowMs => registry.enroll options req nowMs
  | .renew req => (registry, [.getRenewing req])
  | .issueClaimCode hubUuid => (registry, [.getUnclaimed hubUuid])
  | .claim hubUuid accountId presentedCode homeName =>
    (registry, [.getClaimed hubUuid accountId presentedCode homeName])
  | .transfer hubUuid toAccountId => (registry, [.getTransferred hubUuid toAccountId])
  | .heartbeat hubUuid => (registry, [.getHeard hubUuid])

/-- The awaited call of the store takes effect and the operation goes on. -/
def resume (registry : Registry) (call : RegistryCall) (surroundings : Surroundings) :
    Registry × List RegistryCall :=
  match call with
  | .recordNonce req nowMs => registry.afterNonce req nowMs
  | .getEnrolling req nowMs => registry.afterExisting options req nowMs
  | .getRenewing req => registry.afterRenewing options req surroundings.nowMs
  | .getUnclaimed hubUuid => registry.afterUnclaimed hubUuid surroundings
  | .putClaimCode code =>
    { registry with store := { registry.store with
        claimCodes := registry.store.claimCodes.set code.hubUuid code } }.answer
      (.codeIssued code)
  | .getClaimed hubUuid accountId presentedCode homeName =>
    registry.afterClaimed hubUuid accountId presentedCode homeName
  | .getClaimCode hub hubUuid accountId presentedCode homeName =>
    registry.afterClaimCode hub hubUuid accountId presentedCode homeName surroundings.nowMs
  | .getTransferred hubUuid toAccountId =>
    registry.putHub hubUuid (.transferred toAccountId) (registry.store.hubs.get hubUuid)
      (.transferred toAccountId)
  | .getHeard hubUuid =>
    registry.putHub hubUuid (.heard surroundings.nowMs) (registry.store.hubs.get hubUuid) .heard
  | .putHub hubUuid _ hub next =>
    { registry with store := { registry.store with
        hubs := registry.store.hubs.set hub.hubUuid hub } }.afterPut options hubUuid
      surroundings.nowMs next
  | .putHome home membership =>
    ({ registry with store := { registry.store with
        homes := registry.store.homes.set home.id home } }, [.putMembership home membership])
  | .putMembership home membership =>
    { registry with store := { registry.store with
        memberships := registry.store.memberships ++ [membership] } }.answer
      (.claimed ⟨home, membership⟩)

end Registry

/-- The operations of a registry, cut at their awaits. -/
def registryProgram (options : RegistryOptions) :
    Program Registry RegistryRequest RegistryCall Surroundings where
  start := fun registry request => registry.start options request
  resume := fun registry call surroundings => some (registry.resume options call surroundings)

end SupremeOs.HubRegistry
