import SupremeOs.Support.Machine
import SupremeOs.Support.OrderedMap
import Mathlib.Algebra.Ring.Rat

/-!
# The licences of a dealer

A dealer issues licences for the hubs of their customers, marks them activated,
revokes them and transfers them to other hubs.  A transfer marks the old record
and issues a new licence, whose record is written twice, the second time with
the record that it supersedes.

A call reads at most one record, before it writes, and it writes one record
after the other.  If one of its writes fails, the call fails and what it has
written stays.
-/

namespace SupremeOs.Licensing

open Support

inductive LicenseRecordStatus where
  | issued
  | activated
  | revoked
  | transferred
deriving DecidableEq

/-- Whether a licence with this status can be used. -/
def LicenseRecordStatus.live : LicenseRecordStatus → Bool
  | .issued | .activated => true
  | .revoked | .transferred => false

structure LicenseRecord where
  id : String
  dealerOrgId : String
  homeId : String
  sku : String
  features : List String
  seats : ℚ
  issuedAt : String
  expiresAt : Option String
  status : LicenseRecordStatus
  activatedAt : Option String
  supersedes : Option String

structure LicensePayload where
  id : String
  homeId : String
  sku : String
  seats : ℚ
  features : List String
  issuedAt : String
  expiresAt : Option String

structure License where
  payload : LicensePayload
  signature : String

structure IssueForCustomerInput where
  dealerOrgId : String
  homeId : String
  sku : String
  seats : Option ℚ
  features : Option (List String)
  expiresAt : Option String

inductive DealerLicensingError where
  | licenseIsRevoked
  | licenseRecordNotFound

def DealerLicensingError.message : DealerLicensingError → String
  | .licenseIsRevoked => "license is revoked"
  | .licenseRecordNotFound => "license record not found"

/-- `ILicenseRecordStore`. -/
abbrev LicenseRecordStore := OrderedMap String LicenseRecord

variable (store : LicenseRecordStore)

def LicenseRecordStore.put (record : LicenseRecord) : LicenseRecordStore :=
  store.set record.id record

/-- The records that a call writes, in order, and its answer. -/
structure Performed where
  writes : List LicenseRecord
  record : LicenseRecord
  license : Option License

/-- `id` is the id that is drawn and `issuedAt` the time that is read. -/
def issueLicense (signPayload : LicensePayload → String) (input : IssueForCustomerInput)
    (id issuedAt : String) : License :=
  let payload : LicensePayload := {
    id, homeId := input.homeId, sku := input.sku, seats := input.seats.getD 1,
    features := input.features.getD [], issuedAt, expiresAt := input.expiresAt }
  ⟨payload, signPayload payload⟩

namespace DealerLicensingService

variable (signPayload : LicensePayload → String) (store : LicenseRecordStore)

/-- `require(id)`. -/
def requireRecord (id : String) : Except DealerLicensingError LicenseRecord :=
  match store.get id with
  | some record => .ok record
  | none => .error .licenseRecordNotFound

def issue (input : IssueForCustomerInput) (id issuedAt : String) : Performed :=
  let license := issueLicense signPayload input id issuedAt
  let record : LicenseRecord := {
    id := license.payload.id, dealerOrgId := input.dealerOrgId, homeId := input.homeId,
    sku := input.sku, features := input.features.getD [], seats := input.seats.getD 1,
    issuedAt := license.payload.issuedAt, expiresAt := license.payload.expiresAt,
    status := .issued, activatedAt := none, supersedes := none }
  ⟨[record], record, some license⟩

def markActivated (licenseId now : String) : Except DealerLicensingError Performed :=
  match requireRecord store licenseId with
  | .error error => .error error
  | .ok record =>
    if record.status = .revoked then .error .licenseIsRevoked
    else
      let updated := { record with status := .activated, activatedAt := some now }
      .ok ⟨[updated], updated, none⟩

def revoke (licenseId : String) : Except DealerLicensingError Performed :=
  match requireRecord store licenseId with
  | .error error => .error error
  | .ok record =>
    let updated := { record with status := .revoked }
    .ok ⟨[updated], updated, none⟩

def transfer (licenseId newHomeId id issuedAt : String) : Except DealerLicensingError Performed :=
  match requireRecord store licenseId with
  | .error error => .error error
  | .ok old =>
    let issued := issue signPayload {
      dealerOrgId := old.dealerOrgId, homeId := newHomeId, sku := old.sku,
      seats := some old.seats, features := some old.features, expiresAt := old.expiresAt }
      id issuedAt
    let record := { issued.record with supersedes := some old.id }
    .ok ⟨{ old with status := .transferred } :: (issued.writes ++ [record]), record, issued.license⟩

/-- The records that `seatsInUse` counts; `list` sorts them, which their sum does not show. -/
def counted (dealerOrgId : String) : List LicenseRecord :=
  (store.values.filter fun record => decide (record.dealerOrgId = dealerOrgId)).filter
    fun record => decide (record.status = .activated)

def seatsInUse (dealerOrgId : String) : ℚ :=
  ((counted store dealerOrgId).map LicenseRecord.seats).sum

end DealerLicensingService

inductive LicenseCall where
  | issue (input : IssueForCustomerInput) (id issuedAt : String)
  | markActivated (licenseId now : String)
  | revoke (licenseId : String)
  | transfer (licenseId newHomeId id issuedAt : String)

def LicenseCall.perform (signPayload : LicensePayload → String) (store : LicenseRecordStore) :
    LicenseCall → Except DealerLicensingError Performed
  | .issue input id issuedAt =>
    .ok (DealerLicensingService.issue signPayload input id issuedAt)
  | .markActivated licenseId now => DealerLicensingService.markActivated store licenseId now
  | .revoke licenseId => DealerLicensingService.revoke store licenseId
  | .transfer licenseId newHomeId id issuedAt =>
    DealerLicensingService.transfer signPayload store licenseId newHomeId id issuedAt

/-- A call and how many of its writes take effect; it fails if these are not all of them. -/
structure LicenseStep where
  call : LicenseCall
  written : Nat

def licensingMachine (signPayload : LicensePayload → String) :
    Machine LicenseRecordStore LicenseStep where
  step store step :=
    match step.call.perform signPayload store with
    | .error _ => some store
    | .ok performed =>
      some ((performed.writes.take step.written).foldl LicenseRecordStore.put store)

inductive LicenseEvent where
  /-- A new licence was issued from it. -/
  | renewed (id : String)
  /-- It was revoked or transferred. -/
  | ended (id : String)

def LicenseStep.events (step : LicenseStep) : List LicenseEvent :=
  match step.call with
  | .issue _ _ _ | .markActivated _ _ => []
  | .revoke licenseId =>
    if store.has licenseId ∧ 1 ≤ step.written then [.ended licenseId] else []
  | .transfer licenseId _ _ _ =>
    if store.has licenseId then
      (if 2 ≤ step.written then [.renewed licenseId] else []) ++
        (if 1 ≤ step.written then [.ended licenseId] else [])
    else []

def noteStep (step : LicenseStep) (_ : LicenseRecordStore)
    (history : List LicenseEvent) : List LicenseEvent :=
  history ++ step.events store

/-- The second licence supersedes the first one. -/
def Supersedes (id later : String) : Prop :=
  ∃ record, store.get later = some record ∧ record.supersedes = some id

/-- Two licences that supersede, step by step, one licence, which may be one of them. -/
def SameSale (left right : String) : Prop :=
  ∃ original, Relation.ReflTransGen (Supersedes store) original left ∧
    Relation.ReflTransGen (Supersedes store) original right

/-- Nothing is renewed after it has ended. -/
def SourcesLive (history : List LicenseEvent) : Prop :=
  ∀ earlier id later, history = earlier ++ .renewed id :: later → .ended id ∉ earlier

structure LicencesHold (store : LicenseRecordStore) (history : List LicenseEvent) : Prop where
  oneLive : ∀ left right leftRecord rightRecord, SameSale store left right →
    store.get left = some leftRecord → store.get right = some rightRecord →
    leftRecord.status.live = true → rightRecord.status.live = true → left = right
  staysEnded : ∀ id, .ended id ∈ history →
    ∃ record, store.get id = some record ∧ record.status.live = false
  sources : SourcesLive history
  countedOnce : ∀ dealerOrgId, (DealerLicensingService.counted store dealerOrgId).Pairwise
    fun left right => ¬SameSale store left.id right.id

/-- The id that a call draws is new. -/
def drawnFresh (config : LicenseRecordStore × List LicenseEvent) (step : LicenseStep) : Prop :=
  match step.call with
  | .issue _ id _ | .transfer _ _ id _ => config.1.get id = none
  | .markActivated _ _ | .revoke _ => True

def sourceLive (config : LicenseRecordStore × List LicenseEvent) (step : LicenseStep) : Prop :=
  match step.call with
  | .markActivated licenseId _ =>
    1 ≤ step.written → ∀ record ∈ config.1.get licenseId, record.status ≠ .transferred
  | .transfer licenseId _ _ _ =>
    2 ≤ step.written → ∀ record ∈ config.1.get licenseId, record.status.live = true
  | .issue _ _ _ | .revoke _ => True

end SupremeOs.Licensing
