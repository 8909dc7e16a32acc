import SupremeOs.Support.Interleaving
import Mathlib.Data.Finset.Basic
import Mathlib.Data.List.Sort

/-!
# The license service

The service merges what its providers grant into one effective license.  A
refresh asks all providers at once and goes on when all of them have answered; a
provider that rejects counts as one that grants nothing, one that throws before
it returns a promise makes the refresh fail.

`Date.parse` is a parameter: an instant in milliseconds, or nothing for a text
that is no date.
-/

namespace SupremeOs.License

open Support

inductive LicenseType where
  | developer
  | community
  | home
  | professional
  | enterprise
  | commercial_building
  | hotel
  | oem
  | trial
  | beta
  | internal_testing
  | lifetime
  | subscription
deriving DecidableEq

inductive LicenseTier where
  | community
  | home
  | professional
  | enterprise
deriving DecidableEq

/-- `TIER_RANK`. -/
def tierRank : LicenseTier → Nat
  | .community => 0
  | .home => 1
  | .professional => 2
  | .enterprise => 3

/-- `SOURCE_RANK`, nothing for a source that it does not name. -/
def sourceRank (source : String) : Nat :=
  if source = "developer" then 100
  else if source = "testing" then 80
  else if source = "oem" then 60
  else if source = "offline" then 40
  else if source = "cloud" then 30
  else 0

inductive Granted where
  | all
  | only (items : List String)
deriving DecidableEq

inductive Licensed where
  | all
  | only (items : Finset String)
deriving DecidableEq

structure ProviderGrant where
  source : String
  licenseType : LicenseType
  tier : LicenseTier
  skus : Granted
  features : Granted
  expiresAt : Option String
  devMode : Bool
  licenseId : Option String
deriving DecidableEq

structure EffectiveLicense where
  active : Bool
  devMode : Bool
  licenseType : LicenseType
  tier : LicenseTier
  skus : Licensed
  features : Licensed
  expiresAt : Option String
  source : String
  sources : List String
  licenseId : Option String

/-- `COMMUNITY_DEFAULT`. -/
def communityDefault : EffectiveLicense where
  active := false
  devMode := false
  licenseType := .community
  tier := .community
  skus := .only ∅
  features := .only ∅
  expiresAt := none
  source := "default"
  sources := []
  licenseId := none

def given (text : Option String) : Option String := text.filter fun text => !text.isEmpty

/-- A set, with what a grant names added to it. -/
def Licensed.add : Licensed → Granted → Licensed
  | _, .all => .all
  | .all, .only _ => .all
  | .only items, .only more => .only (more.foldl (fun items item => insert item items) items)

variable (parse : String → Option ℤ)

/-- The earlier of two expiries, the first one unless both are dates and the second is earlier. -/
def earlier (current expiry : String) : String :=
  match parse expiry, parse current with
  | some left, some right => if left < right then expiry else current
  | _, _ => current

structure Merging where
  skus : Licensed
  features : Licensed
  tierRank : Nat
  tier : LicenseTier
  devMode : Bool
  expiresAt : Option String
  sources : List String

def Merging.start : Merging := ⟨.only ∅, .only ∅, 0, .community, false, none, []⟩

def Merging.turn (merging : Merging) (grant : ProviderGrant) : Merging where
  sources := merging.sources ++ [grant.source]
  devMode := merging.devMode || grant.devMode
  skus := merging.skus.add grant.skus
  features := merging.features.add grant.features
  tierRank :=
    if merging.tierRank < License.tierRank grant.tier then License.tierRank grant.tier
    else merging.tierRank
  tier := if merging.tierRank < License.tierRank grant.tier then grant.tier else merging.tier
  expiresAt :=
    match given grant.expiresAt with
    | none => merging.expiresAt
    | some expiry => some (merging.expiresAt.elim expiry fun current =>
      earlier parse current expiry)

def dominant (first : ProviderGrant) (rest : List ProviderGrant) : ProviderGrant :=
  ((first :: rest).insertionSort fun left right =>
    sourceRank right.source ≤ sourceRank left.source).headD first

def mergeGrants : List ProviderGrant → EffectiveLicense
  | [] => communityDefault
  | first :: rest =>
    let merged := (first :: rest).foldl (Merging.turn parse) .start
    { active := true, devMode := merged.devMode, licenseType := (dominant first rest).licenseType
      tier := merged.tier
      skus := merged.skus
      features := merged.features
      expiresAt := merged.expiresAt
      source := (dominant first rest).source
      sources := merged.sources
      licenseId := (dominant first rest).licenseId }

structure DriverRequirements where
  requiresSku : Option String
  requiresFeature : Option String
  minTier : Option LicenseTier

def Licensed.has (item : String) : Licensed → Bool
  | .all => true
  | .only items => decide (item ∈ items)

namespace EffectiveLicense

variable (effective : EffectiveLicense)

def hasSku (sku : String) : Bool := effective.skus.has sku

def hasFeature (feature : String) : Bool := effective.features.has feature

def meetsTier (min : LicenseTier) : Bool := decide (tierRank min ≤ tierRank effective.tier)

/-- May this driver be installed, or the reason why not. -/
def canInstallDriver (req : DriverRequirements) : Except String Unit :=
  match (given req.requiresSku).filter fun sku => !effective.hasSku sku with
  | some sku => .error ("requires the '" ++ sku ++ "' license")
  | none =>
    match (given req.requiresFeature).filter fun feature => !effective.hasFeature feature with
    | some feature => .error ("requires the '" ++ feature ++ "' feature")
    | none =>
      match req.minTier.filter fun min => !effective.meetsTier min with
      | some min => .error ("requires the '" ++ tierName min ++ "' tier or higher")
      | none => .ok ()
where
  tierName : LicenseTier → String
    | .community => "community"
    | .home => "home"
    | .professional => "professional"
    | .enterprise => "enterprise"

end EffectiveLicense

structure LicenseProvider where
  id : String
deriving DecidableEq

inductive Load where
  | resolved (grant : Option ProviderGrant)
  | rejected
deriving DecidableEq

/-- What the refresh makes of it: `.catch(() => null)`. -/
def Load.grant : Load → Option ProviderGrant
  | .resolved grant => grant
  | .rejected => none

/-- A refresh: which one it is, whom it asks and when, and what they have answered so far. -/
structure Refresh where
  number : Nat
  providers : List LicenseProvider
  now : ℤ
  loads : List (Option Load)
deriving DecidableEq

structure ServiceState where
  providers : List LicenseProvider
  effective : EffectiveLicense
  /-- How many refreshes have been started, for an observer. -/
  started : Nat
  /-- The refreshes that have gone through, for an observer. -/
  finished : List Refresh

inductive ServiceRequest where
  /-- `throws` says whose load throws before it returns a promise. -/
  | refresh (now : ℤ) (throws : LicenseProvider → Bool)
  | setProviders (providers : List LicenseProvider) (now : ℤ) (throws : LicenseProvider → Bool)

inductive ServiceReply where
  /-- The load of the provider at this place ends. -/
  | load (index : Nat) (load : Load)
  /-- All of them have ended. -/
  | all

def unexpired (now : ℤ) (grant : ProviderGrant) : Bool :=
  match given grant.expiresAt with
  | none => true
  | some expiry => (parse expiry).any fun instant => decide (now < instant)

def Refresh.grants (refresh : Refresh) : List ProviderGrant :=
  (refresh.loads.filterMap fun load => load.bind Load.grant).filter (unexpired parse refresh.now)

def ServiceState.beginRefresh (state : ServiceState) (now : ℤ) (throws : LicenseProvider → Bool) :
    ServiceState × List Refresh :=
  let next := { state with started := state.started + 1 }
  if state.providers.any throws then (next, [])
  else (next, [⟨state.started, state.providers, now, state.providers.map fun _ => none⟩])

def program : Program ServiceState ServiceRequest Refresh ServiceReply where
  start
    | state, .refresh now throws => state.beginRefresh now throws
    | state, .setProviders providers now throws =>
      { state with providers }.beginRefresh now throws
  resume
    | state, refresh, .load index load =>
      if refresh.loads[index]? = some none then
        some (state, [{ refresh with loads := refresh.loads.set index (some load) }])
      else none
    | state, refresh, .all =>
      if refresh.loads.all Option.isSome then
        let next := { state with
          effective := mergeGrants parse (refresh.grants parse)
          finished := state.finished ++ [refresh] }
        some (next, [])
      else none

/-- A service that has just been made. -/
def start (providers : List LicenseProvider) : Config ServiceState Refresh :=
  Program.idle ⟨providers, communityDefault, 0, []⟩

end SupremeOs.License
