import Mathlib.Data.String.Basic
import SupremeOs.DomainModel.JsValue
import SupremeOs.Support.Lexicographic
import SupremeOs.Support.Machine
import SupremeOs.Support.OrderedMap

/-!
# Releases of the firmware

Versions are compared segment by segment, as numbers where both segments are
numbers and as texts otherwise.  This orders versions of numbers.  Of numbers
and other texts it does not: a text can stand between two numbers that the
numbers' own order has the other way round.

A hub is offered the greatest release of its channel or nothing.  If the
greatest one is not for the hub, it is not offered an older one that is.
-/

namespace SupremeOs.Ota

open Support DomainModel

/-- The sign of a difference, if that is a number; two doubles differ by zero only if equal. -/
def differenceSign : JsNumber → JsNumber → Option Ordering
  | .finite left, .finite right => some (compare left right)
  | .notANumber, _ | _, .notANumber => none
  | .positiveInfinity, .positiveInfinity | .negativeInfinity, .negativeInfinity => none
  | left, right => some (if left.less right then .lt else .gt)

/-- The sign of `cmp` in the loop of `compareVersions`; `order` is that of `localeCompare`. -/
def compareSegments (order : LinearOrder String) (left right : String) : Option Ordering :=
  if textToNumber left = .notANumber ∨ textToNumber right = .notANumber then
    some (order.compare left right)
  else differenceSign (textToNumber left) (textToNumber right)

def segments (version : String) : List String :=
  (version.toList.splitOn '.').map String.ofList

def segment (version : String) (i : Nat) : String := (segments version)[i]?.getD "0"

/-- The sign that the comparison returns; it is nothing where that is not a number. -/
def compareVersions (order : LinearOrder String) (a b : String) : Option Ordering :=
  compareFrom (compareSegments order) (segment a) (segment b)
    (max (segments a).length (segments b).length) 0

inductive Channel where
  | stable
  | beta
  | dev
deriving DecidableEq

structure ReleaseManifest where
  version : String
  channel : Channel
  url : String
  sha256 : String
  minVersion : Option String
  notes : Option String
  publishedAt : Nat
deriving DecidableEq

structure SignedRelease where
  manifest : ReleaseManifest
  signature : String
  rolloutPercent : JsNumber
deriving DecidableEq

abbrev ReleaseStore := OrderedMap Channel (List SignedRelease)

namespace ReleaseStore

def releases (store : ReleaseStore) (channel : Channel) : List SignedRelease :=
  (store.get channel).getD []

def put (store : ReleaseStore) (release : SignedRelease) : ReleaseStore :=
  store.set release.manifest.channel (store.releases release.manifest.channel ++ [release])

/-- The releases from the greatest version on; equal ones stay in their order. -/
def sorted (order : LinearOrder String) (list : List SignedRelease) : List SignedRelease :=
  list.insertionSort fun a b =>
    compareVersions order b.manifest.version a.manifest.version ≠ some .gt

def latestForChannel (order : LinearOrder String) (store : ReleaseStore) (channel : Channel) :
    Option SignedRelease :=
  (sorted order (store.releases channel)).head?

def setFirst (version : String) (percent : JsNumber) : List SignedRelease → List SignedRelease
  | [] => []
  | release :: rest =>
    if release.manifest.version = version then
      { release with
        rolloutPercent := JsNumber.max (.finite 0) (JsNumber.min (.finite 100) percent) } :: rest
    else release :: setFirst version percent rest

def setRollout (store : ReleaseStore) (channel : Channel) (version : String)
    (percent : JsNumber) : ReleaseStore :=
  store.set channel (setFirst version percent (store.releases channel))

end ReleaseStore

inductive Operation where
  | publish (manifest : ReleaseManifest) (rolloutPercent : JsNumber)
  | setRollout (channel : Channel) (version : String) (percent : JsNumber)

/-- The key pair's signatures, the digests, and the order of texts. -/
structure OtaService where
  signPayload : ReleaseManifest → String
  sha256Hex : String → String
  order : LinearOrder String

namespace OtaService

variable (service : OtaService)

def perform (store : ReleaseStore) : Operation → ReleaseStore
  | .publish manifest rolloutPercent =>
    store.put ⟨manifest, service.signPayload manifest, rolloutPercent⟩
  | .setRollout channel version percent => store.setRollout channel version percent

/-- The first 32 bits of a digest, in hundredths of a percent. -/
def rolloutBucket (hubId version : String) : JsNumber :=
  let digest := service.sha256Hex (hubId ++ "|" ++ version)
  JsNumber.divideBy (.finite (((digitsValue 16 0 (digest.toList.take 8)).getD 0 % 10000 : Nat)))
    100

/-- The conditions under which a release is not passed over, one after the other. -/
def eligible (hubId currentVersion : String) (release : SignedRelease) : Bool :=
  !(compareVersions service.order release.manifest.version currentVersion).any Ordering.isLE &&
    ((release.manifest.minVersion.filter fun minimum => minimum ≠ "").all fun minimum =>
      compareVersions service.order currentVersion minimum ≠ some .lt) &&
    !release.rolloutPercent.lessOrEqual
      (service.rolloutBucket hubId release.manifest.version)

def availableFor (store : ReleaseStore) (hubId : String) (channel : Channel)
    (currentVersion : String) : Option SignedRelease :=
  (store.latestForChannel service.order channel).filter
    (service.eligible hubId currentVersion)

end OtaService

def IsNumber (text : String) : Prop := ∃ value, textToNumber text = .finite value

def IsText (text : String) : Prop := textToNumber text = .notANumber

/-- All are finite numbers, or none is a number. -/
def Alike (x y z : String) : Prop :=
  IsNumber x ∧ IsNumber y ∧ IsNumber z ∨ IsText x ∧ IsText y ∧ IsText z

/-- They are not the same infinity, whose difference with itself is not a number. -/
def Subtractable (x y : String) : Prop :=
  textToNumber x = textToNumber y →
    textToNumber x ≠ .positiveInfinity ∧ textToNumber x ≠ .negativeInfinity

def DottedNumeric (version : String) : Prop := ∀ text ∈ segments version, IsNumber text

instance (text : String) : Decidable (IsNumber text) :=
  decidable_of_iff (textToNumber text ≠ .notANumber ∧ textToNumber text ≠ .positiveInfinity ∧
    textToNumber text ≠ .negativeInfinity) (by unfold IsNumber; cases textToNumber text <;> simp)

instance (version : String) : Decidable (DottedNumeric version) :=
  inferInstanceAs (Decidable (∀ text ∈ segments version, _))

section Compare

theorem compare_opposite {α : Type} (order : LinearOrder α) (x y : α) :
    Opposed (some (order.compare x y)) (some (order.compare y x)) := by
  refine ⟨_, rfl, congrArg some ?_⟩
  rcases lt_trichotomy x y with below | rfl | above
  · rw [compare_lt_iff_lt.mpr below, compare_gt_iff_gt.mpr below]
    rfl
  · rw [compare_eq_iff_eq.mpr rfl]
    rfl
  · rw [compare_lt_iff_lt.mpr above, compare_gt_iff_gt.mpr above]
    rfl

theorem compare_composes {α : Type} (order : LinearOrder α) (x y z : α) :
    Composes (some (order.compare x y)) (some (order.compare y z)) (some (order.compare x z)) := by
  rintro left right ⟨⟩ ⟨⟩ leftLE rightLE
  rcases (compare_le_iff_le.mp (Ordering.isLE_iff_ne_gt.mp leftLE)).lt_or_eq with first | rfl <;>
    rcases (compare_le_iff_le.mp (Ordering.isLE_iff_ne_gt.mp rightLE)).lt_or_eq with second | rfl
  · rw [compare_lt_iff_lt.mpr first, compare_lt_iff_lt.mpr (first.trans second)]
    rfl
  · rw [compare_lt_iff_lt.mpr first]
    rfl
  · rw [compare_eq_iff_eq.mpr rfl]
    rfl
  · rw [compare_eq_iff_eq.mpr rfl]
    rfl

variable (order : LinearOrder String) {a b c x y z : String}

theorem differenceSign_opposite {left right : JsNumber} (leftNumber : left ≠ .notANumber)
    (rightNumber : right ≠ .notANumber)
    (apart : left = right → left ≠ .positiveInfinity ∧ left ≠ .negativeInfinity) :
    Opposed (differenceSign left right) (differenceSign right left) := by
  cases left <;> cases right
  case finite.finite left right => exact compare_opposite _ left right
  all_goals simp_all [Opposed, differenceSign, JsNumber.less]

theorem compareSegments_opposite (apart : Subtractable x y) :
    Opposed (compareSegments order x y) (compareSegments order y x) := by
  unfold compareSegments
  by_cases text : textToNumber x = .notANumber ∨ textToNumber y = .notANumber
  · rw [if_pos text, if_pos text.symm]
    exact compare_opposite order x y
  · rw [if_neg text, if_neg (mt Or.symm text)]
    exact differenceSign_opposite (fun h => text (.inl h)) (fun h => text (.inr h)) apart

theorem compareSegments_composes (alike : Alike x y z) :
    Composes (compareSegments order x y) (compareSegments order y z)
      (compareSegments order x z) := by
  rcases alike with ⟨⟨first, one⟩, ⟨second, two⟩, third, three⟩ | ⟨one, two, three⟩
  · simp only [compareSegments, one, two, three]
    exact compare_composes _ first second third
  · simp only [IsText] at one two three
    simp only [compareSegments, one, two]
    exact compare_composes order x y z

theorem textToNumber_zero : textToNumber "0" = .finite 0 := by decide +kernel

theorem segment_of_length_le {version : String} {i : Nat}
    (beyond : (segments version).length ≤ i) : segment version i = "0" := by
  rw [segment, List.getElem?_eq_none beyond, Option.getD_none]

theorem compareVersions_eq {count : Nat} (left : (segments a).length ≤ count)
    (right : (segments b).length ≤ count) :
    compareVersions order a b =
      compareFrom (compareSegments order) (segment a) (segment b) count 0 := by
  obtain ⟨more, rfl⟩ := Nat.exists_eq_add_of_le (Nat.max_le.mpr ⟨left, right⟩)
  refine (compareFrom_extend fun j beyond => ?_).symm
  rw [segment_of_length_le (by omega), segment_of_length_le (by omega)]
  simp [compareSegments, textToNumber_zero, differenceSign]

theorem compareVersions_opposite (apart : ∀ i, Subtractable (segment a i) (segment b i)) :
    Opposed (compareVersions order a b) (compareVersions order b a) := by
  rw [compareVersions, compareVersions, max_comm]
  exact compareFrom_opposite (fun i => compareSegments_opposite order (apart i)) _ 0

theorem compareVersions_composes (alike : ∀ i, Alike (segment a i) (segment b i) (segment c i)) :
    Composes (compareVersions order a b) (compareVersions order b c)
      (compareVersions order a c) := by
  let count := (segments a).length + (segments b).length + (segments c).length
  rw [@compareVersions_eq order a b count (by omega) (by omega), @compareVersions_eq order b c count
    (by omega) (by omega), @compareVersions_eq order a c count (by omega) (by omega)]
  exact compareFrom_composes (fun i => compareSegments_composes order (alike i)) _ 0

end Compare

section Latest

variable {order : LinearOrder String}

theorem versions_opposite {list : List SignedRelease}
    (alike : ∀ one ∈ list, ∀ two ∈ list, ∀ three ∈ list, ∀ i,
      Alike (segment one.manifest.version i) (segment two.manifest.version i)
        (segment three.manifest.version i)) :
    ∀ one ∈ list, ∀ two ∈ list,
      Opposed (compareVersions order one.manifest.version two.manifest.version)
        (compareVersions order two.manifest.version one.manifest.version) := by
  intro one first two second
  refine compareVersions_opposite order fun i same => ?_
  rcases alike one first two second two second i with ⟨⟨value, number⟩, _⟩ | ⟨text, _⟩
  · simp [number]
  · have text : textToNumber _ = JsNumber.notANumber := text
    simp [text]

/-- What the sorting begins with, where the versions of all releases are alike. -/
theorem latest_spec {list : List SignedRelease} {latest : SignedRelease}
    (alike : ∀ one ∈ list, ∀ two ∈ list, ∀ three ∈ list, ∀ i,
      Alike (segment one.manifest.version i) (segment two.manifest.version i)
        (segment three.manifest.version i))
    (found : (ReleaseStore.sorted order list).head? = some latest) :
    latest ∈ list ∧ ∀ release ∈ list,
      (compareVersions order release.manifest.version latest.manifest.version).any
        Ordering.isLE := by
  have opposite := @versions_opposite order list alike
  have below : ∀ one ∈ list, ∀ two ∈ list,
      compareVersions order one.manifest.version two.manifest.version ≠ some .gt →
        ∃ sign, compareVersions order one.manifest.version two.manifest.version = some sign ∧
          sign.isLE := by
    intro one first two second notAbove
    rcases opposite one first two second with ⟨sign, compared, _⟩
    refine ⟨sign, compared, Ordering.isLE_iff_ne_gt.mpr ?_⟩
    rintro rfl
    exact notAbove compared
  have precedes := @head_insertionSort SignedRelease (fun a b =>
    compareVersions order b.manifest.version a.manifest.version ≠ some .gt) _ list latest
  obtain ⟨member, leads⟩ := by
    refine precedes ?_ ?_ found
    · intro one first two second three third twoOne threeTwo
      rcases below two second one first twoOne with ⟨left, compared, leftLE⟩
      rcases below three third two second threeTwo with ⟨right, compared', rightLE⟩
      rw [compareVersions_composes order (alike three third two second one first) _ _ compared'
        compared rightLE leftLE]
      revert leftLE rightLE
      cases left <;> cases right <;> decide
    · intro one first two second
      rcases opposite two second one first with ⟨sign, forward, backward⟩
      rw [forward, backward]
      cases sign <;> simp
  refine ⟨member, fun release inside => ?_⟩
  rcases below release inside latest member (leads release inside) with ⟨sign, compared, le⟩
  rw [compared]
  exact le

theorem latest_of_perm {list other : List SignedRelease} (perm : list.Perm other)
    (alike : ∀ one ∈ list, ∀ two ∈ list, ∀ three ∈ list, ∀ i,
      Alike (segment one.manifest.version i) (segment two.manifest.version i)
        (segment three.manifest.version i))
    (apart : list.Pairwise fun one two =>
      compareVersions order one.manifest.version two.manifest.version ≠ some .eq) :
    (ReleaseStore.sorted order list).head? = (ReleaseStore.sorted order other).head? := by
  have sorts : (ReleaseStore.sorted order list).Perm (ReleaseStore.sorted order other) :=
    (List.perm_insertionSort _ list).trans (perm.trans (List.perm_insertionSort _ other).symm)
  cases found : (ReleaseStore.sorted order list).head? with
  | none =>
    rw [List.head?_eq_none_iff] at found
    rw [found] at sorts
    rw [List.nil_perm.mp sorts, List.head?_nil]
  | some latest =>
    cases found' : (ReleaseStore.sorted order other).head? with
    | none =>
      rw [List.head?_eq_none_iff] at found'
      rw [found'] at sorts
      rw [List.perm_nil.mp sorts] at found
      cases found
    | some latest' =>
      rcases latest_spec alike found with ⟨member, above⟩
      rcases latest_spec (fun one first two second three third =>
        alike one (perm.mem_iff.mpr first) two (perm.mem_iff.mpr second) three
          (perm.mem_iff.mpr third)) found' with ⟨member', above'⟩
      have listed := perm.mem_iff.mpr member'
      by_contra differ
      have distinct : latest ≠ latest' := fun same => differ (congrArg some same)
      let Apart (one two : SignedRelease) : Prop :=
        compareVersions order one.manifest.version two.manifest.version ≠ some .eq ∨
          compareVersions order two.manifest.version one.manifest.version ≠ some .eq
      have : Std.Symm Apart := ⟨fun _ _ => Or.symm⟩
      have differs : Apart latest latest' :=
        (apart.imp (S := Apart) .inl).forall member listed distinct
      rcases versions_opposite alike latest member latest' listed with
        ⟨sign, forward, backward⟩
      have below := above latest' listed
      have below' := above' latest (perm.mem_iff.mp member)
      simp only [Apart] at differs
      rw [backward] at below
      cases sign <;> simp_all

/-- Whatever the order of publishing: all versions are compared alike, and differently. -/
structure OrdersVersions (order : LinearOrder String) : Prop where
  opposite : ∀ a b, (∀ i, Subtractable (segment a i) (segment b i)) →
    Opposed (compareVersions order a b) (compareVersions order b a)
  transitive : ∀ a b c, (∀ i, Alike (segment a i) (segment b i) (segment c i)) →
    (compareVersions order a b).any Ordering.isLE → (compareVersions order b c).any Ordering.isLE →
        (compareVersions order a c).any Ordering.isLE
  latest : ∀ (list other : List SignedRelease) (channel : Channel), list.Perm other →
    (∀ one ∈ list, ∀ two ∈ list, ∀ three ∈ list, ∀ i,
      Alike (segment one.manifest.version i) (segment two.manifest.version i)
        (segment three.manifest.version i)) → list.Pairwise (fun one two =>
      compareVersions order one.manifest.version two.manifest.version ≠ some .eq) →
    (list.foldl ReleaseStore.put OrderedMap.empty).latestForChannel order channel =
      (other.foldl ReleaseStore.put OrderedMap.empty).latestForChannel order channel

theorem releases_put (store : ReleaseStore) (release : SignedRelease) (channel : Channel) :
    (store.put release).releases channel =
      store.releases channel ++ [release].filter fun other => other.manifest.channel = channel := by
  rw [ReleaseStore.releases, ReleaseStore.put, OrderedMap.get_set]
  by_cases same : channel = release.manifest.channel
  · subst same
    simp
  · simp [ReleaseStore.releases, same, Ne.symm same]

theorem releases_foldl_put (list : List SignedRelease) (store : ReleaseStore) (channel : Channel) :
    (list.foldl ReleaseStore.put store).releases channel =
      store.releases channel ++ list.filter fun other => other.manifest.channel = channel := by
  induction list generalizing store with
  | nil => simp
  | cons release rest ih =>
    rw [List.foldl_cons, ih, releases_put, List.append_assoc, ← List.filter_append]
    rfl

/-- Versions whose segments are alike are ordered, and the greatest is the same in any order. -/
theorem compareVersions_orders (order : LinearOrder String) : OrdersVersions order where
  opposite _ _ apart := compareVersions_opposite order apart
  transitive a b c alike below below' := by
    rw [Option.any_eq_true] at below below' ⊢
    rcases below with ⟨left, compared, leftLE⟩
    rcases below' with ⟨right, compared', rightLE⟩
    refine ⟨_, compareVersions_composes order alike _ _ compared compared' leftLE rightLE, ?_⟩
    revert leftLE rightLE
    cases left <;> cases right <;> decide
  latest list other channel perm alike apart := by
    have nothing : ReleaseStore.releases OrderedMap.empty channel = [] := rfl
    rw [ReleaseStore.latestForChannel, ReleaseStore.latestForChannel, releases_foldl_put,
      releases_foldl_put, nothing, List.nil_append, List.nil_append]
    have perm := perm.filter fun release => release.manifest.channel = channel
    refine latest_of_perm perm (fun one first two second three third => ?_) (apart.filter _)
    exact alike one (List.mem_of_mem_filter first) two (List.mem_of_mem_filter second) three
      (List.mem_of_mem_filter third)

end Latest

/-- Nine is before ten and ten before `5a`, which is before nine. -/
theorem compareVersions_not_transitive :
    ¬ ∀ (order : LinearOrder String) (a b c : String),
      (compareVersions order a b).any Ordering.isLE →
        (compareVersions order b c).any Ordering.isLE →
          (compareVersions order a c).any Ordering.isLE := by
  intro transitive
  have wrong := transitive inferInstance "9" "10" "5a" (by decide +kernel) (by decide +kernel)
  revert wrong
  decide +kernel

namespace OtaService

variable (service : OtaService)

def after (operations : List Operation) : ReleaseStore :=
  operations.foldl service.perform OrderedMap.empty

/-- A release is offered exactly if one is eligible, and then a greatest of those. -/
structure OffersBest (store : ReleaseStore) (hubId : String) (channel : Channel)
    (currentVersion : String) : Prop where
  offers : (service.availableFor store hubId channel currentVersion).isSome ↔
    ∃ release ∈ store.releases channel, service.eligible hubId currentVersion release = true
  best : ∀ offered, service.availableFor store hubId channel currentVersion = some offered →
    offered ∈ store.releases channel ∧ service.eligible hubId currentVersion offered = true ∧
      ∀ release ∈ store.releases channel, service.eligible hubId currentVersion release = true →
        (compareVersions service.order release.manifest.version
          offered.manifest.version).any Ordering.isLE

/-- The version that is published consists of numbers. -/
def Operation.Numeric : Operation → Prop
  | .publish manifest _ => DottedNumeric manifest.version
  | .setRollout _ _ _ => True

instance : ∀ operation, Decidable (Operation.Numeric operation) := by
  intro operation
  unfold Operation.Numeric
  split <;> infer_instance

def AllNumeric (store : ReleaseStore) : Prop :=
  ∀ channel, ∀ release ∈ store.releases channel, DottedNumeric release.manifest.version

theorem isNumber_segment {version : String} (numeric : DottedNumeric version) (i : Nat) :
    IsNumber (segment version i) := by
  rw [segment]
  cases found : (segments version)[i]? with
  | none => exact ⟨0, textToNumber_zero⟩
  | some text => exact numeric text (List.mem_of_getElem? found)

theorem version_of_mem_setFirst {version : String} {percent : JsNumber} {release : SignedRelease}
    {list : List SignedRelease} (member : release ∈ ReleaseStore.setFirst version percent list) :
    ∃ old ∈ list, old.manifest = release.manifest := by
  induction list with
  | nil => cases member
  | cons first rest ih =>
    rw [ReleaseStore.setFirst] at member
    split at member
    · rcases List.mem_cons.mp member with rfl | inside
      · exact ⟨first, .head _, rfl⟩
      · exact ⟨release, .tail _ inside, rfl⟩
    · rcases List.mem_cons.mp member with rfl | inside
      · exact ⟨release, .head _, rfl⟩
      · rcases ih inside with ⟨old, there, same⟩
        exact ⟨old, .tail _ there, same⟩

theorem allNumeric_perform {store : ReleaseStore} {operation : Operation}
    (all : AllNumeric store) (numeric : Operation.Numeric operation) :
    AllNumeric (service.perform store operation) := by
  intro channel release member
  cases operation with
  | publish manifest rolloutPercent =>
    rw [perform, releases_put] at member
    rcases List.mem_append.mp member with old | new
    · exact all channel release old
    · obtain rfl := List.mem_singleton.mp (List.mem_of_mem_filter new)
      exact numeric
  | setRollout other version percent =>
    rw [perform, ReleaseStore.setRollout, ReleaseStore.releases, OrderedMap.get_set] at member
    split at member
    · rcases version_of_mem_setFirst member with ⟨old, there, same⟩
      exact same ▸ all other old there
    · exact all channel release member

theorem allNumeric_after {operations : List Operation}
    (numeric : ∀ operation ∈ operations, Operation.Numeric operation) :
    AllNumeric (service.after operations) := by
  refine List.foldlRecOn (motive := AllNumeric) _ _ (fun _ _ member => ?_) ?_
  · cases member
  · exact fun store all operation member =>
      service.allNumeric_perform all (numeric operation member)

theorem offersBest_iff {store : ReleaseStore} (all : AllNumeric store)
    (hubId : String) (channel : Channel) (currentVersion : String) :
    service.OffersBest store hubId channel currentVersion ↔
      (∃ latest, store.latestForChannel service.order channel = some latest ∧
        service.eligible hubId currentVersion latest = true) ∨ ∀ release ∈ store.releases channel,
        service.eligible hubId currentVersion release = false := by
  have spec : ∀ latest, store.latestForChannel service.order channel = some latest → _ :=
    fun latest found => latest_spec (fun one first two second three third i =>
      .inl ⟨isNumber_segment (all channel one first) i, isNumber_segment (all channel two second) i,
        isNumber_segment (all channel three third) i⟩) found
  constructor
  · intro good
    by_cases some_ : ∃ release ∈ store.releases channel,
        service.eligible hubId currentVersion release = true
    · rcases Option.isSome_iff_exists.mp (good.offers.mpr some_) with ⟨offered, available⟩
      rcases Option.filter_eq_some_iff.mp available with ⟨found, eligible⟩
      exact .inl ⟨offered, found, eligible⟩
    · exact .inr fun release member => eq_false_of_ne_true fun eligible =>
        some_ ⟨release, member, eligible⟩
  · rintro (⟨latest, found, eligible⟩ | none)
    · rcases spec latest found with ⟨member, above⟩
      have offered : service.availableFor store hubId channel currentVersion = some latest :=
        Option.filter_eq_some_iff.mpr ⟨found, eligible⟩
      refine ⟨⟨fun _ => ⟨latest, member, eligible⟩, fun _ => by rw [offered]; rfl⟩, ?_⟩
      intro other available
      cases offered.symm.trans available
      exact ⟨member, eligible, fun release inside _ => above release inside⟩
    · have never : ∀ offered, service.availableFor store hubId channel currentVersion =
          some offered → False := by
        intro offered available
        rcases Option.filter_eq_some_iff.mp available with ⟨found, eligible⟩
        rw [none offered (spec offered found).1] at eligible
        cases eligible
      refine ⟨⟨fun offers => ?_, ?_⟩, fun offered available => (never offered available).elim⟩
      · rcases Option.isSome_iff_exists.mp offers with ⟨offered, available⟩
        exact (never offered available).elim
      · rintro ⟨release, member, eligible⟩
        rw [none release member] at eligible
        cases eligible

/--
A hub is offered the best release it is entitled to exactly if that is the
greatest of its channel, or there is none.
-/
theorem availableFor_offersBest_iff (operations : List Operation)
    (numeric : ∀ operation ∈ operations, Operation.Numeric operation)
    (hubId : String) (channel : Channel) (currentVersion : String) :
    service.OffersBest (service.after operations) hubId channel currentVersion ↔
      (∃ latest, (service.after operations).latestForChannel service.order channel =
          some latest ∧ service.eligible hubId currentVersion latest = true) ∨
      ∀ release ∈ (service.after operations).releases channel,
        service.eligible hubId currentVersion release = false :=
  service.offersBest_iff (service.allNumeric_after numeric) hubId channel currentVersion

/-- A service whose digests are all zeros, so that every hub is in the first bucket. -/
def plain : OtaService := ⟨fun _ => "", fun _ => "00000000", inferInstance⟩

def manifest (version : String) : ReleaseManifest := ⟨version, .stable, "", "", none, none, 0⟩

/-- A release for everyone, and the greatest one. -/
theorem offersBest_released :
    plain.OffersBest (plain.after [.publish (manifest "1.1") (.finite 100)]) "hub" .stable
      "1.0" := by
  exact (plain.availableFor_offersBest_iff _ (by decide +kernel) _ _ _).mpr
    (.inl ⟨_, rfl, by decide +kernel⟩)

/-- A newer release that is for nobody yet hides the one that is for everybody. -/
theorem offersBest_fails_staged :
    ¬ ∀ (service : OtaService) (operations : List Operation),
      (∀ operation ∈ operations, Operation.Numeric operation) → ∀ hubId channel currentVersion,
          service.OffersBest (service.after operations) hubId channel currentVersion := by
  intro best
  have offers := (best plain [.publish (manifest "1.1") (.finite 100),
    .publish (manifest "2.0") (.finite 0)] (by decide +kernel) "hub" .stable "1.0").offers
  revert offers
  decide +kernel

end OtaService

end SupremeOs.Ota
