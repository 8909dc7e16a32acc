import SupremeOs.License.LicenseService
import Mathlib

/-!
# Merging grants

What a grant entitles to is a member of a lattice: sets with everything on top,
the rank of a tier and the developer mode.  A merge is the join of its grants in
this lattice, so the order of the grants does not matter and a further grant
takes nothing away.

The expiry of a merge is the earliest one if all expiries are dates.  If some are
and others are not, it depends on the order.
-/

namespace SupremeOs.License

open List Option

variable {parse : String → Option ℤ}

/-- Two licenses agree in what they entitle to and in when they expire. -/
structure SameLicense (parse : String → Option ℤ) (left right : EffectiveLicense) : Prop where
  skus : left.skus = right.skus
  features : left.features = right.features
  tier : left.tier = right.tier
  devMode : left.devMode = right.devMode
  expiresAt : left.expiresAt.map parse = right.expiresAt.map parse

structure EntitlesTo (less more : EffectiveLicense) : Prop where
  hasSku : ∀ sku, less.hasSku sku = true → more.hasSku sku = true
  hasFeature : ∀ feature, less.hasFeature feature = true → more.hasFeature feature = true
  meetsTier : ∀ min, less.meetsTier min = true → more.meetsTier min = true
  devMode : less.devMode = true → more.devMode = true
  canInstallDriver : ∀ req, less.canInstallDriver req = .ok () → more.canInstallDriver req = .ok ()

def expiries (grants : List ProviderGrant) : List String :=
  grants.filterMap fun grant => given grant.expiresAt

/-- Either all expiries are dates or none of them is. -/
def datedAlike (parse : String → Option ℤ) (grants : List ProviderGrant) : Prop :=
  (∀ expiry ∈ expiries grants, (parse expiry).isSome = true) ∨
    ∀ expiry ∈ expiries grants, parse expiry = none

/-- SKUs, features, the rank of the tier and the developer mode. -/
abbrev Entitlements := WithTop (Finset String) × WithTop (Finset String) × ℕ × Bool

def Licensed.toTop : Licensed → WithTop (Finset String)
  | .all => ⊤
  | .only items => items

def Granted.toTop : Granted → WithTop (Finset String)
  | .all => ⊤
  | .only items => (items.toFinset : Finset String)

theorem foldl_insert (items : Finset String) (more : List String) :
    more.foldl (fun items item => insert item items) items = items ∪ more.toFinset := by
  induction more generalizing items with
  | nil => simp
  | cons item rest ih =>
    rw [foldl_cons, ih]
    ext other
    simp only [Finset.mem_union, Finset.mem_insert, toFinset_cons]
    tauto

theorem toTop_add (licensed : Licensed) (granted : Granted) :
    (licensed.add granted).toTop = licensed.toTop ⊔ granted.toTop := by
  cases granted with
  | all => cases licensed <;> simp [Licensed.add, Licensed.toTop, Granted.toTop]
  | only more =>
    cases licensed with
    | all => simp [Licensed.add, Licensed.toTop]
    | only items =>
      simp only [Licensed.add, Licensed.toTop, Granted.toTop, foldl_insert]
      rfl

theorem toTop_injective : Function.Injective Licensed.toTop := by
  intro left right equal
  cases left <;> cases right <;> simp_all [Licensed.toTop]

theorem has_of_toTop_le {less more : Licensed} (below : less.toTop ≤ more.toTop) {item : String}
    (has : less.has item = true) : more.has item = true := by
  cases more with
  | all => rfl
  | only items =>
    cases less with
    | all => simp [Licensed.toTop] at below
    | only fewer =>
      simp only [Licensed.toTop, WithTop.coe_le_coe] at below
      simp only [Licensed.has, decide_eq_true_eq] at has ⊢
      exact below has

theorem tierRank_injective : Function.Injective tierRank := by
  intro left right equal
  cases left <;> cases right <;> simp_all [tierRank]

def ProviderGrant.entitlements (grant : ProviderGrant) : Entitlements :=
  (grant.skus.toTop, grant.features.toTop, tierRank grant.tier, grant.devMode)

def EffectiveLicense.entitlements (effective : EffectiveLicense) : Entitlements :=
  (effective.skus.toTop, effective.features.toTop, tierRank effective.tier, effective.devMode)

def Merging.entitlements (merging : Merging) : Entitlements :=
  (merging.skus.toTop, merging.features.toTop, merging.tierRank, merging.devMode)

theorem entitlements_turn (merging : Merging) (grant : ProviderGrant) :
    (merging.turn parse grant).entitlements = merging.entitlements ⊔ grant.entitlements := by
  simp only [Merging.entitlements, Merging.turn, ProviderGrant.entitlements, toTop_add,
    Prod.mk_sup_mk]
  congr 3
  split
  · rename_i higher
    exact (max_eq_right higher.le).symm
  · rename_i lower
    exact (max_eq_left (not_lt.mp lower)).symm

theorem tierRank_turn (merging : Merging) (grant : ProviderGrant)
    (ranked : merging.tierRank = tierRank merging.tier) :
    (merging.turn parse grant).tierRank = tierRank (merging.turn parse grant).tier := by
  simp only [Merging.turn]
  split
  · rfl
  · exact ranked

theorem entitlements_foldl_turn (parse : String → Option ℤ) (grants : List ProviderGrant)
    (merging : Merging) :
    (grants.foldl (Merging.turn parse) merging).entitlements =
      merging.entitlements ⊔ (grants.map ProviderGrant.entitlements :
        Multiset Entitlements).sup := by
  induction grants generalizing merging with
  | nil => simp
  | cons grant rest ih =>
    rw [foldl_cons, ih, entitlements_turn, map_cons, ← Multiset.cons_coe,
      Multiset.sup_cons, sup_assoc]

theorem tierRank_foldl_turn (parse : String → Option ℤ) (grants : List ProviderGrant)
    (merging : Merging) (ranked : merging.tierRank = tierRank merging.tier) :
    (grants.foldl (Merging.turn parse) merging).tierRank =
      tierRank (grants.foldl (Merging.turn parse) merging).tier := by
  induction grants generalizing merging with
  | nil => exact ranked
  | cons grant rest ih => exact ih _ (tierRank_turn merging grant ranked)

theorem entitlements_mergeGrants (parse : String → Option ℤ) (grants : List ProviderGrant) :
    (mergeGrants parse grants).entitlements =
      (grants.map ProviderGrant.entitlements : Multiset Entitlements).sup := by
  cases grants with
  | nil => rfl
  | cons first rest =>
    have joined := entitlements_foldl_turn parse (first :: rest) .start
    have ranked := tierRank_foldl_turn parse (first :: rest) .start rfl
    have empty : Merging.start.entitlements = ⊥ := rfl
    rw [empty, bot_sup_eq] at joined
    rw [← joined, Merging.entitlements, ranked]
    rfl

theorem sameLicense_of_entitlements {left right : EffectiveLicense}
    (same : left.entitlements = right.entitlements)
    (expiresAt : left.expiresAt.map parse = right.expiresAt.map parse) :
    SameLicense parse left right := by
  simp only [EffectiveLicense.entitlements, Prod.mk.injEq] at same
  exact ⟨toTop_injective same.1, toTop_injective same.2.1, tierRank_injective same.2.2.1,
    same.2.2.2, expiresAt⟩

theorem filter_eq_none_of_imp {Item : Type*} {option : Option Item} {left right : Item → Bool}
    (imp : ∀ item, right item = true → left item = true) (none : option.filter left = none) :
    option.filter right = .none := by
  rw [filter_eq_none_iff] at none ⊢
  exact fun item found holds => none item found (imp item holds)

theorem canInstallDriver_eq_ok (effective : EffectiveLicense) (req : DriverRequirements) :
    effective.canInstallDriver req = .ok () ↔
      ((given req.requiresSku).filter fun sku => !effective.hasSku sku) = none ∧
      ((given req.requiresFeature).filter fun feature => !effective.hasFeature feature) = none ∧
      (req.minTier.filter fun min => !effective.meetsTier min) = none := by
  simp only [EffectiveLicense.canInstallDriver]
  split
  · rename_i sku missing
    simp [missing]
  · rename_i skus
    split
    · rename_i feature missing
      simp [missing]
    · rename_i features
      split
      · rename_i min missing
        simp [missing]
      · rename_i tiers
        simp [skus, features, tiers]

theorem entitlesTo_of_le {less more : EffectiveLicense}
    (below : less.entitlements ≤ more.entitlements) : EntitlesTo less more := by
  rcases below with ⟨skus, features, tier, devMode⟩
  have hasSku : ∀ sku, less.hasSku sku = true → more.hasSku sku = true :=
    fun sku => has_of_toTop_le skus
  have hasFeature : ∀ feature, less.hasFeature feature = true → more.hasFeature feature = true :=
    fun feature => has_of_toTop_le features
  have meetsTier : ∀ min, less.meetsTier min = true → more.meetsTier min = true := by
    intro min meets
    simp only [EffectiveLicense.meetsTier, decide_eq_true_eq] at meets ⊢
    exact meets.trans tier
  refine ⟨hasSku, hasFeature, meetsTier, fun on => devMode on, fun req allowed => ?_⟩
  rw [canInstallDriver_eq_ok] at allowed ⊢
  refine ⟨filter_eq_none_of_imp (fun sku missing => ?_) allowed.1,
    filter_eq_none_of_imp (fun feature missing => ?_) allowed.2.1,
    filter_eq_none_of_imp (fun min missing => ?_) allowed.2.2⟩
  · simpa using mt (hasSku sku) (by simpa using missing)
  · simpa using mt (hasFeature feature) (by simpa using missing)
  · simpa using mt (meetsTier min) (by simpa using missing)

theorem mergeGrants_entitlesTo (parse : String → Option ℤ) (before after : List ProviderGrant)
    (grant : ProviderGrant) :
    EntitlesTo (mergeGrants parse (before ++ after)) (mergeGrants parse (before ++ grant
      :: after)) := by
  apply entitlesTo_of_le
  rw [entitlements_mergeGrants, entitlements_mergeGrants]
  refine Multiset.sup_mono ?_
  rw [Multiset.coe_subset]
  refine map_subset _ fun other member => ?_
  simp only [mem_append, mem_cons] at member ⊢
  exact member.imp_right .inr

variable {current expiry : String} {grants : List ProviderGrant}

theorem entitlements_perm {order : List ProviderGrant} (perm : order.Perm grants) :
    (mergeGrants parse order).entitlements = (mergeGrants parse grants).entitlements := by
  rw [entitlements_mergeGrants, entitlements_mergeGrants,
    Multiset.coe_eq_coe.mpr (perm.map ProviderGrant.entitlements)]

/-- The expiry that binds a merge. -/
def binding (parse : String → Option ℤ) : List String → Option String
  | [] => none
  | first :: rest => some (rest.foldl (earlier parse) first)

theorem expiresAt_foldl_turn (grants : List ProviderGrant) (merging : Merging) :
    (grants.foldl (Merging.turn parse) merging).expiresAt =
      binding parse (merging.expiresAt.toList ++ expiries grants) := by
  induction grants generalizing merging with
  | nil =>
    cases found : merging.expiresAt <;> simp [found, expiries, binding]
  | cons grant rest ih =>
    rw [foldl_cons, ih]
    cases own : given grant.expiresAt with
    | none => simp [Merging.turn, own, expiries]
    | some expiry =>
      cases found : merging.expiresAt <;>
        simp [Merging.turn, own, found, expiries, binding]

theorem expiresAt_mergeGrants (grants : List ProviderGrant) :
    (mergeGrants parse grants).expiresAt = binding parse (expiries grants) := by
  cases grants with
  | nil => rfl
  | cons first rest => exact expiresAt_foldl_turn (first :: rest) .start

def instant (parse : String → Option ℤ) (expiry : String) : WithTop ℤ := (parse expiry).elim ⊤ (↑)

theorem earlier_of_unreadable (unreadable : parse current = none)
    (expiry : String) : earlier parse current expiry = current := by
  rw [earlier, unreadable]
  cases parse expiry <;> rfl

theorem foldl_earlier_of_unreadable (unreadable : parse current = none)
    (rest : List String) : rest.foldl (earlier parse) current = current := by
  induction rest with
  | nil => rfl
  | cons expiry rest ih => rw [foldl_cons, earlier_of_unreadable unreadable, ih]

section

variable (readable : (parse current).isSome = true)

include readable

theorem isSome_earlier
    (expiry : String) : (parse (earlier parse current expiry)).isSome = true := by
  rw [earlier]
  split
  · rename_i left right found _
    split
    · rw [found]
      rfl
    · exact readable
  · exact readable

theorem isSome_foldl_earlier
    (rest : List String) : (parse (rest.foldl (earlier parse) current)).isSome = true := by
  induction rest generalizing current with
  | nil => exact readable
  | cons expiry rest ih => exact ih (isSome_earlier readable expiry)

theorem instant_earlier (dated : (parse expiry).isSome = true) :
    instant parse (earlier parse current expiry) = instant parse current ⊓ instant
      parse expiry := by
  rcases isSome_iff_exists.mp readable with ⟨right, currentAt⟩
  rcases isSome_iff_exists.mp dated with ⟨left, expiryAt⟩
  simp only [earlier, currentAt, expiryAt]
  split
  · rename_i below
    simp only [instant, currentAt, expiryAt, elim_some]
    exact (inf_eq_right.mpr (WithTop.coe_le_coe.mpr below.le)).symm
  · rename_i above
    simp only [instant, currentAt, expiryAt, elim_some]
    exact (inf_eq_left.mpr (WithTop.coe_le_coe.mpr (not_lt.mp above))).symm

theorem instant_foldl_earlier {rest : List String}
    (dated : ∀ expiry ∈ rest, (parse expiry).isSome = true) :
    instant parse (rest.foldl (earlier parse) current) =
      instant parse current ⊓ (rest.map (instant parse) : Multiset (WithTop ℤ)).inf := by
  induction rest generalizing current with
  | nil => simp
  | cons expiry rest ih =>
    rw [foldl_cons, ih (isSome_earlier readable expiry) fun other member =>
        dated other (.tail _ member),
      instant_earlier readable (dated expiry (.head _)), map_cons,
      ← Multiset.cons_coe, Multiset.inf_cons, inf_assoc]

end

theorem instant_binding {dates : List String}
    (dated : ∀ expiry ∈ dates, (parse expiry).isSome = true) :
    (binding parse dates).elim ⊤ (instant parse) =
      (dates.map (instant parse) : Multiset (WithTop ℤ)).inf := by
  cases dates with
  | nil => rfl
  | cons first rest =>
    rw [map_cons, ← Multiset.cons_coe, Multiset.inf_cons]
    exact instant_foldl_earlier (dated first (.head _)) fun other member =>
      dated other (.tail _ member)

theorem isSome_of_mem_binding {dates : List String}
    (dated : ∀ expiry ∈ dates, (parse expiry).isSome = true)
    (bound : binding parse dates = some expiry) : (parse expiry).isSome = true := by
  cases dates with
  | nil => cases bound
  | cons first rest =>
    cases bound
    exact isSome_foldl_earlier (dated first (.head _)) rest

theorem map_parse_binding {left right : List String}
    (leftDated : ∀ expiry ∈ left, (parse expiry).isSome = true)
    (rightDated : ∀ expiry ∈ right, (parse expiry).isSome = true)
    (same : (binding parse left).elim ⊤ (instant parse) =
      (binding parse right).elim ⊤ (instant parse)) :
    (binding parse left).map parse = (binding parse right).map parse := by
  cases leftBound : binding parse left with
  | none =>
    cases rightBound : binding parse right with
    | none => rfl
    | some expiry =>
      rcases isSome_iff_exists.mp (isSome_of_mem_binding rightDated rightBound) with
        ⟨time, found⟩
      simp [leftBound, rightBound, instant, found] at same
  | some expiry =>
    rcases isSome_iff_exists.mp (isSome_of_mem_binding leftDated leftBound) with
      ⟨time, found⟩
    cases rightBound : binding parse right with
    | none => simp [leftBound, rightBound, instant, found] at same
    | some other =>
      rcases isSome_iff_exists.mp (isSome_of_mem_binding rightDated rightBound) with
        ⟨otherTime, otherFound⟩
      have equal : time = otherTime := by
        simpa [leftBound, rightBound, instant, found, otherFound] using same
      simp [found, otherFound, equal]

theorem map_parse_binding_of_unreadable {texts : List String}
    (unreadable : ∀ expiry ∈ texts, parse expiry = none) :
    (binding parse texts).map parse = texts.head?.map fun _ => none := by
  cases texts with
  | nil => rfl
  | cons first rest =>
    have own := unreadable first (.head _)
    simp [binding, foldl_earlier_of_unreadable own, own]

theorem expiries_perm {order : List ProviderGrant} (perm : order.Perm grants) :
    (expiries order).Perm (expiries grants) := perm.filterMap _

theorem sameLicense_perm {order : List ProviderGrant} (alike : datedAlike parse grants)
    (perm : order.Perm grants) :
    SameLicense parse (mergeGrants parse order) (mergeGrants parse grants) := by
  refine sameLicense_of_entitlements (entitlements_perm perm) ?_
  rw [expiresAt_mergeGrants, expiresAt_mergeGrants]
  have texts := expiries_perm perm
  rcases alike with dated | unreadable
  · have orderDated : ∀ expiry ∈ expiries order, (parse expiry).isSome = true :=
      fun expiry member => dated expiry (texts.mem_iff.mp member)
    refine map_parse_binding orderDated dated ?_
    rw [instant_binding orderDated, instant_binding dated,
      Multiset.coe_eq_coe.mpr (texts.map (instant parse))]
  · have orderUnreadable : ∀ expiry ∈ expiries order, parse expiry = none :=
      fun expiry member => unreadable expiry (texts.mem_iff.mp member)
    rw [map_parse_binding_of_unreadable orderUnreadable, map_parse_binding_of_unreadable unreadable]
    cases orderTexts : expiries order with
    | nil =>
      rw [orderTexts] at texts
      rw [nil_perm.mp texts]
    | cons first rest =>
      rw [orderTexts] at texts
      have some : 0 < (expiries grants).length := by
        rw [← texts.length_eq]
        exact Nat.succ_pos _
      rcases exists_cons_of_length_pos some with ⟨other, others, split⟩
      rw [split]
      rfl

theorem binding_of_first (member : expiry ∈ expiries grants) :
    ∃ order, order.Perm grants ∧ ∃ rest, expiries order = expiry :: rest := by
  rcases mem_filterMap.mp member with ⟨grant, inside, own⟩
  rcases append_of_mem inside with ⟨before, after, rfl⟩
  refine ⟨grant :: (before ++ after), perm_middle.symm, ?_⟩
  exact ⟨expiries (before ++ after), by simp [expiries, own]⟩

theorem sameLicense_perm_iff (parse : String → Option ℤ) (grants : List ProviderGrant) :
    (∀ order : List ProviderGrant, order.Perm grants →
      SameLicense parse (mergeGrants parse order) (mergeGrants parse grants)) ↔
      datedAlike parse grants := by
  constructor
  · intro every
    by_contra mixed
    simp only [datedAlike, not_or, not_forall] at mixed
    rcases mixed with ⟨⟨text, textIn, unreadable⟩, date, dateIn, readable⟩
    rcases binding_of_first textIn with ⟨textOrder, textPerm, textRest, textFirst⟩
    rcases binding_of_first dateIn with ⟨dateOrder, datePerm, dateRest, dateFirst⟩
    have same := (every textOrder textPerm).expiresAt.trans (every dateOrder
      datePerm).expiresAt.symm
    rw [expiresAt_mergeGrants, expiresAt_mergeGrants, textFirst, dateFirst] at same
    have textNone : parse text = none := by simpa using unreadable
    have dateSome := isSome_foldl_earlier (isSome_iff_ne_none.mpr readable) dateRest
    simp only [binding, foldl_earlier_of_unreadable textNone, map_some, textNone,
      some.injEq] at same
    rw [← same] at dateSome
    cases dateSome
  · exact fun alike order perm => sameLicense_perm alike perm

end SupremeOs.License
