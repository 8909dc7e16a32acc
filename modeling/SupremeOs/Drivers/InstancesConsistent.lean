import SupremeOs.Drivers.DriverManager

/-!
# The instances of a driver agree

All instances of a key should be of one version, a driver should be active
exactly when it is enabled, and what identifies an instance should change by the
operation that is meant to change it.

An install sets the version of one instance only, and it computes the status
from the manifest alone where the manifest does not ship disabled.
-/

namespace SupremeOs.Drivers

open Support DomainModel List OrderedMap Option

variable {manager : DriverManager} {store next : InstalledDriverStore}

structure DriversConsistent (store : InstalledDriverStore) : Prop where
  oneVersion : ∀ left right leftDriver rightDriver, store.get left = some leftDriver →
    store.get right = some rightDriver → leftDriver.key = rightDriver.key →
    leftDriver.version = rightDriver.version
  activeEnabled : ∀ id driver, store.get id = some driver →
    (driver.status = .active ↔ driver.enabled = true)

def instanceIds (localeCompare : String → String → Int) (store : InstalledDriverStore)
    (key : String) : List String :=
  (store.listByKey localeCompare key).map InstalledDriver.id

/-- What an instance is known by changes by the operation that is meant to change it. -/
structure KeptBy (manager : DriverManager) (store : InstalledDriverStore) (call : DriverCall)
    (next : InstalledDriverStore) : Prop where
  id : ∀ id driver, next.get id = some driver → driver.id = id
  installedAt : ∀ id before after, store.get id = some before → next.get id = some after →
    after.installedAt = before.installedAt
  label : ∀ id before after, store.get id = some before → next.get id = some after →
    after.label ≠ before.label → ∃ version licensedSkus newId now,
      call = .install before.key version false after.label licensedSkus newId now
  enabled : ∀ id before after, store.get id = some before → next.get id = some after →
    after.enabled ≠ before.enabled → call = .setEnabled id after.enabled
  gone : ∀ id before, store.get id = some before → next.get id = none → call = .uninstall id
  order : (∀ id, store.has id = next.has id) → ∀ key,
    instanceIds manager.localeCompare next key = instanceIds manager.localeCompare store key

def drawnFresh (manager : DriverManager) (store : InstalledDriverStore) : DriverCall → Prop
  | .install key _ asNewInstance _ _ id _ =>
    (manager.existing store asNewInstance key).isNone = true → store.has id = false
  | .update _ _ | .rollback _ _ _ | .setEnabled _ _ | .setConfig _ _ _ | .uninstall _ => True

/--
An install that is admitted installs the version that the other instances of the
key have, and installs a disabled instance again only if the manifest ships
disabled.
-/
def installAgrees (manager : DriverManager) (store : InstalledDriverStore) : DriverCall → Prop
  | .install key version asNewInstance _ licensedSkus _ _ =>
    ∀ entry ∈ manager.find key version, (manager.allowInstall entry key licensedSkus).isOk = true →
      (∀ driver ∈ store.values, driver.key = key →
        (manager.existing store asNewInstance key).map InstalledDriver.id ≠ some driver.id →
        driver.version = entry.bundle.manifest.version) ∧
      ∀ driver ∈ manager.existing store asNewInstance key, driver.enabled = false →
        entry.bundle.manifest.shipsDisabled = true
  | .update _ _ | .rollback _ _ _ | .setEnabled _ _ | .setConfig _ _ _ | .uninstall _ => True

instance (manager : DriverManager) (store : InstalledDriverStore) :
    ∀ call, Decidable (drawnFresh manager store call) := by
  intro call
  unfold drawnFresh
  split <;> infer_instance

instance (manager : DriverManager) (store : InstalledDriverStore) :
    ∀ call, Decidable (installAgrees manager store call) := by
  intro call
  unfold installAgrees
  split <;> infer_instance

structure StoreSound (store : InstalledDriverStore) : Prop where
  keyed : ∀ id driver, store.get id = some driver → driver.id = id
  labelled : ∀ id driver, store.get id = some driver → truthy driver.label = driver.label

theorem StoreSound.empty : StoreSound .empty := by
  constructor <;> simp

variable {driver : InstalledDriver} {key : String} {localeCompare : String → String → Int}
    {licensedSkus : List String}

theorem StoreSound.get_of_mem (sound : StoreSound store)
    (member : driver ∈ store.values) : store.get driver.id = some driver := by
  rcases mem_values_iff.mp member with ⟨id, found⟩
  rw [sound.keyed id driver found, found]

theorem mem_listByKey :
    driver ∈ store.listByKey localeCompare key ↔ driver ∈ store.values ∧ driver.key = key := by
  rw [InstalledDriverStore.listByKey, mem_insertionSort, mem_filter, decide_eq_true_eq]

theorem StoreSound.mem_existing (sound : StoreSound store) {asNewInstance : Bool}
    (found : manager.existing store asNewInstance key = some driver) :
    asNewInstance = false ∧ driver.key = key ∧ store.get driver.id = some driver := by
  rw [DriverManager.existing] at found
  split at found
  · cases found
  · rename_i again
    rcases mem_listByKey.mp (mem_of_mem_head? found) with ⟨member, own⟩
    exact ⟨by simpa using again, own, sound.get_of_mem member⟩

theorem get_put (driver : InstalledDriver) (id : String) :
    (store.put driver).get id = if id = driver.id then some driver else store.get id := by
  rw [InstalledDriverStore.put, get_set]

/-- What decides where an instance is listed, and under which id. -/
def place (driver : InstalledDriver) : String × String × String :=
  (driver.key, driver.installedAt, driver.id)

theorem instanceIds_eq (localeCompare : String → String → Int) (key : String) :
    instanceIds localeCompare store key =
      (((store.values.map place).filter fun entry => decide (entry.1 = key)).insertionSort
        fun left right =>
          InstalledDriverStore.installedBefore localeCompare left.2 right.2 = true).map
        fun entry => entry.2.2 := by
  rw [instanceIds, InstalledDriverStore.listByKey, List.filter_map,
    ← map_insertionSort (fun left right : InstalledDriver =>
      InstalledDriverStore.installedBefore localeCompare (left.installedAt, left.id)
        (right.installedAt, right.id) = true) _ place, List.map_map]
  · rfl
  · exact fun _ _ _ _ => Iff.rfl

theorem map_place_foldl_put {drivers : List InstalledDriver}
    (placed : ∀ driver ∈ drivers, ∃ old, store.get driver.id = some old ∧
      place old = place driver) :
    (drivers.foldl InstalledDriverStore.put store).values.map place = store.values.map place := by
  induction drivers generalizing store with
  | nil => rfl
  | cons driver drivers ih =>
    rcases placed driver (.head _) with ⟨old, found, same⟩
    rw [foldl_cons, ih, InstalledDriverStore.put, map_values_set place found same]
    intro other member
    rcases placed other (.tail _ member) with ⟨before, there, equal⟩
    rw [get_put]
    split
    · rename_i again
      rw [again, found, some.injEq] at there
      exact ⟨driver, rfl, by rw [← same, there, equal]⟩
    · exact ⟨before, there, equal⟩

theorem StoreSound.get_reversion (sound : StoreSound store)
    (manifest : DriverManifest) (key id : String) :
    (((store.listByKey localeCompare key).map (DriverManager.reversion manifest)).foldl
        InstalledDriverStore.put store).get id = (store.get id).map fun driver =>
        if driver.key = key then DriverManager.reversion manifest driver else driver := by
  have folded : ∀ (drivers : List InstalledDriver) (start : InstalledDriverStore),
      (∀ driver ∈ drivers, store.get driver.id = some driver) →
      ((drivers.map (DriverManager.reversion manifest)).foldl InstalledDriverStore.put start).get
          id = if ∃ driver ∈ drivers, driver.id = id then
          (store.get id).map (DriverManager.reversion manifest)
        else start.get id := by
    intro drivers
    induction drivers with
    | nil => intro start _; simp
    | cons driver drivers ih =>
      intro start there
      rw [map_cons, foldl_cons,
        ih _ fun other member => there other (.tail _ member), get_put]
      have found := there driver (.head _)
      have named : (DriverManager.reversion manifest driver).id = driver.id := rfl
      by_cases own : driver.id = id
      · subst own
        simp [named, found]
      · simp [named, own, Ne.symm own]
  rw [folded _ _ fun driver member => sound.get_of_mem (mem_listByKey.mp member).1]
  cases found : store.get id with
  | none => simp
  | some driver =>
    have listed : (∃ other ∈ store.listByKey localeCompare key, other.id = id) ↔
        driver.key = key := by
      constructor
      · rintro ⟨other, member, rfl⟩
        rcases mem_listByKey.mp member with ⟨value, own⟩
        rw [sound.get_of_mem value, some.injEq] at found
        rw [← found, own]
      · intro own
        exact ⟨driver, mem_listByKey.mpr
          ⟨mem_values_iff.mpr ⟨id, found⟩, own⟩, sound.keyed id driver found⟩
    by_cases own : driver.key = key <;> simp [listed, own]

inductive Effect (manager : DriverManager) (store : InstalledDriverStore) :
    DriverCall → InstalledDriverStore → Prop where
  | unchanged (call : DriverCall) : Effect manager store call store
  | installed (key : String) (version : Option String) (asNewInstance : Bool)
      (label : Option String) (licensedSkus : List String) (id now : String)
      (entry : SignedDriverBundle) (found : manager.find key version = some entry)
      (admitted : (manager.allowInstall entry key licensedSkus).isOk = true) :
      Effect manager store (.install key version asNewInstance label licensedSkus id now)
        (store.put (manager.installed entry.bundle.manifest
          (manager.existing store asNewInstance key) key label id now))
  | reversioned (call : DriverCall) (key : String) (manifest : DriverManifest) :
      Effect manager store call
        (((store.listByKey manager.localeCompare key).map
          (DriverManager.reversion manifest)).foldl InstalledDriverStore.put store)
  | enabled (id : String) (driver : InstalledDriver) (enabled : Bool)
      (found : store.get id = some driver) :
      Effect manager store (.setEnabled id enabled)
        (store.put { driver with
          enabled := enabled, status := if enabled then .active else .disabled })
  | configured (id : String) (driver : InstalledDriver) (input fallbacks config : DriverConfig)
      (found : store.get id = some driver) :
      Effect manager store (.setConfig id input fallbacks) (store.put { driver with config })
  | uninstalled (id : String) (driver : InstalledDriver) (found : store.get id = some driver) :
      Effect manager store (.uninstall id) (store.delete id)

theorem isOk_of_eq_ok {Error Value : Type} {result : Except Error Value} {value : Value}
    (ok : result = .ok value) : result.isOk = true := by
  rw [ok]
  rfl

theorem perform_install {version : Option String} {asNewInstance : Bool}
    {label : Option String} {id now : String}
    {entry : SignedDriverBundle} (found : manager.find key version = some entry)
    (admitted : (manager.allowInstall entry key licensedSkus).isOk = true) :
    manager.perform store (.install key version asNewInstance label licensedSkus id now) =
      .ok (store.put (manager.installed entry.bundle.manifest
        (manager.existing store asNewInstance key) key label id now)) := by
  simp only [DriverManager.perform, DriverManager.install, found]
  cases outcome : manager.allowInstall entry key licensedSkus with
  | error error =>
    rw [outcome] at admitted
    cases admitted
  | ok => rfl

theorem effect_reversion {version : String} (call : DriverCall)
    (done : manager.setVersionForEveryInstance store key version licensedSkus =
      .ok (next, driver)) : Effect manager store call next := by
  unfold DriverManager.setVersionForEveryInstance at done
  split at done
  · cases done
  · rename_i entry _
    split at done
    · cases done
    · dsimp only at done
      split at done
      · cases done
      · rw [Except.ok.injEq, Prod.mk.injEq] at done
        rw [← done.1]
        exact .reversioned call key entry.bundle.manifest

theorem map_fst_eq_ok {Error First Second : Type} {result : Except Error (First × Second)}
    {first : First} (done : result.map Prod.fst = .ok first) :
    ∃ second, result = .ok (first, second) := by
  cases result with
  | error error => cases done
  | ok both =>
    cases done
    exact ⟨both.2, rfl⟩

theorem effect_of_step {call : DriverCall} (taken : manager.machine.step store call = some next) :
    Effect manager store call next := by
  cases performed : manager.perform store call with
  | error error =>
    simp only [DriverManager.machine, performed, some.injEq] at taken
    exact taken ▸ .unchanged call
  | ok after =>
    simp only [DriverManager.machine, performed, some.injEq] at taken
    subst taken
    cases call with
    | install key version asNewInstance label licensedSkus id now =>
      rcases map_fst_eq_ok performed with ⟨driver, done⟩
      unfold DriverManager.install at done
      split at done
      · cases done
      · rename_i entry found
        split at done
        · cases done
        · rename_i admitted
          rw [Except.ok.injEq, Prod.mk.injEq] at done
          rw [← done.1]
          exact .installed key version asNewInstance label licensedSkus id now entry found
            (isOk_of_eq_ok admitted)
    | update key licensedSkus =>
      rcases map_fst_eq_ok performed with ⟨driver, done⟩
      unfold DriverManager.update at done
      split at done
      · cases done
      · split at done
        · cases done
        · split at done
          · rw [Except.ok.injEq, Prod.mk.injEq] at done
            exact done.1 ▸ .unchanged _
          · exact effect_reversion _ done
    | rollback key version licensedSkus =>
      rcases map_fst_eq_ok performed with ⟨driver, done⟩
      unfold DriverManager.rollback at done
      split at done
      · cases done
      · exact effect_reversion _ done
    | setEnabled id enabled =>
      rcases map_fst_eq_ok performed with ⟨driver, done⟩
      unfold DriverManager.setEnabled at done
      split at done
      · cases done
      · rename_i before found
        rw [Except.ok.injEq, Prod.mk.injEq] at done
        exact done.1 ▸ .enabled id before enabled found
    | setConfig id input fallbacks =>
      rcases map_fst_eq_ok performed with ⟨driver, done⟩
      unfold DriverManager.setConfig at done
      split at done
      · cases done
      · rename_i before found
        dsimp only at done
        split at done
        · cases done
        · rw [Except.ok.injEq, Prod.mk.injEq] at done
          exact done.1 ▸ .configured id before input fallbacks _ found
    | uninstall id =>
      simp only [DriverManager.perform, DriverManager.uninstall] at performed
      split at performed
      · cases performed
      · rename_i driver found
        exact Except.ok.inj performed ▸ .uninstalled id driver found

section Installed

variable {manifest : DriverManifest} {key id now : String} {label : Option String}

theorem installed_again (driver : InstalledDriver) :
    place (manager.installed manifest (some driver) driver.key label id now) = place driver ∧
      (manager.installed manifest (some driver) driver.key label id now).enabled =
        driver.enabled := ⟨rfl, rfl⟩

theorem truthy_truthy (text : Option String) : truthy (truthy text) = truthy text := by
  cases text with
  | none => rfl
  | some text => by_cases empty : text.isEmpty = true <;> simp [truthy, Option.filter, empty]

variable {existing : Option InstalledDriver}

theorem truthy_label :
    truthy (manager.installed manifest existing key label id now).label =
      (manager.installed manifest existing key label id now).label := by
  simp only [DriverManager.installed]
  cases given : truthy label with
  | none => rw [none_or, truthy_truthy]
  | some text => rw [some_or, ← given, truthy_truthy]

theorem installed_label_of_none (none : truthy label = none) :
    (manager.installed manifest existing key label id now).label =
      truthy (existing.bind InstalledDriver.label) := by
  rw [DriverManager.installed, none, none_or]

theorem installed_label_of_some {text : String} (given : truthy label = some text) :
    (manager.installed manifest existing key label id now).label = some text := by
  rw [DriverManager.installed, given, some_or]

theorem installed_active_iff {existing : Option InstalledDriver} :
    ((manager.installed manifest existing key label id now).status = .active ↔
        (manager.installed manifest existing key label id now).enabled = true) ↔
      ∀ driver ∈ existing, driver.enabled = false → manifest.shipsDisabled = true := by
  cases existing with
  | none => cases ships : manifest.shipsDisabled <;> simp [DriverManager.installed, ships]
  | some driver =>
    cases ships : manifest.shipsDisabled <;> cases on : driver.enabled <;>
      simp [DriverManager.installed, ships, on]

theorem other_iff {key : String} {version : Option String} {asNewInstance : Bool}
    {label : Option String} {licensedSkus : List String} {id now : String}
    {manifest : DriverManifest} (fresh : drawnFresh manager store
      (.install key version asNewInstance label licensedSkus id now))
    {driver : InstalledDriver} (there : store.get driver.id = some driver) :
    (manager.existing store asNewInstance key).map InstalledDriver.id ≠ some driver.id ↔
      driver.id ≠ (manager.installed manifest (manager.existing store asNewInstance key) key label
        id now).id := by
  cases again : manager.existing store asNewInstance key with
  | some existing =>
    have named : (manager.installed manifest (some existing) key label id now).id =
      existing.id := rfl
    rw [map_some, named, ne_eq, some.injEq]
    exact ne_comm
  | none =>
    have absent : store.has id = false := fresh (by rw [again]; rfl)
    have other : driver.id ≠ id := by
      rintro rfl
      simp [OrderedMap.has, there] at absent
    simpa [DriverManager.installed] using other

end Installed

theorem DriversConsistent.put_back (consistent : DriversConsistent store)
    {before after : InstalledDriver} (found : store.get after.id = some before)
    (key : after.key = before.key) (version : after.version = before.version)
    (agreed : after.status = .active ↔ after.enabled = true) :
    DriversConsistent (store.put after) := by
  have read : ∀ {id driver}, (store.put after).get id = some driver → ∃ old,
      store.get id = some old ∧ driver.key = old.key ∧ driver.version = old.version := by
    intro id driver there
    rw [get_put] at there
    split at there
    · rename_i same
      rw [same, ← some.inj there]
      exact ⟨before, found, key, version⟩
    · exact ⟨driver, there, rfl, rfl⟩
  refine ⟨?_, ?_⟩
  · intro left right leftDriver rightDriver leftFound rightFound same
    rcases read leftFound with ⟨leftOld, leftThere, leftKey, leftVersion⟩
    rcases read rightFound with ⟨rightOld, rightThere, rightKey, rightVersion⟩
    rw [leftVersion, rightVersion]
    exact consistent.oneVersion _ _ _ _ leftThere rightThere (by rw [← leftKey, ← rightKey, same])
  · intro id driver there
    rw [get_put] at there
    split at there
    · rw [← some.inj there]
      exact agreed
    · exact consistent.activeEnabled id driver there

theorem KeptBy.of_same {call : DriverCall}
    (named : ∀ id driver, next.get id = some driver → driver.id = id)
    (same : ∀ id before after, store.get id = some before → next.get id = some after →
      before = after)
    (gone : ∀ id before, store.get id = some before → next.get id = none → call = .uninstall id)
    (order : (∀ id, store.has id = next.has id) → ∀ key,
      instanceIds manager.localeCompare next key = instanceIds manager.localeCompare store key) :
    KeptBy manager store call next where
  id := named
  installedAt := fun id before after there now => by rw [same id before after there now]
  label := fun id before after there now changed =>
    absurd (congrArg InstalledDriver.label (same id before after there now).symm) changed
  enabled := fun id before after there now changed =>
    absurd (congrArg InstalledDriver.enabled (same id before after there now).symm) changed
  gone := gone
  order := order

namespace StoreSound

variable (sound : StoreSound store)
include sound

variable {call : DriverCall}

theorem kept_put_back {before after : InstalledDriver}
    (found : store.get after.id = some before) (placed : place before = place after)
    (label : after.label ≠ before.label → ∃ version licensedSkus newId now,
      call = .install before.key version false after.label licensedSkus newId now)
    (enabled : after.enabled ≠ before.enabled → call = .setEnabled after.id after.enabled) :
    KeptBy manager store call (store.put after) where
  id := by
    intro id driver there
    rw [get_put] at there
    split at there
    · rename_i same
      rw [← some.inj there, same]
    · exact sound.keyed id driver there
  installedAt := by
    intro id old new there now
    rw [get_put] at now
    split at now
    · rename_i same
      rw [same, found, some.injEq] at there
      rw [← some.inj now, ← there]
      exact (congrArg (fun entry => entry.2.1) placed).symm
    · rw [there, some.injEq] at now
      rw [now]
  label := by
    intro id old new there now changed
    rw [get_put] at now
    split at now
    · rename_i same
      rw [same, found, some.injEq] at there
      rw [← some.inj now, ← there] at changed ⊢
      exact label changed
    · rw [there, some.injEq] at now
      exact absurd (congrArg InstalledDriver.label now.symm) changed
  enabled := by
    intro id old new there now changed
    rw [get_put] at now
    split at now
    · rename_i same
      rw [same, found, some.injEq] at there
      rw [← some.inj now, ← there] at changed
      rw [← some.inj now, same]
      exact enabled changed
    · rw [there, some.injEq] at now
      exact absurd (congrArg InstalledDriver.enabled now.symm) changed
  gone := by
    intro id old there now
    rw [get_put] at now
    split at now
    · cases now
    · rw [there] at now
      cases now
  order := by
    intro _ key
    rw [instanceIds_eq, instanceIds_eq, InstalledDriverStore.put, map_values_set place found placed]

theorem kept_unchanged (call : DriverCall) : KeptBy manager store call store := by
  refine .of_same sound.keyed ?_ ?_ fun _ _ => rfl
  · exact fun _ _ _ there now => some.inj (there.symm.trans now)
  · intro id before there now
    rw [there] at now
    cases now

theorem kept_reversioned (call : DriverCall) (key : String) (manifest : DriverManifest) :
    KeptBy manager store call
      (((store.listByKey manager.localeCompare key).map
        (DriverManager.reversion manifest)).foldl InstalledDriverStore.put store) := by
  have read : ∀ id after, (((store.listByKey manager.localeCompare key).map
      (DriverManager.reversion manifest)).foldl InstalledDriverStore.put store).get id =
        some after → ∃ before, store.get id = some before ∧ after.id = before.id ∧
          after.installedAt = before.installedAt ∧ after.label = before.label ∧
          after.enabled = before.enabled := by
    intro id after there
    rw [sound.get_reversion] at there
    rcases map_eq_some_iff.mp there with ⟨before, found, rfl⟩
    refine ⟨before, found, ?_⟩
    split <;> exact ⟨rfl, rfl, rfl, rfl⟩
  refine ⟨?_, ?_, ?_, ?_, ?_, ?_⟩
  · intro id driver there
    rcases read id driver there with ⟨before, found, same, _⟩
    rw [same, sound.keyed id before found]
  · intro id before after there now
    rcases read id after now with ⟨old, found, _, same, _⟩
    rw [same, some.inj (found.symm.trans there)]
  · intro id before after there now changed
    rcases read id after now with ⟨old, found, _, _, same, _⟩
    rw [some.inj (found.symm.trans there)] at same
    exact absurd same changed
  · intro id before after there now changed
    rcases read id after now with ⟨old, found, _, _, _, same⟩
    rw [some.inj (found.symm.trans there)] at same
    exact absurd same changed
  · intro id before there now
    rw [sound.get_reversion, there] at now
    cases now
  · intro _ other
    rw [instanceIds_eq, instanceIds_eq, map_place_foldl_put]
    intro driver member
    rcases mem_map.mp member with ⟨before, listed, rfl⟩
    exact ⟨before, sound.get_of_mem (mem_listByKey.mp listed).1, rfl⟩

theorem kept_new (call : DriverCall) {driver : InstalledDriver}
    (absent : store.get driver.id = none) : KeptBy manager store call (store.put driver) := by
  refine .of_same ?_ ?_ ?_ ?_
  · intro id found there
    rw [get_put] at there
    split at there
    · rename_i same
      rw [← some.inj there, same]
    · exact sound.keyed id found there
  · intro id before after there now
    rw [get_put, if_neg, there] at now
    · exact some.inj now
    · rintro rfl
      rw [absent] at there
      cases there
  · intro id before there now
    rw [get_put] at now
    split at now
    · cases now
    · rw [there] at now
      cases now
  · intro same
    have both := same driver.id
    simp [OrderedMap.has, absent, get_put] at both

theorem kept_uninstalled {id : String} {driver : InstalledDriver}
    (found : store.get id = some driver) :
    KeptBy manager store (.uninstall id) (store.delete id) := by
  have read : ∀ other after, (store.delete id).get other = some after →
      store.get other = some after := by
    intro other after there
    rw [OrderedMap.get_delete] at there
    split at there
    · cases there
    · exact there
  refine .of_same (fun other after there => sound.keyed other after (read other after there))
    ?_ ?_ ?_
  · exact fun other before after there now =>
      some.inj (there.symm.trans (read other after now))
  · intro other before there now
    rw [OrderedMap.get_delete] at now
    split at now
    · rename_i same
      rw [same]
    · rw [there] at now
      cases now
  · intro same
    have both := same id
    simp [OrderedMap.has, found] at both

theorem kept (fresh : drawnFresh manager store call)
    (effect : Effect manager store call next) : KeptBy manager store call next := by
  cases effect with
  | unchanged => exact sound.kept_unchanged call
  | reversioned _ key manifest => exact sound.kept_reversioned call key manifest
  | uninstalled id driver found => exact sound.kept_uninstalled found
  | enabled id driver enabled found =>
    obtain rfl := sound.keyed id driver found
    exact sound.kept_put_back found rfl (fun changed => absurd rfl changed) fun _ => rfl
  | configured id driver input fallbacks config found =>
    obtain rfl := sound.keyed id driver found
    exact sound.kept_put_back found rfl (fun changed => absurd rfl changed)
      fun changed => absurd rfl changed
  | installed key version asNewInstance label licensedSkus id now entry found admitted =>
    cases again : manager.existing store asNewInstance key with
    | none =>
      have absent : store.get id = none := by
        simpa [OrderedMap.has] using fresh (by rw [again]; rfl)
      exact sound.kept_new _ absent
    | some driver =>
      rcases sound.mem_existing again with ⟨rfl, rfl, there⟩
      refine sound.kept_put_back there (installed_again driver).1.symm ?_
        fun changed => absurd (installed_again driver).2 changed
      intro changed
      have given : (manager.installed entry.bundle.manifest (some driver) driver.key label id
          now).label = label := by
        cases text : truthy label with
        | none =>
          rw [installed_label_of_none text, bind_some, sound.labelled _ driver there] at changed
          exact absurd rfl changed
        | some text_ =>
          rw [installed_label_of_some text]
          exact (filter_eq_some_iff.mp text).1.symm
      exact ⟨version, licensedSkus, id, now, by rw [given]⟩

theorem step (fresh : drawnFresh manager store call)
    (effect : Effect manager store call next) : StoreSound next := by
  refine ⟨(sound.kept fresh effect).id, ?_⟩
  have put : ∀ driver : InstalledDriver, truthy driver.label = driver.label →
      ∀ id found, (store.put driver).get id = some found → truthy found.label = found.label := by
    intro driver labelled id found there
    rw [get_put] at there
    split at there
    · rw [← some.inj there, labelled]
    · exact sound.labelled id found there
  cases effect with
  | unchanged => exact sound.labelled
  | installed key version asNewInstance label licensedSkus id now entry found admitted =>
    exact put _ truthy_label
  | reversioned _ key manifest =>
    intro id driver there
    rw [sound.get_reversion] at there
    rcases map_eq_some_iff.mp there with ⟨before, found, rfl⟩
    have labelled := sound.labelled id before found
    split <;> exact labelled
  | enabled id driver enabled found => exact put _ (sound.labelled id driver found)
  | configured id driver input fallbacks config found => exact put _ (sound.labelled
    id driver found)
  | uninstalled id driver found =>
    intro other driver there
    rw [OrderedMap.get_delete] at there
    split at there
    · cases there
    · exact sound.labelled other driver there

section

variable (consistent : DriversConsistent store)

include consistent

theorem consistent_install_iff {key : String}
    {version : Option String} {asNewInstance : Bool} {label : Option String}
    {licensedSkus : List String} {id now : String} {entry : SignedDriverBundle}
    (fresh : drawnFresh manager store
      (.install key version asNewInstance label licensedSkus id now))
    (found : manager.find key version = some entry)
    (admitted : (manager.allowInstall entry key licensedSkus).isOk = true) :
    DriversConsistent (store.put (manager.installed entry.bundle.manifest
        (manager.existing store asNewInstance key) key label id now)) ↔ installAgrees manager store
        (.install key version asNewInstance label licensedSkus id now) := by
  have apart : ∀ {driver : InstalledDriver}, store.get driver.id = some driver →
      ((manager.existing store asNewInstance key).map InstalledDriver.id ≠ some driver.id ↔
        driver.id ≠ (manager.installed entry.bundle.manifest
          (manager.existing store asNewInstance key) key label id now).id) :=
    fun there => other_iff fresh there
  have active := @installed_active_iff manager entry.bundle.manifest key id now label
    (manager.existing store asNewInstance key)
  have ownKey : (manager.installed entry.bundle.manifest (manager.existing store asNewInstance key)
    key label id now).key = key := rfl
  have ownVersion : (manager.installed entry.bundle.manifest
    (manager.existing store asNewInstance key) key label id now).version =
      entry.bundle.manifest.version := rfl
  generalize manager.installed entry.bundle.manifest (manager.existing store asNewInstance key) key
    label id now = installed at apart active ownKey ownVersion ⊢
  constructor
  · intro after other same _
    cases found.symm.trans same
    refine ⟨?_, active.mp (after.activeEnabled installed.id installed (by simp [get_put]))⟩
    intro driver member own different
    have there := sound.get_of_mem member
    have kept : (store.put installed).get driver.id = some driver := by
      rw [get_put, if_neg ((apart there).mp different), there]
    rw [← ownVersion]
    exact after.oneVersion driver.id installed.id driver installed kept (by simp [get_put])
      (by rw [own, ownKey])
  · intro agrees
    rcases agrees entry found admitted with ⟨versions, switches⟩
    have before : ∀ {id driver}, (store.put installed).get id = some driver →
        driver = installed ∨ driver.id ≠ installed.id ∧ store.get driver.id = some driver := by
      intro id driver there
      rw [get_put] at there
      split at there
      · exact .inl (some.inj there).symm
      · rename_i different
        have named := sound.keyed id driver there
        exact .inr ⟨by rw [named]; exact different, by rw [named, there]⟩
    have version_eq : ∀ {driver}, driver.id ≠ installed.id → store.get driver.id = some driver →
        driver.key = installed.key → driver.version = installed.version := by
      intro driver different there own
      rw [ownVersion]
      exact versions driver (mem_values_iff.mpr ⟨_, there⟩) (own.trans ownKey)
        ((apart there).mpr different)
    refine ⟨?_, ?_⟩
    · intro left right leftDriver rightDriver leftFound rightFound same
      rcases before leftFound with rfl | ⟨leftOther, leftThere⟩
      · rcases before rightFound with rfl | ⟨rightOther, rightThere⟩
        · rfl
        · exact (version_eq rightOther rightThere same.symm).symm
      · rcases before rightFound with rfl | ⟨rightOther, rightThere⟩
        · exact version_eq leftOther leftThere same
        · exact consistent.oneVersion _ _ _ _ leftThere rightThere same
    · intro id driver there
      rcases before there with rfl | ⟨_, kept⟩
      · exact active.mpr switches
      · exact consistent.activeEnabled _ driver kept

theorem consistent_reversioned
    (localeCompare : String → String → Int) (key : String) (manifest : DriverManifest) :
    DriversConsistent
      (((store.listByKey localeCompare key).map (DriverManager.reversion manifest)).foldl
        InstalledDriverStore.put store) := by
  refine ⟨?_, ?_⟩
  · intro left right leftDriver rightDriver leftFound rightFound same
    rw [sound.get_reversion] at leftFound rightFound
    rcases map_eq_some_iff.mp leftFound with ⟨leftBefore, leftThere, rfl⟩
    rcases map_eq_some_iff.mp rightFound with ⟨rightBefore, rightThere, rfl⟩
    have keys : ∀ driver : InstalledDriver,
        (if driver.key = key then DriverManager.reversion manifest driver else driver).key =
          driver.key := by
      intro driver
      split <;> rfl
    rw [keys, keys] at same
    by_cases own : leftBefore.key = key
    · rw [if_pos own, if_pos (same ▸ own)]
      rfl
    · rw [if_neg own, if_neg (same ▸ own)]
      exact consistent.oneVersion _ _ _ _ leftThere rightThere same
  · intro id driver found
    rw [sound.get_reversion] at found
    rcases map_eq_some_iff.mp found with ⟨before, there, rfl⟩
    have agreed := consistent.activeEnabled id before there
    split <;> exact agreed

theorem consistent_of_effect
    (fresh : drawnFresh manager store call) (agrees : installAgrees manager store call)
    (effect : Effect manager store call next) : DriversConsistent next := by
  cases effect with
  | unchanged => exact consistent
  | installed key version asNewInstance label licensedSkus id now entry found admitted =>
    exact (sound.consistent_install_iff consistent fresh found admitted).mpr agrees
  | reversioned _ key manifest => exact sound.consistent_reversioned consistent _ key manifest
  | enabled id driver enabled found =>
    obtain rfl := sound.keyed id driver found
    exact consistent.put_back found rfl rfl (by cases enabled <;> simp)
  | configured id driver input fallbacks config found =>
    obtain rfl := sound.keyed id driver found
    exact consistent.put_back found rfl rfl
      (consistent.activeEnabled _ driver found)
  | uninstalled id driver found =>
    have read : ∀ {other after}, (store.delete id).get other = some after →
        store.get other = some after := by
      intro other after there
      rw [OrderedMap.get_delete] at there
      split at there
      · cases there
      · exact there
    exact ⟨fun left right _ _ leftFound rightFound =>
        consistent.oneVersion left right _ _ (read leftFound) (read rightFound),
      fun other after there => consistent.activeEnabled other after (read there)⟩

theorem consistent_iff (fresh : drawnFresh manager store call)
    (taken : manager.machine.step store call = some next) :
    DriversConsistent next ↔ installAgrees manager store call := by
  refine ⟨fun after => ?_, fun agrees =>
    sound.consistent_of_effect consistent fresh agrees (effect_of_step taken)⟩
  cases call with
  | install key version asNewInstance label licensedSkus id now =>
    intro entry found admitted
    simp only [DriverManager.machine, perform_install found admitted, some.injEq] at taken
    subst taken
    exact (sound.consistent_install_iff consistent fresh found admitted).mp after entry found
      admitted
  | update | rollback | setEnabled | setConfig | uninstall => trivial

end

end StoreSound

theorem DriversConsistent.empty : DriversConsistent .empty := by
  constructor <;> simp

/--
Over every run the instances agree exactly if every install agrees with the
instances that it does not write; what they are known by is kept in any case.
-/
theorem driversConsistent_throughout_iff {calls : List DriverCall}
    (fresh : manager.machine.Guarded (drawnFresh manager) .empty calls) :
    (manager.machine.Throughout DriversConsistent .empty calls ∧
        manager.machine.EachStep (KeptBy manager) .empty calls) ↔
      manager.machine.Guarded (installAgrees manager) .empty calls := by
  have kept : manager.machine.EachStep (KeptBy manager) .empty calls :=
    Machine.eachStep_of_guarded
      (fun _ _ _ sound drawn taken => StoreSound.step sound drawn (effect_of_step taken))
      (fun _ _ _ sound drawn taken => StoreSound.kept sound drawn (effect_of_step taken))
      StoreSound.empty fresh
  rw [and_iff_left kept]
  exact Machine.throughout_iff_guarded_of_assumed StoreSound (drawnFresh manager)
    (fun _ _ _ sound consistent drawn taken => sound.consistent_iff consistent drawn taken)
    (fun _ _ _ sound _ drawn _ taken => sound.step drawn (effect_of_step taken))
    StoreSound.empty DriversConsistent.empty fresh

/-- A catalog of one driver, which does not ship disabled. -/
def knxManager : DriverManager where
  homeId := "home_1"
  find _ _ := some ⟨⟨⟨"supreme-knx", .protocol, .official, "1.0.0", none, false, []⟩, "hash",
    "supreme-store://supreme-knx/1.0.0", .published, ""⟩, "signature", "first-party"⟩
  trustedKeys := OrderedMap.empty.set "first-party" "pem"
  verifyBundle _ _ := true
  validateDriverConfig _ input _ _ := ⟨input, []⟩
  localeCompare left right := if left < right then -1 else if left = right then 0 else 1

/-- A second instance, and the first one switched off and on. -/
def secondInstance : List DriverCall :=
  [.install "supreme-knx" none false none [] "drv_1" "2026-01-01T00:00:00.000Z",
    .install "supreme-knx" none true (some "Line 2") [] "drv_2" "2026-01-02T00:00:00.000Z",
    .setEnabled "drv_1" false,
    .setEnabled "drv_1" true,
    .install "supreme-knx" none false none [] "drv_3" "2026-01-03T00:00:00.000Z",
    .update "supreme-knx" [],
    .uninstall "drv_2"]

theorem driversConsistent_secondInstance :
    knxManager.machine.Throughout DriversConsistent .empty secondInstance ∧
      knxManager.machine.EachStep (KeptBy knxManager) .empty secondInstance :=
  (driversConsistent_throughout_iff (by decide +kernel)).mpr (by decide +kernel)

def reinstalledOff : List DriverCall :=
  [.install "supreme-knx" none false none [] "drv_1" "2026-01-01T00:00:00.000Z",
    .setEnabled "drv_1" false,
    .install "supreme-knx" none false none [] "drv_2" "2026-01-02T00:00:00.000Z"]

/-- The driver is active and not enabled. -/
theorem driversConsistent_fails_reinstalledOff :
    ¬ ∀ (manager : DriverManager) (calls : List DriverCall),
      manager.machine.Guarded (drawnFresh manager) .empty calls →
      manager.machine.Throughout DriversConsistent .empty calls := by
  intro every
  have observed : (knxManager.machine.run .empty reinstalledOff).map (fun store =>
      (store.get "drv_1").map fun driver => (driver.status, driver.enabled)) =
      some (some (.active, false)) := by
    decide +kernel
  rcases map_eq_some_iff.mp observed with ⟨store, reached, fields⟩
  rcases map_eq_some_iff.mp fields with ⟨driver, found, both⟩
  injection both with active off
  have consistent := Machine.property_of_throughout
    (every knxManager reinstalledOff (by decide +kernel)) reached
  rw [(consistent.activeEnabled "drv_1" driver found).mp active] at off
  cases off

/-- A bundle of the catalogue with a valid signature by a trusted key, not yanked, brought the
driver its version. -/
def Vouched (manager : DriverManager) (driver : InstalledDriver) : Prop :=
  ∃ version entry, manager.find driver.key version = some entry ∧ manager.verify entry = .ok () ∧
    driver.version = entry.bundle.manifest.version

def AllVouched (manager : DriverManager) (store : InstalledDriverStore) : Prop :=
  ∀ id driver, store.get id = some driver → Vouched manager driver

theorem AllVouched.put (vouched : AllVouched manager store) (own : Vouched manager driver) :
    AllVouched manager (store.put driver) :=
  forall_get_set own fun id other _ => vouched id other

theorem AllVouched.foldl_put (vouched : AllVouched manager store) {drivers : List InstalledDriver}
    (every : ∀ driver ∈ drivers, Vouched manager driver) :
    AllVouched manager (drivers.foldl InstalledDriverStore.put store) := by
  induction drivers generalizing store with
  | nil => exact vouched
  | cons driver drivers ih =>
    exact ih (vouched.put (every driver (.head _))) fun other member =>
      every other (.tail _ member)

theorem verify_of_allowInstall {entry : SignedDriverBundle}
    (allowed : manager.allowInstall entry key licensedSkus = .ok ()) :
    manager.verify entry = .ok () := by
  unfold DriverManager.allowInstall at allowed
  split at allowed
  · cases allowed
  · assumption

theorem AllVouched.reversioned (vouched : AllVouched manager store) {version : String}
    (done : manager.setVersionForEveryInstance store key version licensedSkus =
      .ok (next, driver)) : AllVouched manager next := by
  unfold DriverManager.setVersionForEveryInstance at done
  split at done
  · cases done
  · rename_i entry found
    split at done
    · cases done
    · rename_i allowed
      dsimp only at done
      split at done <;> cases done
      refine vouched.foldl_put fun other member => ?_
      rcases mem_map.mp member with ⟨before, old, rfl⟩
      obtain rfl := (mem_listByKey.mp old).2
      exact ⟨some version, entry, found, verify_of_allowInstall allowed, rfl⟩

theorem AllVouched.step {call : DriverCall} (vouched : AllVouched manager store)
    (taken : manager.machine.step store call = some next) : AllVouched manager next := by
  cases performed : manager.perform store call with
  | error error =>
    simp only [DriverManager.machine, performed, some.injEq] at taken
    exact taken ▸ vouched
  | ok after =>
    simp only [DriverManager.machine, performed, some.injEq] at taken
    subst taken
    cases call with
    | install key version asNewInstance label licensedSkus id now =>
      rcases map_fst_eq_ok performed with ⟨driver, done⟩
      unfold DriverManager.install at done
      split at done
      · cases done
      · rename_i entry found
        split at done <;> cases done
        rename_i allowed
        exact vouched.put ⟨version, entry, found, verify_of_allowInstall allowed, rfl⟩
    | update key licensedSkus =>
      rcases map_fst_eq_ok performed with ⟨driver, done⟩
      unfold DriverManager.update at done
      split at done
      · cases done
      · split at done
        · cases done
        · split at done
          · cases done
            exact vouched
          · exact vouched.reversioned done
    | rollback key version licensedSkus =>
      rcases map_fst_eq_ok performed with ⟨driver, done⟩
      unfold DriverManager.rollback at done
      split at done
      · cases done
      · exact vouched.reversioned done
    | setEnabled id enabled =>
      rcases map_fst_eq_ok performed with ⟨driver, done⟩
      unfold DriverManager.setEnabled at done
      split at done <;> cases done
      rename_i before found
      exact vouched.put (vouched id before found :)
    | setConfig id input fallbacks =>
      rcases map_fst_eq_ok performed with ⟨driver, done⟩
      unfold DriverManager.setConfig at done
      split at done
      · cases done
      · rename_i before found
        dsimp only at done
        split at done <;> cases done
        exact vouched.put (vouched id before found :)
    | uninstall id =>
      simp only [DriverManager.perform, DriverManager.uninstall] at performed
      split at performed <;> cases performed
      intro other driver found
      rw [get_delete] at found
      split at found
      · cases found
      · exact vouched other driver found

theorem installed_vouched_throughout (manager : DriverManager) (calls : List DriverCall) :
    manager.machine.Throughout (AllVouched manager) .empty calls :=
  Machine.throughout_of_step (fun _ _ _ vouched taken => vouched.step taken)
    (by simp [AllVouched])

end SupremeOs.Drivers
