import SupremeOs.KnxImport.DeviceRecognition

/-!
# Every address is accounted for once

The places at which an address of a project shows up in the result are counted.
Each step of recognition hands the signals on: a signal is bound as the winner of
its capability, as its status side or as an accompanying role, or it is left
over, and what is left over is reported.

An empty address is not kept as a status side, so it is lost there.
-/

namespace SupremeOs.KnxImport

open Support List OrderedMap

variable {toLowerCase : String → String} {address : String} {sigs other : List GaSignal}

structure DeviceBound (device : RecognizedDevice) : Prop where
  some : device.bindings ≠ []
  /-- At most one binding for each capability. -/
  distinct : (device.bindings.map RecognizedBinding.capability).Nodup

def uses (address : String) (sigs : List GaSignal) : ℕ :=
  (sigs.map fun sig => sig.ga.address).count address

/-- The addresses are distinct and none of them is empty. -/
structure Named (sigs : List GaSignal) : Prop where
  distinct : (sigs.map fun sig => sig.ga.address).Nodup
  filled : "" ∉ sigs.map fun sig => sig.ga.address

@[simp]
theorem uses_nil : uses address [] = 0 := rfl

@[simp]
theorem uses_append (left right : List GaSignal) :
    uses address (left ++ right) = uses address left + uses address right := by
  simp [uses]

theorem uses_cons (sig : GaSignal) (rest : List GaSignal) :
    uses address (sig :: rest) = uses address [sig] + uses address rest :=
  uses_append [sig] rest

theorem uses_perm (perm : sigs.Perm other) : uses address sigs = uses address other :=
  (perm.map _).count_eq address

theorem uses_flatten (lists : List (List GaSignal)) :
    uses address lists.flatten = (lists.map (uses address)).sum := by
  induction lists with
  | nil => rfl
  | cons list rest ih => rw [flatten_cons, uses_append, ih, map_cons, sum_cons]

theorem uses_filter (keep : GaSignal → Bool) (sigs : List GaSignal) :
    uses address (sigs.filter keep) + uses address (sigs.filter fun sig => !keep sig) =
      uses address sigs := by
  rw [← uses_append]
  exact uses_perm (filter_append_perm keep sigs)

theorem Named.sublist (named : Named sigs) (part : other.Sublist sigs) : Named other :=
  ⟨(part.map _).nodup named.distinct, fun inside => named.filled ((part.map _).mem inside)⟩

theorem Named.perm (named : Named sigs) (perm : other.Perm sigs) : Named other :=
  ⟨((perm.map _).nodup_iff).mpr named.distinct,
    fun inside => named.filled ((perm.map _).mem_iff.mp inside)⟩

theorem uses_retag (sigs : List GaSignal) :
    uses address (sigs.map GaSignal.retag) = uses address sigs := by
  rw [uses, map_map]
  rfl

theorem Named.retag (named : Named sigs) : Named (sigs.map GaSignal.retag) := by
  have same : (sigs.map GaSignal.retag).map (fun sig => sig.ga.address) =
      sigs.map fun sig => sig.ga.address := by
    rw [map_map]
    rfl
  exact ⟨same ▸ named.distinct, same ▸ named.filled⟩

def bound (address : String) (bindings : List RecognizedBinding) : ℕ :=
  (bindings.flatMap RecognizedBinding.addresses).count address

@[simp]
theorem bound_append (left right : List RecognizedBinding) :
    bound address (left ++ right) = bound address left + bound address right := by
  simp [bound]

theorem uses_hvacRolesOf (hvacAuxSigs : List GaSignal) :
    ((hvacRolesOf hvacAuxSigs).map HvacRole.address).count address = uses address hvacAuxSigs := by
  rw [hvacRolesOf, map_map]
  rfl

theorem bound_toBinding (sig : GaSignal) (statusAddress : Option String)
    (hvacRoles : List HvacRole) :
    bound address [toBinding sig statusAddress hvacRoles] = uses address [sig] +
        (toBinding sig statusAddress hvacRoles).statusAddress.toList.count address +
        (hvacRoles.map HvacRole.address).count address := by
  simp only [bound, flatMap_cons, flatMap_nil, append_nil, RecognizedBinding.addresses, count_cons,
    count_append, uses, map_cons, map_nil, count_nil, toBinding]
  omega

theorem toBinding_status {winner status : GaSignal} {hvacRoles : List HvacRole}
    (filled : status.ga.address ≠ "") (differs : status.ga.address ≠ winner.ga.address) :
    (toBinding winner (some status.ga.address) hvacRoles).statusAddress =
      some status.ga.address := by
  have given : given (some status.ga.address) = some status.ga.address := by
    simp [SupremeOs.KnxImport.given, filled]
  simp [toBinding, given, differs]

theorem uses_bindCapability (hvacAuxSigs : List GaSignal) (capability : CapabilityKind)
    {list : List GaSignal} (some : list ≠ []) (named : Named list) :
    bound address (bindCapability hvacAuxSigs capability list).1 +
        uses address (bindCapability hvacAuxSigs capability list).2 =
      uses address list + if capability = .temperature then uses address hvacAuxSigs else 0 := by
  have perm : (byPriority list).Perm list := perm_insertionSort _ list
  have hvac : ((if capability = .temperature then hvacRolesOf hvacAuxSigs else []).map
      HvacRole.address).count address =
      if capability = .temperature then uses address hvacAuxSigs else 0 := by
    split
    · exact uses_hvacRolesOf hvacAuxSigs
    · rfl
  rw [← uses_perm perm]
  cases sorted : byPriority list with
  | nil => exact absurd (nil_perm.mp (sorted ▸ perm)) some
  | cons winner rest =>
    have sortedNamed : Named (winner :: rest) := named.perm (sorted ▸ perm)
    cases found : rest.find? fun sig => isStatusRole sig.role with
    | none =>
      have nothing : (rest.eraseP fun sig => isStatusRole sig.role) = rest :=
        eraseP_of_forall_not fun sig inside =>
          by simpa using find?_eq_none.mp found sig inside
      have absent : (toBinding winner none (if capability = .temperature then
          hvacRolesOf hvacAuxSigs else [])).statusAddress = none := rfl
      simp only [bindCapability, sorted, found, Option.map_none, bound_toBinding, hvac, nothing,
        absent, uses_cons winner rest, Option.toList_none, count_nil]
      omega
    | some status =>
      rcases find?_eq_some_iff_append.mp found with ⟨isStatus, before, after, split, first⟩
      have left : (rest.eraseP fun sig => isStatusRole sig.role) = before ++ after := by
        rw [split, eraseP_append_right]
        · simp [isStatus]
        · intro sig inside
          simpa using first sig inside
      have inRest : status ∈ rest := mem_of_find?_eq_some found
      have filled : status.ga.address ≠ "" := by
        intro empty
        refine sortedNamed.filled (mem_map.mpr ⟨status, ?_, empty⟩)
        exact .tail _ inRest
      have differs : status.ga.address ≠ winner.ga.address := by
        intro same
        have distinct := sortedNamed.distinct
        rw [map_cons, nodup_cons] at distinct
        exact distinct.1 (same ▸ mem_map_of_mem inRest)
      have one : [status.ga.address].count address = uses address [status] := rfl
      have whole : uses address rest =
          uses address before + (uses address [status] + uses address after) := by
        rw [split, uses_append, uses_cons status after]
      simp only [bindCapability, sorted, found, Option.map_some, bound_toBinding, hvac, left,
        toBinding_status filled differs, uses_cons winner rest, Option.toList_some, one,
        uses_append, whole]
      omega

/-- What holds of the signals that are sorted so far. -/
structure SortedSound (sigs : List GaSignal) (sorted : Sorted) : Prop where
  kept : (sorted.byCapability.values.flatten ++ (sorted.excluded ++ sorted.hvacAuxSigs)).Perm sigs
  keyed : ∀ capability list, sorted.byCapability.get capability = some list →
    list ≠ [] ∧ ∀ sig ∈ list, bindableCapability sig.role = some capability

theorem SortedSound.add {sorted : Sorted} (sound : SortedSound sigs sorted) (sig : GaSignal) :
    SortedSound (sigs ++ [sig]) (sorted.add sig) := by
  rw [Sorted.add]
  split
  · refine ⟨?_, sound.keyed⟩
    rw [← append_assoc sorted.excluded, ← append_assoc]
    exact sound.kept.append_right [sig]
  · cases bindable : bindableCapability sig.role with
    | none =>
      have moved : ((sorted.excluded ++ [sig]) ++ sorted.hvacAuxSigs).Perm
          ((sorted.excluded ++ sorted.hvacAuxSigs) ++ [sig]) := by
        rw [append_assoc, append_assoc]
        exact perm_append_comm.append_left _
      refine ⟨(moved.append_left _).trans ?_, sound.keyed⟩
      rw [← append_assoc]
      exact sound.kept.append_right [sig]
    | some capability =>
      constructor
      · have added := Multimap.perm_flatten_add sorted.byCapability capability sig
        refine (added.append_right _).trans ?_
        refine List.Perm.trans ?_ (sound.kept.append_right [sig])
        rw [append_assoc, append_assoc]
        exact perm_append_comm.append_left _
      · refine forall_get_set ⟨by simp, ?_⟩
          fun query list _ stored => sound.keyed query list stored
        intro other inside
        rcases mem_append.mp inside with old | new
        · cases found : sorted.byCapability.get capability with
          | none => simp [Multimap.listAt, found] at old
          | some list =>
            rw [Multimap.listAt, found] at old
            exact (sound.keyed capability list found).2 other old
        · rw [mem_singleton.mp new]
          exact bindable

theorem sortSignals_sound (sigs : List GaSignal) : SortedSound sigs (sortSignals sigs) := by
  induction sigs using List.reverseRecOn with
  | nil => exact ⟨List.Perm.refl _, by simp [sortSignals]⟩
  | append_singleton sigs sig ih =>
    rw [sortSignals, foldl_append]
    exact ih.add sig

theorem bound_flatMap {Item : Type*} (items : List Item) (image : Item → List RecognizedBinding) :
    bound address (items.flatMap image) = (items.map fun item => bound address
      (image item)).sum := by
  induction items with
  | nil => rfl
  | cons item rest ih => rw [flatMap_cons, bound_append, ih, map_cons, sum_cons]

theorem uses_flatMap {Item : Type*} (items : List Item) (image : Item → List GaSignal) :
    uses address (items.flatMap image) = (items.map fun item => uses address (image item)).sum := by
  rw [flatMap_def, uses_flatten, map_map]
  rfl

theorem sum_entries_ite {Key Value : Type*} [DecidableEq Key] (map : OrderedMap Key Value)
    (key : Key) (amount : ℕ) :
    (map.entries.map fun entry => if entry.1 = key then amount else 0).sum =
      if map.has key then amount else 0 := by
  have counted (entries : List (Key × Value)) :
      (entries.map fun entry => if entry.1 = key then amount else 0).sum =
        (entries.map Prod.fst).count key * amount := by
    induction entries with
    | nil => simp
    | cons entry rest ih =>
      rw [map_cons, sum_cons, ih, map_cons, count_cons, Nat.add_mul, Nat.add_comm]
      by_cases same : entry.1 = key <;> simp [same]
  rw [counted, map.nodup.count]
  by_cases present : map.has key = true
  · have member : key ∈ map.entries.map Prod.fst := mem_keys_iff.mpr present
    rw [if_pos member, if_pos present, Nat.one_mul]
  · have absent : key ∉ map.entries.map Prod.fst := fun member =>
      present (mem_keys_iff.mp member)
    rw [if_neg absent, if_neg present, Nat.zero_mul]

theorem uses_collapse (named : Named sigs) :
    bound address (collapseToOneBindingPerCapability sigs).1 +
      uses address (collapseToOneBindingPerCapability sigs).2 = uses address sigs := by
  have sound := sortSignals_sound sigs
  have keptNamed := named.perm sound.kept
  have each : ∀ entry ∈ (sortSignals sigs).byCapability.entries,
      bound address (bindCapability (sortSignals sigs).hvacAuxSigs entry.1 entry.2).1 +
        uses address (bindCapability (sortSignals sigs).hvacAuxSigs entry.1 entry.2).2 =
      uses address entry.2 +
        if entry.1 = .temperature then uses address (sortSignals sigs).hvacAuxSigs else 0 := by
    intro entry member
    have keyed := sound.keyed entry.1 entry.2 (get_eq_some_iff.mpr member)
    refine uses_bindCapability _ _ keyed.1 (keptNamed.sublist ?_)
    refine List.Sublist.trans ?_ (sublist_append_left _ _)
    exact sublist_flatten_of_mem (mem_map_of_mem member)
  have total := congrArg List.sum (map_congr_left each)
  rw [sum_map_add, sum_map_add, sum_entries_ite] at total
  have whole := @uses_perm address _ _ sound.kept
  simp only [uses_append, uses_flatten, OrderedMap.values, map_map, Function.comp_def]
    at whole
  simp only [collapseToOneBindingPerCapability, bound_flatMap, uses_append, uses_flatMap,
    flatMap_map]
  by_cases attached : (sortSignals sigs).byCapability.has .temperature = true
  · simp only [if_pos attached, uses_nil] at total ⊢
    omega
  · simp only [if_neg attached] at total ⊢
    omega

theorem capability_bindCapability (hvacAuxSigs : List GaSignal) {capability : CapabilityKind}
    {list : List GaSignal} (filled : list ≠ [])
    (keyed : ∀ sig ∈ list, bindableCapability sig.role = some capability) :
    (bindCapability hvacAuxSigs capability list).1.map RecognizedBinding.capability =
      [capability] := by
  have perm : (byPriority list).Perm list := perm_insertionSort _ list
  cases sorted : byPriority list with
  | nil => exact absurd (nil_perm.mp (sorted ▸ perm)) filled
  | cons winner rest =>
    have inside : winner ∈ list := perm.mem_iff.mp (sorted ▸ mem_cons_self)
    simp [bindCapability, sorted, toBinding, keyed winner inside]

theorem capabilities_collapse (sigs : List GaSignal) :
    (collapseToOneBindingPerCapability sigs).1.map RecognizedBinding.capability =
      (sortSignals sigs).byCapability.keys := by
  have each : ∀ entry ∈ (sortSignals sigs).byCapability.entries,
      (bindCapability (sortSignals sigs).hvacAuxSigs entry.1 entry.2).1.map
        RecognizedBinding.capability = [entry.1] := by
    intro entry member
    have keyed := (sortSignals_sound sigs).keyed entry.1 entry.2
      (get_eq_some_iff.mpr member)
    exact capability_bindCapability _ keyed.1 keyed.2
  simp only [collapseToOneBindingPerCapability, flatMap_map, map_flatMap]
  rw [flatMap_congr each, ← map_eq_flatMap]
  rfl

theorem sensor_notMem_collapse (primary : ∀ sig ∈ sigs, isSensorRole sig.role = false) :
    .sensor ∉ (collapseToOneBindingPerCapability sigs).1.map RecognizedBinding.capability := by
  rw [capabilities_collapse]
  intro inside
  rcases has_iff.mp (mem_keys_iff.mp inside) with ⟨list, stored⟩
  have sound := sortSignals_sound sigs
  have keyed := sound.keyed .sensor list stored
  rcases exists_mem_of_ne_nil list keyed.1 with ⟨sig, member⟩
  have listed : list ∈ (sortSignals sigs).byCapability.values :=
    mem_values_iff.mpr ⟨.sensor, stored⟩
  have given : sig ∈ sigs := sound.kept.mem_iff.mp
    (mem_append_left _ (mem_flatten_of_mem listed member))
  have sensor := (isSensorRole_iff sig.role).mpr (keyed.2 sig member)
  rw [primary sig given] at sensor
  exact Bool.noConfusion sensor

variable {bindings : List RecognizedBinding} {sensorSigs : List GaSignal}

theorem bound_sensor (sig : GaSignal) :
    bound address [toBinding sig none []] = uses address [sig] := by
  rw [bound_toBinding]
  rfl

theorem uses_absorbSensor : bound address (absorbSensor bindings sensorSigs).1 +
      uses address (absorbSensor bindings sensorSigs).2 =
    bound address bindings + uses address sensorSigs := by
  cases bindings with
  | nil => rfl
  | cons binding others =>
    cases sensorSigs with
    | nil => rfl
    | cons first rest =>
      rw [absorbSensor, bound_append, bound_sensor, uses_cons first rest, Nat.add_assoc]

theorem capabilities_absorbSensor (distinct : (bindings.map RecognizedBinding.capability).Nodup)
    (free : .sensor ∉ bindings.map RecognizedBinding.capability)
    (sensors : ∀ sig ∈ sensorSigs, isSensorRole sig.role = true) :
    ((absorbSensor bindings sensorSigs).1.map RecognizedBinding.capability).Nodup := by
  cases bindings with
  | nil => exact nodup_nil
  | cons binding others =>
    cases sensorSigs with
    | nil => exact distinct
    | cons first rest =>
      have sensor : (toBinding first none []).capability = .sensor := by
        rw [toBinding, (isSensorRole_iff first.role).mp (sensors first (.head _))]
        rfl
      rw [absorbSensor, map_append, map_singleton, sensor, nodup_append]
      exact ⟨distinct, nodup_singleton _, fun capability inside other single =>
        mem_singleton.mp single ▸ fun same => free (same ▸ inside)⟩

theorem unbound_emitUnboundWarning (deviceName : String) (excluded : List GaSignal)
    (code : UnboundCode) :
    ((emitUnboundWarning deviceName excluded code).flatMap ImportWarning.unbound).count address =
      uses address excluded := by
  rw [emitUnboundWarning]
  split
  · rename_i none
    rw [List.isEmpty_iff.mp none]
    rfl
  · cases code <;> simp [ImportWarning.unbound, uses]

def clusterAccounted (address : String)
    (recognized : List RecognizedDevice × List ImportWarning) : ℕ :=
  (recognized.1.flatMap RecognizedDevice.addresses).count address +
    (recognized.2.flatMap ImportWarning.unbound).count address

theorem accounted_sensorDevices (facts : ClusterFacts) (humanBaseName baseName : String) :
    ((sensorSigs.map (sensorDevice facts humanBaseName baseName)).flatMap
      RecognizedDevice.addresses).count address = uses address sensorSigs := by
  induction sensorSigs with
  | nil => rfl
  | cons sig rest ih =>
    rw [map_cons, flatMap_cons, count_append, ih, uses_cons sig rest]
    exact congrArg (· + uses address rest) (bound_sensor sig)

theorem accounted_recognizeCluster (model : KnxProjectModel) {cluster : List GaSignal}
    (named : Named cluster) :
    clusterAccounted address (recognizeCluster toLowerCase model cluster) =
      uses address cluster := by
  rw [recognizeCluster]
  set facts := clusterFacts toLowerCase model cluster
  set sigs := if isCoverDeviceType facts.deviceType then cluster.map GaSignal.retag else cluster
    with tagged
  have sigsNamed : Named sigs := by
    rw [tagged]
    split
    · exact named.retag
    · exact named
  have sigsUses : uses address sigs = uses address cluster := by
    rw [tagged]
    split
    · exact uses_retag cluster
    · rfl
  have parted := @uses_filter address (fun sig => isSensorRole sig.role) sigs
  have collapsed := @uses_collapse address (sigs.filter fun sig => !isSensorRole sig.role)
    (sigsNamed.sublist filter_sublist)
  have absorbed := @uses_absorbSensor address
    (collapseToOneBindingPerCapability (sigs.filter fun sig => !isSensorRole sig.role)).1
    (sigs.filter fun sig => isSensorRole sig.role)
  dsimp only
  split
  · rename_i none
    rw [List.isEmpty_iff.mp none] at absorbed
    rw [clusterAccounted, accounted_sensorDevices, unbound_emitUnboundWarning]
    have empty : bound address [] = 0 := rfl
    omega
  · rw [clusterAccounted, flatMap_cons, count_append, accounted_sensorDevices,
      unbound_emitUnboundWarning]
    have device : (buildRecognizedDevice facts
        (humanizeName toLowerCase (rawBaseName toLowerCase cluster))
        (rawBaseName toLowerCase cluster) (absorbSensor (collapseToOneBindingPerCapability
          (sigs.filter fun sig => !isSensorRole sig.role)).1
          (sigs.filter fun sig => isSensorRole sig.role)).1 sigs).addresses.count address =
        bound address (absorbSensor (collapseToOneBindingPerCapability
          (sigs.filter fun sig => !isSensorRole sig.role)).1
          (sigs.filter fun sig => isSensorRole sig.role)).1 := rfl
    omega

theorem deviceBound_recognizeCluster (model : KnxProjectModel) (cluster : List GaSignal) :
    ∀ device ∈ (recognizeCluster toLowerCase model cluster).1, DeviceBound device := by
  have split_off : ∀ facts humanBaseName baseName (sig : GaSignal),
      DeviceBound (sensorDevice facts humanBaseName baseName sig) := fun _ _ _ _ =>
    ⟨cons_ne_nil _ _, nodup_singleton _⟩
  have distinct (sigs : List GaSignal) : ((absorbSensor (collapseToOneBindingPerCapability
      (sigs.filter fun sig => !isSensorRole sig.role)).1
      (sigs.filter fun sig => isSensorRole sig.role)).1.map
        RecognizedBinding.capability).Nodup := by
    refine capabilities_absorbSensor ?_ (sensor_notMem_collapse ?_) ?_
    · rw [capabilities_collapse]
      exact OrderedMap.nodup _
    · intro sig inside
      simpa using (mem_filter.mp inside).2
    · intro sig inside
      exact (mem_filter.mp inside).2
  intro device member
  rw [recognizeCluster] at member
  set sigs := if isCoverDeviceType (clusterFacts toLowerCase model cluster).deviceType then
    cluster.map GaSignal.retag else cluster
  dsimp only at member
  split at member
  · rcases mem_map.mp member with ⟨sig, -, rfl⟩
    exact split_off _ _ _ sig
  · rename_i some
    rcases mem_cons.mp member with rfl | split
    · exact ⟨fun none => some (List.isEmpty_iff.mpr none), distinct _⟩
    · rcases mem_map.mp split with ⟨sig, -, rfl⟩
      exact split_off _ _ _ sig

theorem unbound_duplicateWarnings (addresses : List KnxGroupAddressRecord) :
    (duplicateWarnings addresses).flatMap ImportWarning.unbound = [] := by
  rw [duplicateWarnings]
  refine List.foldlRecOn (motive := fun seen : OrderedMap String String × List ImportWarning =>
    seen.2.flatMap ImportWarning.unbound = []) addresses _ (by rfl) ?_
  intro seen none ga _
  split
  · rw [flatMap_append, none]
    rfl
  · exact none

theorem unbound_dptWarnings (ga : KnxGroupAddressRecord) :
    (dptWarnings ga).flatMap ImportWarning.unbound = [] := by
  rw [dptWarnings]
  split
  · rfl
  · split <;> rfl

theorem unbound_comObjectWarnings (co : KnxCommunicationObject) :
    (comObjectWarnings co).flatMap ImportWarning.unbound = [] := by
  rw [comObjectWarnings]
  split <;> rfl

theorem accounted_clusters (model : KnxProjectModel) {clusters : List (List GaSignal)}
    (named : Named clusters.flatten) :
    clusterAccounted address
      ((clusters.map (recognizeCluster toLowerCase model)).flatMap Prod.fst,
        (clusters.map (recognizeCluster toLowerCase model)).flatMap Prod.snd) =
      uses address clusters.flatten := by
  induction clusters with
  | nil => rfl
  | cons cluster rest ih =>
    have first := @accounted_recognizeCluster toLowerCase address model cluster
      (named.sublist (sublist_append_left _ _))
    have onward := ih (named.sublist (sublist_append_right _ _))
    simp only [clusterAccounted, map_cons, flatMap_cons, flatMap_append,
      count_append, flatten_cons, uses_append] at first onward ⊢
    omega

theorem addresses_buildSignals (toLowerCase : String → String) (model : KnxProjectModel) :
    (buildSignals toLowerCase model).map (fun sig => sig.ga.address) =
      model.groupAddresses.values.map KnxGroupAddressRecord.address := by
  rw [buildSignals, map_map]
  rfl

theorem perm_clusterSignals (signals : List GaSignal) (knownRoomNames : List String) :
    (clusterSignals toLowerCase signals knownRoomNames).values.flatten.Perm signals := by
  have perm := Multimap.perm_flatten_addAll .empty
    (signals.map fun sig => (clusterKey toLowerCase knownRoomNames sig, sig))
  rw [map_map] at perm
  exact perm.trans (List.Perm.of_eq (map_id'' (fun _ => rfl) signals))

/-- Every address is bound once or reported once, and no device binds a capability twice. -/
theorem recognizeDevices_accounts (toLowerCase : String → String) (model : KnxProjectModel)
    (knownRoomNames : List String)
    (distinct : (model.groupAddresses.values.map KnxGroupAddressRecord.address).Nodup)
    (filled : "" ∉ model.groupAddresses.values.map KnxGroupAddressRecord.address) :
    (∀ ga ∈ model.groupAddresses.values,
      (recognizeDevices toLowerCase model knownRoomNames).accounted.count ga.address = 1) ∧
    ∀ device ∈ (recognizeDevices toLowerCase model knownRoomNames).devices, DeviceBound device := by
  have perm := @perm_clusterSignals toLowerCase (buildSignals toLowerCase model) knownRoomNames
  have named : Named (buildSignals toLowerCase model) := by
    constructor
    · rw [addresses_buildSignals]
      exact distinct
    · rw [addresses_buildSignals]
      exact filled
  constructor
  · intro ga member
    have once : uses ga.address (buildSignals toLowerCase model) = 1 := by
      rw [uses, addresses_buildSignals, distinct.count, if_pos (mem_map_of_mem member)]
    rw [uses_perm perm.symm, ← @accounted_clusters toLowerCase _ model _ (named.perm perm)] at once
    have dpts : (model.groupAddresses.values.flatMap dptWarnings).flatMap
        ImportWarning.unbound = [] := by
      rw [flatMap_assoc]
      exact flatMap_eq_nil_iff.mpr fun ga _ => unbound_dptWarnings ga
    have comObjects : (model.communicationObjects.values.flatMap comObjectWarnings).flatMap
        ImportWarning.unbound = [] := by
      rw [flatMap_assoc]
      exact flatMap_eq_nil_iff.mpr fun co _ => unbound_comObjectWarnings co
    simp only [RecognitionResult.accounted, recognizeDevices, flatMap_append,
      unbound_duplicateWarnings, dpts, comObjects, nil_append, count_append]
    exact once
  · intro device member
    rcases mem_flatMap.mp member with ⟨recognized, inside, given⟩
    rcases mem_map.mp inside with ⟨cluster, -, rfl⟩
    exact deviceBound_recognizeCluster model cluster device given

/-- An office with a light and an air conditioner, whose mode has no capability of its own. -/
def officeProject : KnxProjectModel where
  deviceInstances := .empty
  communicationObjects := .empty
  groupAddresses := [⟨"ga1", "1/1/1", "Office Light - Switch", some "1.001", none, none⟩,
    ⟨"ga2", "1/1/2", "Office Light - Switch Status", some "1.001", none, none⟩,
    ⟨"ga3", "2/1/1", "Office AC - Temperature Setpoint", some "9.001", none, none⟩,
    ⟨"ga4", "2/1/2", "Office AC - Ambient Temperature", some "9.001", none, none⟩,
    ⟨"ga5", "2/1/3", "Office AC - Mode", some "20.102", none, none⟩].foldl
      (fun addresses ga => addresses.set ga.id ga) .empty
  functions := .empty

/-- Lower case of the letters of English. -/
def lowerLetters (text : String) : String := String.ofList (text.toList.map Char.toLower)

theorem recognizeDevices_accounts_office : (∀ ga ∈ officeProject.groupAddresses.values,
      (recognizeDevices lowerLetters officeProject ["Office"]).accounted.count ga.address = 1) ∧
    ∀ device ∈ (recognizeDevices lowerLetters officeProject ["Office"]).devices,
      DeviceBound device :=
  recognizeDevices_accounts lowerLetters officeProject ["Office"] (by decide +kernel)
    (by decide +kernel)

/-- An empty address counts as no address where it would be a status side. -/
theorem recognizeDevices_loses_emptyAddress :
    ¬∀ (toLowerCase : String → String) (model : KnxProjectModel) (knownRoomNames : List String),
      (model.groupAddresses.values.map KnxGroupAddressRecord.address).Nodup →
      (∀ ga ∈ model.groupAddresses.values,
        (recognizeDevices toLowerCase model knownRoomNames).accounted.count ga.address = 1) ∧
      ∀ device ∈ (recognizeDevices toLowerCase model knownRoomNames).devices,
        DeviceBound device := by
  intro accounts
  let status : KnxGroupAddressRecord :=
    ⟨"ga1", "", "Hall Light - Switch Feedback", some "1.001", none, none⟩
  let write : KnxGroupAddressRecord :=
    ⟨"ga2", "6/1/2", "Hall Light - Switch", some "1.001", none, none⟩
  let model : KnxProjectModel :=
    ⟨.empty, .empty, (OrderedMap.empty.set "ga1" status).set "ga2" write, .empty⟩
  have once := (accounts lowerLetters model [] (by decide +kernel)).1 status (by decide +kernel)
  have lost : (recognizeDevices lowerLetters model []).accounted.count "" = 0 := by
    decide +kernel
  rw [lost] at once
  exact Nat.zero_ne_one once

end SupremeOs.KnxImport
