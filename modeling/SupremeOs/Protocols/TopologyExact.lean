import SupremeOs.Protocols.DevialetTopology
import SupremeOs.Support.Machine
import SupremeOs.Support.Updates

/-!
# Devialet topology is what the devices reported

The calls of a registry are recorded.  What a device has reported last is read
off the record; the systems and groups of a snapshot are compared with what
these reports say.

Two members of a system that report different groups do not leave it without
one: the first of them decides it.
-/

namespace SupremeOs.Protocols

open Support List OrderedMap Option
open Crypto (codeUnits codeUnits_injective arrayIndex)

inductive TopologyCall where
  | merge (fresh : List DevialetFreshDeviceTopology)
  | remove (deviceId : String)

def performCall (snapshot : DevialetTopologySnapshot) : TopologyCall → DevialetTopologySnapshot
  | .merge fresh => (merge snapshot fresh).next
  | .remove deviceId => (remove snapshot deviceId).next

/-- The registry, with the calls that were made. -/
def topologyMachine : Machine (DevialetTopologySnapshot × List TopologyCall) TopologyCall :=
  Machine.recording ⟨fun snapshot call => some (performCall snapshot call)⟩
    fun _ call _ history => history ++ [call]

/-- What a call says about a device: what it has reported, or that it is gone. -/
def reportOf (deviceId : String) : TopologyCall → Option (Option DevialetDeviceTopology)
  | .merge fresh =>
    (fresh.filter fun answer => decide (answer.deviceId = deviceId)).getLast?.map
      fun answer => some answer.device
  | .remove other => if other = deviceId then some none else none

/-- What a device has reported last, unless it was removed since. -/
def lastReport (history : List TopologyCall) (deviceId : String) :
    Option DevialetDeviceTopology :=
  lastSet (reportOf deviceId) none history

structure SortedNames (property : String → Prop) (names : List String) : Prop where
  sorted : names.Pairwise fun left right => codeUnits left < codeUnits right
  exactly : ∀ name, name ∈ names ↔ property name

variable {known : String → Option DevialetDeviceTopology}

def InSystem (known : String → Option DevialetDeviceTopology) (systemId deviceId : String) :
    Prop :=
  ∃ device, known deviceId = some device ∧ device.systemId = some systemId

def Reports (known : String → Option DevialetDeviceTopology) (systemId groupId : String) : Prop :=
  ∃ deviceId device, known deviceId = some device ∧ device.systemId = some systemId ∧
    device.groupId = some groupId

def AgreedGroup (known : String → Option DevialetDeviceTopology) (systemId groupId : String) :
    Prop :=
  Reports known systemId groupId ∧ ∀ other, Reports known systemId other → other = groupId

structure Derived (known : String → Option DevialetDeviceTopology)
    (snapshot : DevialetTopologySnapshot) : Prop where
  system : ∀ systemId system, snapshot.systems.get systemId = some system →
    systemId ≠ "" ∧ system.systemId = systemId ∧
    SortedNames (InSystem known systemId) system.memberDeviceIds ∧ system.memberDeviceIds ≠ [] ∧
    ∀ groupId, system.groupId = some groupId ↔ AgreedGroup known systemId groupId
  hasSystem : ∀ systemId deviceId, systemId ≠ "" → InSystem known systemId deviceId →
    snapshot.systems.has systemId = true
  group : ∀ groupId group, snapshot.groups.get groupId = some group →
    groupId ≠ "" ∧ group.groupId = groupId ∧ group.memberSystemIds ≠ [] ∧
    SortedNames (fun systemId => ∃ system, snapshot.systems.get systemId = some system ∧
      system.groupId = some groupId) group.memberSystemIds
  hasGroup : ∀ systemId system groupId, snapshot.systems.get systemId = some system →
    system.groupId = some groupId → groupId ≠ "" → snapshot.groups.has groupId = true

/-- Each known device carries what it has reported last, and all else is derived from that. -/
structure TopologyExact (history : List TopologyCall) (snapshot : DevialetTopologySnapshot) :
    Prop where
  devices : ∀ deviceId, snapshot.devices.get deviceId = lastReport history deviceId
  derived : Derived (lastReport history) snapshot

/-- Two snapshots say the same, whatever the order of their properties. -/
structure SameSnapshot (left right : DevialetTopologySnapshot) : Prop where
  devices : ∀ deviceId, left.devices.get deviceId = right.devices.get deviceId
  systems : ∀ systemId, left.systems.get systemId = right.systems.get systemId
  groups : ∀ groupId, left.groups.get groupId = right.groups.get groupId

/-- A round that is merged again changes nothing, and neither does the order of its answers. -/
def RoundSettles (before : DevialetTopologySnapshot) (call : TopologyCall)
    (after : DevialetTopologySnapshot) : Prop :=
  match call with
  | .merge fresh =>
    SameSnapshot (merge after fresh).next after ∧ (merge after fresh).changed = false ∧
    ∀ other, other.Perm fresh → SameSnapshot (merge before other).next after
  | .remove _ => True

def GroupsAgree (known : String → Option DevialetDeviceTopology) : Prop :=
  ∀ systemId groupId other, systemId ≠ "" → Reports known systemId groupId →
    Reports known systemId other → groupId = other

def NamesAgree (fresh : List DevialetFreshDeviceTopology) : Prop :=
  ∀ first ∈ fresh, ∀ second ∈ fresh, ∀ systemId name other,
    first.naming = some (systemId, name) → second.naming = some (systemId, other) → name = other

/-- No identifier of an answer is the one that a record does not take for a property. -/
def PlainNames (fresh : List DevialetFreshDeviceTopology) : Prop :=
  ∀ answer ∈ fresh, answer.deviceId ≠ "__proto__" ∧ answer.systemId ≠ some "__proto__" ∧
    answer.groupId ≠ some "__proto__"

structure RoundAgrees (history : List TopologyCall) (fresh : List DevialetFreshDeviceTopology) :
    Prop where
  once : (fresh.map DevialetFreshDeviceTopology.deviceId).Nodup
  names : NamesAgree fresh
  groups : GroupsAgree (lastReport (history ++ [.merge fresh]))
  plain : PlainNames fresh

def CallAgrees (config : DevialetTopologySnapshot × List TopologyCall) : TopologyCall → Prop
  | .merge fresh => RoundAgrees config.2 fresh
  | .remove _ => True

theorem objectValues_perm {Value : Type*} (record : OrderedMap String Value) :
    (objectValues record).Perm record.values :=
  (((perm_insertionSort _ _).append_right _).trans
    (filter_append_perm _ record.entries)).map Prod.snd

theorem mem_objectValues_iff {Value : Type*} {record : OrderedMap String Value} {value : Value} :
    value ∈ objectValues record ↔ ∃ key, record.get key = some value :=
  (objectValues_perm record).mem_iff.trans mem_values_iff

theorem truthy_eq_some_iff {name : Option String} {text : String} :
    truthy name = some text ↔ name = some text ∧ text ≠ "" := by
  simp [truthy, filter_eq_some_iff]

theorem sortNames_ne_nil {names : List String} (some : names ≠ []) : sortNames names ≠ [] := by
  rcases exists_mem_of_ne_nil names some with ⟨name, member⟩
  exact ne_nil_of_mem ((perm_insertionSort _ names).mem_iff.mpr member)

theorem nodup_objectValues {Value : Type*} {record : OrderedMap String Value}
    {nameOf : Value → String}
    (keyed : ∀ key value, record.get key = some value → nameOf value = key) :
    ((objectValues record).map nameOf).Nodup := by
  have names : record.values.map nameOf = record.keys := by
    rw [OrderedMap.values, List.map_map]
    refine map_congr_left fun entry member => ?_
    exact keyed entry.1 entry.2 (get_eq_some_iff.mpr member)
  rw [((objectValues_perm record).map _).nodup_iff, names]
  exact record.nodup

theorem sortNames_sorted {names : List String} {property : String → Prop} (distinct : names.Nodup)
    (exactly : ∀ name, name ∈ names ↔ property name) :
    SortedNames property (sortNames names) := by
  have perm : (sortNames names).Perm names := perm_insertionSort _ names
  refine ⟨?_, fun name => perm.mem_iff.trans (exactly name)⟩
  have ordered : (sortNames names).Pairwise fun left right =>
      codeUnits left ≤ codeUnits right := by
    have total : Std.Total fun left right : String => codeUnits left ≤ codeUnits right :=
      ⟨fun _ _ => le_total _ _⟩
    have trans : IsTrans String fun left right => codeUnits left ≤ codeUnits right :=
      ⟨fun _ _ _ => le_trans⟩
    exact pairwise_insertionSort _ names
  refine (ordered.and (perm.nodup_iff.mpr distinct)).imp ?_
  rintro left right ⟨before, differs⟩
  exact lt_of_le_of_ne before fun same => differs (codeUnits_injective same)

theorem SortedNames.unique {property other : String → Prop} {left right : List String}
    (sorted : SortedNames property left) (sortedToo : SortedNames other right)
    (same : ∀ name, property name ↔ other name) : left = right := by
  have perm : left.Perm right := by
    refine (perm_ext_iff_of_nodup ?_ ?_).mpr fun name => ?_
    · exact sorted.sorted.imp fun before same => before.ne (congrArg codeUnits same)
    · exact sortedToo.sorted.imp fun before same => before.ne (congrArg codeUnits same)
    · rw [sorted.exactly, sortedToo.exactly, same]
  refine perm.eq_of_pairwise ?_ sorted.sorted sortedToo.sorted
  intro first second _ _ before after
  exact absurd (before.trans after) (lt_irrefl _)

/-- The devices of a record stand under their own identifiers. -/
def Keyed (devices : OrderedMap String DevialetDeviceTopology) : Prop :=
  ∀ deviceId device, devices.get deviceId = some device → device.deviceId = deviceId

theorem get_mergedDevices (known : OrderedMap String DevialetDeviceTopology)
    (fresh : List DevialetFreshDeviceTopology) (deviceId : String) :
    (mergedDevices known fresh).get deviceId =
      ((fresh.filter fun answer => decide (answer.deviceId = deviceId)).getLast?.map
        DevialetFreshDeviceTopology.device).or (known.get deviceId) := by
  induction fresh using List.reverseRecOn with
  | nil => rfl
  | append_singleton earlier answer ih =>
    rw [mergedDevices] at ih ⊢
    rw [foldl_append, filter_append, foldl_cons, foldl_nil,
      get_set, ih]
    by_cases same : answer.deviceId = deviceId
    · simp [same]
    · simp [same, Ne.symm same]

theorem lastReport_merge (history : List TopologyCall)
    (fresh : List DevialetFreshDeviceTopology) (deviceId : String) :
    lastReport (history ++ [.merge fresh]) deviceId =
      ((fresh.filter fun answer => decide (answer.deviceId = deviceId)).getLast?.map
        DevialetFreshDeviceTopology.device).or (lastReport history deviceId) := by
  rw [lastReport, lastSet_concat, reportOf]
  cases (fresh.filter fun answer => decide (answer.deviceId = deviceId)).getLast? <;> rfl

theorem lastReport_remove (history : List TopologyCall) (removed deviceId : String) :
    lastReport (history ++ [.remove removed]) deviceId =
      if removed = deviceId then none else lastReport history deviceId := by
  rw [lastReport, lastSet_concat, reportOf]
  split <;> rfl

variable {systemId groupId : String} {devices : OrderedMap String DevialetDeviceTopology}
    {system : DevialetSystemTopology} {device : DevialetDeviceTopology}

theorem deviceId_of_lastReport {history : List TopologyCall} {deviceId : String}
    (reported : lastReport history deviceId = some device) :
    device.deviceId = deviceId := by
  have each : ∀ call report, reportOf deviceId call = some report →
      ∀ found, report = some found → found.deviceId = deviceId := by
    rintro (fresh | removed) report reports found rfl
    · simp only [reportOf, map_eq_some_iff] at reports
      rcases reports with ⟨answer, last, same⟩
      have member := mem_of_getLast? last
      rw [← Option.some.inj same]
      exact of_decide_eq_true (mem_filter.mp member).2
    · simp [reportOf] at reports
  exact @lastSet_induction _ _ _ _ (fun field => ∀ found, field = some found →
    found.deviceId = deviceId) none (by simp) each device reported

theorem get_mergedDevices_values (keyed : Keyed devices) (deviceId : String) :
    (mergedDevices .empty ((objectValues devices).map DevialetDeviceTopology.fresh)).get deviceId =
      devices.get deviceId := by
  have own : ∀ answer ∈ ((objectValues devices).map DevialetDeviceTopology.fresh).filter
      (fun answer => decide (answer.deviceId = deviceId)),
      devices.get deviceId = some answer.device := by
    intro answer member
    rcases mem_filter.mp member with ⟨listed, same⟩
    rcases List.mem_map.mp listed with ⟨device, inside, rfl⟩
    rcases mem_objectValues_iff.mp inside with ⟨key, stored⟩
    have here : device.deviceId = deviceId := of_decide_eq_true same
    rw [keyed key device stored] at here
    rw [← here]
    exact stored
  rw [get_mergedDevices, OrderedMap.get_empty, or_none]
  cases last : (((objectValues devices).map DevialetDeviceTopology.fresh).filter
      fun answer => decide (answer.deviceId = deviceId)).getLast? with
  | some answer => exact (own answer (mem_of_getLast? last)).symm
  | none =>
    cases stored : devices.get deviceId with
    | none => rfl
    | some device =>
      have absent : device.fresh ∉ ((objectValues devices).map DevialetDeviceTopology.fresh).filter
          fun answer => decide (answer.deviceId = deviceId) := by
        rw [getLast?_eq_none_iff.mp last]
        exact not_mem_nil
      refine absurd (mem_filter.mpr ⟨mem_map_of_mem ?_, ?_⟩) absent
      · exact mem_objectValues_iff.mpr ⟨deviceId, stored⟩
      · exact decide_eq_true (keyed deviceId device stored)

/-! ## Systems and groups that are built -/

/-- The name of a system once the answers of a round have named it. -/
def nameAfter (overrides : OrderedMap String (Option String))
    (previous : OrderedMap String DevialetSystemTopology) (systemId : String) : Option String :=
  match overrides.get systemId with
  | some name => name
  | none => (previous.get systemId).bind DevialetSystemTopology.systemName

theorem foldl_memberSystem (overrides : OrderedMap String (Option String))
    (previous : OrderedMap String DevialetSystemTopology) (systemId : String)
    (own : List DevialetDeviceTopology) :
    own.foldl (fun found device =>
        some (memberSystem overrides previous systemId found device)) none = if own = [] then none
      else some ⟨systemId, own.findSome? DevialetDeviceTopology.groupId,
        nameAfter overrides previous systemId, own.map DevialetDeviceTopology.deviceId⟩ := by
  induction own using List.reverseRecOn with
  | nil => rfl
  | append_singleton earlier device ih =>
    rw [foldl_append, ih, if_neg (append_ne_nil_of_right_ne_nil earlier (by simp))]
    by_cases first : earlier = []
    · subst first
      cases named : overrides.get systemId <;> simp [memberSystem, nameAfter, named]
    · cases named : overrides.get systemId <;>
        simp [memberSystem, nameAfter, first, named, findSome?_append]

theorem foldl_memberGroup (groupId : String) (own : List DevialetSystemTopology) :
    own.foldl (fun found system => some (memberGroup groupId found system)) none =
      if own = [] then none
      else some ⟨groupId, own.map DevialetSystemTopology.systemId⟩ := by
  induction own using List.reverseRecOn with
  | nil => rfl
  | append_singleton earlier system ih =>
    rw [foldl_append, ih, if_neg (append_ne_nil_of_right_ne_nil earlier (by simp))]
    by_cases first : earlier = []
    · subst first
      rfl
    · simp [memberGroup, first]

theorem joinSystem_none (overrides : OrderedMap String (Option String))
    (previous systems : OrderedMap String DevialetSystemTopology) (device : DevialetDeviceTopology)
    (none : truthy device.systemId = none) :
    joinSystem overrides previous systems device = systems := by
  rw [joinSystem, none]

theorem joinSystem_some (overrides : OrderedMap String (Option String))
    (previous systems : OrderedMap String DevialetSystemTopology) (device : DevialetDeviceTopology)
    (systemId : String) (own : truthy device.systemId = some systemId) :
    joinSystem overrides previous systems device = systems.set systemId
        (memberSystem overrides previous systemId (systems.get systemId) device) := by
  rw [joinSystem, own]

theorem joinGroup_none (groups : OrderedMap String DevialetGroupTopology)
    (system : DevialetSystemTopology) (none : truthy system.groupId = none) :
    joinGroup groups system = groups := by
  rw [joinGroup, none]

theorem joinGroup_some (groups : OrderedMap String DevialetGroupTopology)
    (system : DevialetSystemTopology) (groupId : String)
    (own : truthy system.groupId = some groupId) :
    joinGroup groups system =
      groups.set groupId (memberGroup groupId (groups.get groupId) system) := by
  rw [joinGroup, own]

def membersOf (devices : OrderedMap String DevialetDeviceTopology) (systemId : String) :
    List DevialetDeviceTopology :=
  (objectValues devices).filter fun device => decide (truthy device.systemId = some systemId)

def systemsOf (systems : OrderedMap String DevialetSystemTopology) (groupId : String) :
    List DevialetSystemTopology :=
  (objectValues systems).filter fun system => decide (truthy system.groupId = some groupId)

variable (previous : DevialetTopologySnapshot) (fresh : List DevialetFreshDeviceTopology)

theorem get_systems (systemId : String) :
    (buildDevialetTopologySnapshot previous fresh).systems.get systemId =
      if membersOf (mergedDevices previous.devices fresh) systemId = [] then none
      else some ⟨systemId, (membersOf (mergedDevices previous.devices fresh) systemId).findSome?
          DevialetDeviceTopology.groupId,
        nameAfter (systemNameOverrides fresh) previous.systems systemId,
        sortNames ((membersOf (mergedDevices previous.devices fresh) systemId).map
          DevialetDeviceTopology.deviceId)⟩ := by
  have joined := get_foldl_change
    (joinSystem_none (systemNameOverrides fresh) previous.systems)
    (joinSystem_some (systemNameOverrides fresh) previous.systems)
    (objectValues (mergedDevices previous.devices fresh)) .empty systemId
  rw [OrderedMap.get_empty, foldl_memberSystem] at joined
  rw [buildDevialetTopologySnapshot, get_mapValues, joined, membersOf]
  split <;> rfl

theorem get_groups (groupId : String) :
    (buildDevialetTopologySnapshot previous fresh).groups.get groupId =
      let own := systemsOf (buildDevialetTopologySnapshot previous fresh).systems groupId
      if own = [] then none
      else some ⟨groupId, sortNames (own.map DevialetSystemTopology.systemId)⟩ := by
  have joined := get_foldl_change joinGroup_none joinGroup_some
    (objectValues (buildDevialetTopologySnapshot previous fresh).systems) .empty groupId
  rw [OrderedMap.get_empty, foldl_memberGroup] at joined
  refine (get_mapValues _ _ groupId).trans ?_
  refine (congrArg (Option.map _) joined).trans ?_
  rw [systemsOf]
  dsimp only
  split <;> rfl

variable {previous fresh}

theorem nodup_membersOf (keyed : Keyed devices) (systemId : String) :
    ((membersOf devices systemId).map DevialetDeviceTopology.deviceId).Nodup :=
  (filter_sublist.map _).nodup (nodup_objectValues keyed)

theorem mem_membersOf_iff :
    device ∈ membersOf devices systemId ↔ (∃ deviceId, devices.get deviceId = some device) ∧
        device.systemId = some systemId ∧ systemId ≠ "" := by
  rw [membersOf, mem_filter, mem_objectValues_iff, decide_eq_true_eq, truthy_eq_some_iff]

theorem mem_map_membersOf_iff (keyed : Keyed devices) (filled : systemId ≠ "") (deviceId : String) :
    deviceId ∈ (membersOf devices systemId).map DevialetDeviceTopology.deviceId ↔
      InSystem devices.get systemId deviceId := by
  rw [List.mem_map]
  constructor
  · rintro ⟨device, member, rfl⟩
    rcases mem_membersOf_iff.mp member with ⟨⟨key, stored⟩, inside, -⟩
    rw [← keyed key device stored] at stored
    exact ⟨device, stored, inside⟩
  · rintro ⟨device, stored, inside⟩
    exact ⟨device, mem_membersOf_iff.mpr ⟨⟨deviceId, stored⟩, inside, filled⟩,
      keyed deviceId device stored⟩

theorem findSome_membersOf_iff (agree : GroupsAgree devices.get) (filled : systemId ≠ "")
    (groupId : String) :
    (membersOf devices systemId).findSome? DevialetDeviceTopology.groupId = some groupId ↔
      AgreedGroup devices.get systemId groupId := by
  have reports {found : String} {device : DevialetDeviceTopology}
      (member : device ∈ membersOf devices systemId) (reported : device.groupId = some found) :
      Reports devices.get systemId found := by
    rcases mem_membersOf_iff.mp member with ⟨⟨deviceId, stored⟩, inside, -⟩
    exact ⟨deviceId, device, stored, inside, reported⟩
  constructor
  · intro first
    rcases exists_of_findSome?_eq_some first with ⟨device, member, reported⟩
    have here := reports member reported
    exact ⟨here, fun other reportedToo => agree systemId other groupId filled reportedToo here⟩
  · rintro ⟨⟨deviceId, device, stored, inside, reported⟩, only⟩
    have member : device ∈ membersOf devices systemId :=
      mem_membersOf_iff.mpr ⟨⟨deviceId, stored⟩, inside, filled⟩
    cases first : (membersOf devices systemId).findSome? DevialetDeviceTopology.groupId with
    | none =>
      have nothing := findSome?_eq_none_iff.mp first device member
      rw [reported] at nothing
      exact absurd nothing (some_ne_none _)
    | some found =>
      rcases exists_of_findSome?_eq_some first with ⟨other, otherMember, otherReports⟩
      rw [only found (reports otherMember otherReports)]

theorem mem_systemsOf_iff {systems : OrderedMap String DevialetSystemTopology} :
    system ∈ systemsOf systems groupId ↔ (∃ systemId, systems.get systemId = some system) ∧
        system.groupId = some groupId ∧ groupId ≠ "" := by
  rw [systemsOf, mem_filter, mem_objectValues_iff, decide_eq_true_eq, truthy_eq_some_iff]

theorem derived_build (keyed : Keyed (mergedDevices previous.devices fresh))
    (agree : GroupsAgree (mergedDevices previous.devices fresh).get) :
    Derived (mergedDevices previous.devices fresh).get
      (buildDevialetTopologySnapshot previous fresh) := by
  set devices := mergedDevices previous.devices fresh with merged
  set next := buildDevialetTopologySnapshot previous fresh with built
  have ownId : ∀ systemId system, next.systems.get systemId = some system →
      system.systemId = systemId := by
    intro systemId system stored
    rw [built, get_systems] at stored
    split at stored
    · exact absurd stored (some_ne_none system).symm
    · rw [← Option.some.inj stored]
  constructor
  · intro systemId system stored
    have own := ownId systemId system stored
    rw [built, get_systems] at stored
    split at stored
    · exact absurd stored (some_ne_none system).symm
    · rename_i some
      rcases exists_mem_of_ne_nil _ some with ⟨device, member⟩
      have filled := (mem_membersOf_iff.mp member).2.2
      rw [← Option.some.inj stored]
      refine ⟨filled, rfl, ?_, ?_, findSome_membersOf_iff agree filled⟩
      · exact sortNames_sorted (nodup_membersOf keyed systemId)
          (mem_map_membersOf_iff keyed filled)
      · exact sortNames_ne_nil fun none => some (map_eq_nil_iff.mp none)
  · rintro systemId deviceId filled inside
    have member := (mem_map_membersOf_iff keyed filled deviceId).mpr inside
    have some : membersOf devices systemId ≠ [] := by
      intro none
      rw [none] at member
      exact not_mem_nil member
    rw [OrderedMap.has, built, get_systems, ← merged, if_neg some]
    rfl
  · intro groupId group stored
    rw [built, get_groups] at stored
    dsimp only at stored
    split at stored
    · exact absurd stored (some_ne_none group).symm
    · rename_i some
      rcases exists_mem_of_ne_nil _ some with ⟨system, member⟩
      have filled := (mem_systemsOf_iff.mp member).2.2
      rw [← Option.some.inj stored]
      refine ⟨filled, rfl, ?_, ?_⟩
      · exact sortNames_ne_nil fun none => some (map_eq_nil_iff.mp none)
      · refine sortNames_sorted ((filter_sublist.map _).nodup (nodup_objectValues ownId)) ?_
        intro name
        rw [List.mem_map]
        constructor
        · rintro ⟨inside, listed, rfl⟩
          rcases mem_systemsOf_iff.mp listed with ⟨⟨key, found⟩, grouped, -⟩
          rw [← ownId key inside found] at found
          exact ⟨inside, found, grouped⟩
        · rintro ⟨inside, found, grouped⟩
          exact ⟨inside, mem_systemsOf_iff.mpr ⟨⟨name, found⟩, grouped, filled⟩,
            ownId name inside found⟩
  · intro systemId system groupId stored grouped filled
    have member : system ∈ systemsOf next.systems groupId :=
      mem_systemsOf_iff.mpr ⟨⟨systemId, stored⟩, grouped, filled⟩
    have some : systemsOf next.systems groupId ≠ [] := ne_nil_of_mem member
    rw [OrderedMap.has, built, get_groups]
    dsimp only
    rw [← built, if_neg some]
    rfl

variable {left right : DevialetTopologySnapshot}

theorem Derived.system_eq (derived : Derived known left) (derivedToo : Derived known right)
    (names : ∀ systemId first second, left.systems.get systemId = some first →
      right.systems.get systemId = some second → first.systemName = second.systemName)
    (stored : left.systems.get systemId = some system) :
    right.systems.get systemId = some system := by
  rcases derived.system systemId system stored with ⟨filled, own, sorted, some, group⟩
  rcases exists_mem_of_ne_nil _ some with ⟨deviceId, member⟩
  have has := derivedToo.hasSystem systemId deviceId filled ((sorted.exactly deviceId).mp member)
  rcases has_iff.mp has with ⟨other, storedToo⟩
  rcases derivedToo.system systemId other storedToo with ⟨-, ownToo, sortedToo, -, groupToo⟩
  have members := sorted.unique sortedToo fun _ => Iff.rfl
  have groups : system.groupId = other.groupId :=
    Option.ext fun groupId => (group groupId).trans (groupToo groupId).symm
  have name := names systemId system other stored storedToo
  rw [storedToo]
  rcases system with ⟨ownId, ownGroup, ownName, ownMembers⟩
  rcases other with ⟨otherId, otherGroup, otherName, otherMembers⟩
  dsimp only at own ownToo members groups name
  rw [own, ownToo, members, groups, name]

theorem Derived.group_eq (derived : Derived known left) (derivedToo : Derived known right)
    (systems : ∀ systemId, left.systems.get systemId = right.systems.get systemId)
    {group : DevialetGroupTopology} (stored : left.groups.get groupId = some group) :
    right.groups.get groupId = some group := by
  rcases derived.group groupId group stored with ⟨filled, own, some, sorted⟩
  rcases exists_mem_of_ne_nil _ some with ⟨systemId, member⟩
  rcases (sorted.exactly systemId).mp member with ⟨system, found, grouped⟩
  rw [systems] at found
  have has := derivedToo.hasGroup systemId system groupId found grouped filled
  rcases has_iff.mp has with ⟨other, storedToo⟩
  rcases derivedToo.group groupId other storedToo with ⟨-, ownToo, -, sortedToo⟩
  have members := sorted.unique sortedToo fun name => by rw [systems]
  rw [storedToo]
  rcases group with ⟨ownId, ownMembers⟩
  rcases other with ⟨otherId, otherMembers⟩
  dsimp only at own ownToo members
  rw [own, ownToo, members]

theorem SameSnapshot.of_derived (derived : Derived known left) (derivedToo : Derived known right)
    (devices : ∀ deviceId, left.devices.get deviceId = right.devices.get deviceId)
    (names : ∀ systemId first second, left.systems.get systemId = some first →
      right.systems.get systemId = some second → first.systemName = second.systemName) :
    SameSnapshot left right := by
  have systems : ∀ systemId, left.systems.get systemId = right.systems.get systemId := by
    refine fun systemId => Option.ext fun system => ⟨derived.system_eq derivedToo names, ?_⟩
    exact derivedToo.system_eq derived fun systemId first second found foundToo =>
      (names systemId second first foundToo found).symm
  refine ⟨devices, systems, fun groupId => Option.ext fun group => ⟨?_, ?_⟩⟩
  · exact derived.group_eq derivedToo systems
  · exact derivedToo.group_eq derived fun systemId => (systems systemId).symm

theorem systemName_build
    (stored : (buildDevialetTopologySnapshot previous fresh).systems.get systemId = some system) :
    system.systemName = nameAfter (systemNameOverrides fresh) previous.systems systemId := by
  rw [get_systems] at stored
  split at stored
  · exact absurd stored (some_ne_none system).symm
  · rw [← Option.some.inj stored]

theorem get_systemNameOverrides_iff (agree : NamesAgree fresh) {name : Option String} :
    (systemNameOverrides fresh).get systemId = some name ↔
      ∃ answer ∈ fresh, answer.naming = some (systemId, name) := by
  induction fresh using List.reverseRecOn generalizing name with
  | nil => simp [systemNameOverrides]
  | append_singleton earlier answer ih =>
    have agreeEarlier : NamesAgree earlier := fun first firstMember second secondMember =>
      agree first (mem_append_left _ firstMember) second
        (mem_append_left _ secondMember)
    have before := @ih agreeEarlier name
    rw [systemNameOverrides] at before ⊢
    rw [filterMap_append, foldl_append, filterMap_cons, filterMap_nil]
    simp only [mem_append, mem_singleton, or_and_right, exists_or, exists_eq_left]
    cases named : answer.naming with
    | none => simpa using before
    | some naming =>
      rcases naming with ⟨other, otherName⟩
      rw [foldl_cons, foldl_nil, get_set]
      by_cases same : systemId = other
      · subst same
        rw [if_pos rfl]
        constructor
        · intro found
          have same : otherName = name := Option.some.inj found
          exact .inr (by rw [same])
        · rintro (⟨first, member, namedToo⟩ | namedToo)
          · rw [agree first (mem_append_left _ member) answer (by simp) systemId name
              otherName namedToo named]
          · rw [(Prod.mk.inj (Option.some.inj namedToo)).2]
      · rw [if_neg same, before]
        constructor
        · exact .inl
        · rintro (earlierNamed | namedToo)
          · exact earlierNamed
          · exact absurd (Prod.mk.inj (Option.some.inj namedToo)).1.symm same

variable {snapshot : DevialetTopologySnapshot} {history : List TopologyCall}

/-- The known devices of a registry are in their places and their groups agree. -/
structure TopologySound (history : List TopologyCall) (snapshot : DevialetTopologySnapshot) :
    Prop where
  exactly : TopologyExact history snapshot
  agree : GroupsAgree (lastReport history)

theorem topologySound_of_build {fresh : List DevialetFreshDeviceTopology}
    (devices : ∀ deviceId, (mergedDevices previous.devices fresh).get deviceId =
      lastReport history deviceId)
    (agree : GroupsAgree (lastReport history)) :
    TopologySound history (buildDevialetTopologySnapshot previous fresh) := by
  have known : (mergedDevices previous.devices fresh).get = lastReport history := funext devices
  have keyed : Keyed (mergedDevices previous.devices fresh) := by
    intro deviceId device stored
    rw [devices] at stored
    exact deviceId_of_lastReport stored
  refine ⟨⟨devices, ?_⟩, agree⟩
  rw [← known] at agree ⊢
  exact derived_build keyed agree

theorem TopologySound.merge (sound : TopologySound history snapshot)
    (agree : GroupsAgree (lastReport (history ++ [.merge fresh]))) :
    TopologySound (history ++ [.merge fresh]) (Protocols.merge snapshot fresh).next := by
  refine topologySound_of_build (fun deviceId => ?_) agree
  rw [get_mergedDevices, sound.exactly.devices, lastReport_merge]

theorem TopologySound.remove (sound : TopologySound history snapshot) (deviceId : String) :
    TopologySound (history ++ [.remove deviceId])
      (Protocols.remove snapshot deviceId).next := by
  have keyed : Keyed snapshot.devices := by
    intro other device stored
    rw [sound.exactly.devices] at stored
    exact deviceId_of_lastReport stored
  have fewer {other : String} {device : DevialetDeviceTopology}
      (reported : lastReport (history ++ [.remove deviceId]) other = some device) :
      lastReport history other = some device := by
    rw [lastReport_remove] at reported
    split at reported
    · exact absurd reported (some_ne_none device).symm
    · exact reported
  have agree : GroupsAgree (lastReport (history ++ [.remove deviceId])) := by
    rintro systemId groupId other filled ⟨first, device, known, inside, group⟩
      ⟨second, deviceToo, knownToo, insideToo, groupToo⟩
    exact sound.agree systemId groupId other filled ⟨first, device, fewer known, inside, group⟩
      ⟨second, deviceToo, fewer knownToo, insideToo, groupToo⟩
  simp only [Protocols.remove, changeResult, removeDeviceFromTopology]
  split
  · refine topologySound_of_build (fun other => ?_) agree
    have keyedRest : Keyed (snapshot.devices.delete deviceId) := by
      intro key device stored
      rw [OrderedMap.get_delete] at stored
      split at stored
      · exact absurd stored (some_ne_none device).symm
      · exact keyed key device stored
    rw [get_mergedDevices_values keyedRest, OrderedMap.get_delete, lastReport_remove,
      sound.exactly.devices]
    by_cases same : other = deviceId
    · rw [if_pos same, if_pos same.symm]
    · rw [if_neg same, if_neg (Ne.symm same)]
  · rename_i unknown
    have none : lastReport history deviceId = none := by
      rw [← sound.exactly.devices]
      simpa [OrderedMap.has] using unknown
    have same : lastReport (history ++ [.remove deviceId]) = lastReport history := by
      funext other
      rw [lastReport_remove]
      split
      · rename_i here
        rw [← here, none]
      · rfl
    exact ⟨⟨fun other => same ▸ sound.exactly.devices other,
      same.symm ▸ sound.exactly.derived⟩, agree⟩

theorem lastReport_perm {fresh other : List DevialetFreshDeviceTopology}
    (once : (fresh.map DevialetFreshDeviceTopology.deviceId).Nodup) (perm : other.Perm fresh) :
    lastReport (history ++ [.merge other]) = lastReport (history ++ [.merge fresh]) := by
  funext deviceId
  have parts := perm.filter fun answer => decide (answer.deviceId = deviceId)
  have same : other.filter (fun answer => decide (answer.deviceId = deviceId)) =
      fresh.filter fun answer => decide (answer.deviceId = deviceId) := by
    have few : (fresh.filter fun answer => decide (answer.deviceId = deviceId)).length ≤ 1 := by
      have count := nodup_iff_count_le_one.mp once deviceId
      rw [List.count, countP_map, countP_eq_length_filter] at count
      exact count
    match found : fresh.filter fun answer => decide (answer.deviceId = deviceId) with
    | [] => exact (found ▸ parts).eq_nil.trans found.symm
    | [answer] => exact (found ▸ parts).eq_singleton.trans found.symm
    | _ :: _ :: _ =>
      rw [found] at few
      simp at few
  rw [lastReport_merge, lastReport_merge, same]

theorem RoundAgrees.perm {fresh other : List DevialetFreshDeviceTopology}
    (agrees : RoundAgrees history fresh) (perm : other.Perm fresh) :
    RoundAgrees history other where
  once := (perm.map _).nodup_iff.mpr agrees.once
  names first firstMember second secondMember :=
    agrees.names first (perm.mem_iff.mp firstMember) second (perm.mem_iff.mp secondMember)
  groups := lastReport_perm agrees.once perm ▸ agrees.groups
  plain answer member := agrees.plain answer (perm.mem_iff.mp member)

theorem merge_perm {fresh other : List DevialetFreshDeviceTopology}
    (sound : TopologySound history snapshot) (agrees : RoundAgrees history fresh)
    (perm : other.Perm fresh) :
    SameSnapshot (merge snapshot other).next (merge snapshot fresh).next := by
  have agreesToo := agrees.perm perm
  have here := sound.merge agrees.groups
  have there := sound.merge agreesToo.groups
  have known := @lastReport_perm history _ _ agrees.once perm
  refine .of_derived there.exactly.derived (known ▸ here.exactly.derived) ?_ ?_
  · intro deviceId
    rw [there.exactly.devices, here.exactly.devices, known]
  · intro systemId first second found foundToo
    rw [systemName_build found, systemName_build foundToo, nameAfter, nameAfter]
    have named : (systemNameOverrides other).get systemId =
        (systemNameOverrides fresh).get systemId := by
      refine Option.ext fun name => ?_
      rw [get_systemNameOverrides_iff agreesToo.names, get_systemNameOverrides_iff agrees.names]
      exact exists_congr fun answer => and_congr_left fun _ => perm.mem_iff
    rw [named]

theorem lastReport_merge_again (fresh : List DevialetFreshDeviceTopology) :
    lastReport (history ++ [.merge fresh] ++ [.merge fresh]) =
      lastReport (history ++ [.merge fresh]) := by
  funext deviceId
  rw [lastReport_merge, lastReport_merge, ← Option.or_assoc, Option.or_self]

theorem merge_again {fresh : List DevialetFreshDeviceTopology}
    (sound : TopologySound history snapshot)
    (agree : GroupsAgree (lastReport (history ++ [.merge fresh]))) :
    SameSnapshot (merge (merge snapshot fresh).next fresh).next (merge snapshot fresh).next := by
  have once := sound.merge agree
  have known := @lastReport_merge_again history fresh
  have twice := once.merge (known.symm ▸ agree)
  refine .of_derived twice.exactly.derived (known ▸ once.exactly.derived) ?_ ?_
  · intro deviceId
    rw [twice.exactly.devices, once.exactly.devices, known]
  · intro systemId first second found foundToo
    rw [systemName_build found, nameAfter]
    have before := systemName_build foundToo
    rw [nameAfter] at before
    cases named : (systemNameOverrides fresh).get systemId with
    | some name =>
      rw [named] at before
      exact before.symm
    | none =>
      change ((buildDevialetTopologySnapshot snapshot fresh).systems.get systemId).bind _ = _
      rw [show (buildDevialetTopologySnapshot snapshot fresh).systems.get systemId = _
        from foundToo]
      rfl

theorem diffIds_same {Value : Type*} {first second : OrderedMap String Value}
    (same : ∀ key, second.get key = first.get key) : diffIds first second = ([], []) := by
  have added : second.keys.filter (fun key => !first.has key) = [] := by
    refine filter_eq_nil_iff.mpr fun key member => ?_
    have present := mem_keys_iff.mp member
    rw [OrderedMap.has, same] at present
    simp [OrderedMap.has, present]
  have removed : first.keys.filter (fun key => !second.has key) = [] := by
    refine filter_eq_nil_iff.mpr fun key member => ?_
    have present := mem_keys_iff.mp member
    rw [OrderedMap.has, ← same] at present
    simp [OrderedMap.has, present]
  rw [diffIds, added, removed]
  rfl

theorem SameSnapshot.unchanged (same : SameSnapshot right left) :
    (changeResult left right).changed = false := by
  have devices : right.devices.entries.filter (fun entry =>
      (left.devices.get entry.1).any fun before => isChanged before entry.2) = [] := by
    refine filter_eq_nil_iff.mpr fun entry member => ?_
    rw [← same.devices, get_eq_some_iff.mpr member]
    simp [isChanged]
  simp [changeResult, diffDevialetTopology, devices, diffIds_same same.devices,
    diffIds_same same.systems, diffIds_same same.groups, isTopologyChangeEmpty, sortNames]

/-- A registry says exactly what its devices have reported, in every state and at every step. -/
theorem topology_exact (calls : List TopologyCall)
    (agrees : topologyMachine.Guarded CallAgrees (emptyDevialetTopology, []) calls) :
    topologyMachine.Throughout (fun config => TopologyExact config.2 config.1)
      (emptyDevialetTopology, []) calls ∧
    topologyMachine.EachStep (fun before call after => RoundSettles before.1 call after.1)
      (emptyDevialetTopology, []) calls := by
  have preserved : ∀ config call after, TopologySound config.2 config.1 →
      CallAgrees config call → topologyMachine.step config call = some after →
      TopologySound after.2 after.1 := by
    rintro ⟨snapshot, history⟩ call after sound agrees taken
    rcases Machine.step_recording_eq_some.mp taken with ⟨next, stepped, rfl⟩
    cases stepped
    cases call with
    | merge fresh => exact sound.merge agrees.groups
    | remove deviceId => exact sound.remove deviceId
  have initial : TopologySound [] emptyDevialetTopology := by
    refine ⟨⟨fun _ => rfl, ?_⟩, ?_⟩
    · constructor <;> simp [emptyDevialetTopology, InSystem, lastReport]
    · simp [GroupsAgree, Reports, lastReport]
  constructor
  · exact (Machine.throughout_of_guarded preserved initial agrees).mono fun _ sound =>
      sound.exactly
  · refine Machine.eachStep_of_guarded preserved ?_ initial agrees
    rintro ⟨snapshot, history⟩ call after sound agrees taken
    rcases Machine.step_recording_eq_some.mp taken with ⟨next, stepped, rfl⟩
    cases stepped
    cases call with
    | remove deviceId => trivial
    | merge fresh =>
      have again := merge_again sound agrees.groups
      exact ⟨again, again.unchanged, fun other perm => merge_perm sound agrees perm⟩

def livingRoom (deviceId groupId : String) : DevialetFreshDeviceTopology :=
  ⟨deviceId, "dev-" ++ deviceId, "10.0.0.2", some "living", some groupId, some "Mono",
    some (some "Living room")⟩

theorem livingRoom_agrees {history : List TopologyCall} {fresh : List DevialetFreshDeviceTopology}
    (answers : fresh = [livingRoom "a" groupId, livingRoom "b" groupId] ∨
      fresh = [livingRoom "b" groupId, livingRoom "a" groupId])
    (plain : groupId ≠ "__proto__")
    (only : ∀ deviceId, deviceId ≠ "a" → deviceId ≠ "b" → lastReport history deviceId = none) :
    RoundAgrees history fresh := by
  have group : ∀ deviceId device, lastReport (history ++ [.merge fresh]) deviceId = some device →
      device.groupId = some groupId := by
    intro deviceId device reported
    rw [lastReport_merge] at reported
    by_cases first : deviceId = "a"
    · rcases answers with rfl | rfl <;> simp [livingRoom, first] at reported <;>
        rw [← reported] <;> rfl
    · by_cases second : deviceId = "b"
      · rcases answers with rfl | rfl <;> simp [livingRoom, second] at reported <;>
          rw [← reported] <;> rfl
      · rw [only deviceId first second] at reported
        rcases answers with rfl | rfl <;>
          simp [livingRoom, Ne.symm first, Ne.symm second] at reported
  have member : ∀ answer ∈ fresh, answer = livingRoom "a" groupId ∨
      answer = livingRoom "b" groupId := by
    rcases answers with rfl | rfl <;> simp [or_comm]
  refine ⟨?_, ?_, ?_, ?_⟩
  · rcases answers with rfl | rfl <;> simp [livingRoom]
  · intro first inside second insideToo systemId name other named namedToo
    rcases member first inside with rfl | rfl <;> rcases member second insideToo with rfl | rfl <;>
      exact (Prod.mk.inj (Option.some.inj (named.symm.trans namedToo))).2
  · rintro systemId reported other filled ⟨deviceId, device, known, -, own⟩
      ⟨deviceIdToo, deviceToo, knownToo, -, ownToo⟩
    rw [group deviceId device known] at own
    rw [group deviceIdToo deviceToo knownToo] at ownToo
    exact Option.some.inj (own.symm.trans ownToo)
  · intro answer inside
    rcases member answer inside with rfl | rfl <;> simp [livingRoom, plain]

theorem topology_exact_movedTogether :
    topologyMachine.Throughout (fun config => TopologyExact config.2 config.1)
      (emptyDevialetTopology, [])
      [.merge [livingRoom "a" "g1", livingRoom "b" "g1"],
        .merge [livingRoom "b" "g2", livingRoom "a" "g2"], .remove "a"] ∧
    topologyMachine.EachStep (fun before call after => RoundSettles before.1 call after.1)
      (emptyDevialetTopology, [])
      [.merge [livingRoom "a" "g1", livingRoom "b" "g1"],
        .merge [livingRoom "b" "g2", livingRoom "a" "g2"], .remove "a"] := by
  apply topology_exact
  refine ⟨livingRoom_agrees (.inl rfl) (by decide) fun _ _ _ => rfl,
    livingRoom_agrees (.inr rfl) (by decide) ?_, trivial, trivial⟩
  intro deviceId first second
  simp [lastReport, lastSet, reportOf, livingRoom, Ne.symm first, Ne.symm second]

/-- A member that has not answered keeps its group, and the system takes that of the other. -/
theorem topology_fails_movedApart :
    ¬∀ calls : List TopologyCall,
      topologyMachine.Throughout (fun config => TopologyExact config.2 config.1)
        (emptyDevialetTopology, []) calls ∧
      topologyMachine.EachStep (fun before call after => RoundSettles before.1 call after.1)
        (emptyDevialetTopology, []) calls := by
  intro every
  let calls : List TopologyCall :=
    [.merge [livingRoom "a" "g1", livingRoom "b" "g1"], .merge [livingRoom "a" "g2"]]
  have observed : (topologyMachine.run (emptyDevialetTopology, []) calls).map (fun config =>
      (config.1.systems.get "living", lastReport config.2 "b")) =
      some (some ⟨"living", some "g2", some "Living room", ["a", "b"]⟩,
        some (livingRoom "b" "g1").device) := by
    decide +kernel
  rcases map_eq_some_iff.mp observed with ⟨final, reached, fields⟩
  have fieldsEq := Prod.mk.inj fields
  have sound := Machine.property_of_throughout (every calls).1 reached
  have agreed := ((sound.derived.system "living" _ fieldsEq.1).2.2.2.2 "g2").mp rfl
  have same := agreed.2 "g1" ⟨"b", _, fieldsEq.2, rfl, rfl⟩
  exact absurd same (by decide)

end SupremeOs.Protocols
