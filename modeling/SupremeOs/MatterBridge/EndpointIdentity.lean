import SupremeOs.MatterBridge.EndpointRegistry
import SupremeOs.Support.Machine
import Mathlib.Data.List.Nodup

/-!
# The identity of endpoints

A bridged endpoint is known to the outside by its number.  The numbers of the
live mappings are positive, distinct and never change.  A number is given to a
second device or control only when the mapping with the highest number has been
removed: the next number is derived from the live mappings alone.
-/

namespace SupremeOs.MatterBridge

open Support DomainModel Option

structure EndpointOwner where
  deviceId : String
  controlId : Option String
deriving DecidableEq

def ownerOf (deviceId : String) (controlId : Option String) : EndpointOwner :=
  ⟨deviceId, namedControl controlId⟩

theorem ownerOf_eq_of_matterEndpointKey_eq (left right : SupremeId "dev")
    {leftControl rightControl : Option String}
    (same : matterEndpointKey left.text leftControl = matterEndpointKey right.text rightControl) :
    ownerOf left.text leftControl = ownerOf right.text rightControl := by
  have split : ∀ (id : SupremeId "dev") (control : Option String),
      matterEndpointKey id.text control =
        id.text ++ (namedControl control).elim "" fun name => "::" ++ name := by
    intro id control
    rw [matterEndpointKey]
    cases namedControl control with
    | none => exact String.append_empty.symm
    | some name => exact String.append_assoc ..
  rw [split, split] at same
  rcases SupremeId.append_inj same with ⟨devices, controls⟩
  have named : namedControl leftControl = namedControl rightControl := by
    cases leftNamed : namedControl leftControl <;> cases rightNamed : namedControl rightControl <;>
      simp only [leftNamed, rightNamed, Option.elim] at controls ⊢
    · exact absurd controls (by simp [String.ext_iff])
    · exact absurd controls (by simp [String.ext_iff])
    · have lists := congrArg String.toList controls
      rw [String.toList_append, String.toList_append, List.append_cancel_left_eq] at lists
      rw [String.toList_inj.mp lists]
  rw [ownerOf, ownerOf, devices, named]

theorem matterEndpointKey_eq_of_ownerOf_eq {leftDevice rightDevice : String}
    {leftControl rightControl : Option String}
    (same : ownerOf leftDevice leftControl = ownerOf rightDevice rightControl) :
    matterEndpointKey leftDevice leftControl = matterEndpointKey rightDevice rightControl := by
  simp only [ownerOf, EndpointOwner.mk.injEq] at same
  rw [matterEndpointKey, matterEndpointKey, same.1, same.2]

namespace MatterEndpointMapping

def owner (mapping : MatterEndpointMapping) : EndpointOwner :=
  ownerOf mapping.deviceId mapping.controlId

/-- What must not change about a mapping. -/
def identity (mapping : MatterEndpointMapping) : EndpointOwner × Nat :=
  (mapping.owner, mapping.endpointNumber)

theorem key_eq_of_identity_eq {left right : MatterEndpointMapping}
    (same : left.identity = right.identity) : left.key = right.key :=
  matterEndpointKey_eq_of_ownerOf_eq (congrArg Prod.fst same)

end MatterEndpointMapping

def MatterEndpointStore.identities (store : MatterEndpointStore) : List (EndpointOwner × Nat) :=
  store.list.map MatterEndpointMapping.identity

theorem positive_of_positiveInteger {value : JsValue} {number : Nat}
    (read : positiveInteger value = some number) : 0 < number := by
  unfold positiveInteger at read
  split at read
  · rename_i rational
    split at read
    · rename_i integer
      simp only [some.injEq] at read
      omega
    · cases read
  · cases read

theorem namedControl_written (controlId : Option String) :
    namedControl (nonemptyText (writtenControl controlId)) = namedControl controlId := by
  cases controlId with
  | none => rfl
  | some control =>
    simp only [writtenControl, nonemptyText, namedControl]
    by_cases empty : control = "" <;> simp [Option.filter, empty]

theorem text_of_nonemptyText {value text : String}
    (read : nonemptyText (.primitive (.text value)) = some text) : text = value := by
  simp only [nonemptyText, Option.ite_none_left_eq_some, some.injEq] at read
  exact read.2.symm

theorem number_of_positiveInteger {value number : Nat}
    (read : positiveInteger (.primitive (.number (.finite value))) = some number) :
    number = value := by
  by_cases integer : (value : ℚ).den = 1 ∧ 0 < (value : ℚ).num
  · rw [positiveInteger, if_pos integer, some.injEq, Rat.num_natCast,
      Int.toNat_natCast] at read
    exact read.symm
  · rw [positiveInteger, if_neg integer] at read
    cases read

variable {state next : RegistryState} {call : Call} {filePath : String}
    {store : MatterEndpointStore} {deviceId : SupremeId "dev"} {controlId : Option String}

theorem identity_of_loadEntry_written {mapping loaded : MatterEndpointMapping}
    (accepted : loadEntry filePath mapping.written = .ok loaded) :
    loaded.identity = mapping.identity := by
  simp only [loadEntry, MatterEndpointMapping.written] at accepted
  split at accepted
  · cases accepted
  · rename_i deviceId device
    split at accepted
    · cases accepted
    · rename_i endpointNumber number
      split at accepted
      · cases accepted
      · cases accepted
        simp only [MatterEndpointMapping.identity, MatterEndpointMapping.owner, ownerOf,
          namedControl_written, text_of_nonemptyText device, number_of_positiveInteger number]

theorem positive_of_loadEntry {entry : RawEntry}
    {mapping : MatterEndpointMapping} (accepted : loadEntry filePath entry = .ok mapping) :
    0 < mapping.endpointNumber := by
  cases entry with
  | null => cases accepted
  | mapping raw =>
    simp only [loadEntry] at accepted
    split at accepted
    · cases accepted
    · split at accepted
      · cases accepted
      · rename_i number read
        split at accepted
        · cases accepted
        · cases accepted
          exact positive_of_positiveInteger read

theorem identities_of_loadEntries_written (written : List MatterEndpointMapping)
    {mappings loaded : Mappings} {usedNumbers : List Nat}
    (accepted : loadEntries filePath mappings usedNumbers
      (written.map MatterEndpointMapping.written) = .ok loaded) :
    loaded.list.map MatterEndpointMapping.identity =
      mappings.list.map MatterEndpointMapping.identity ++
        written.map MatterEndpointMapping.identity := by
  induction written generalizing mappings usedNumbers with
  | nil =>
    simp only [List.map_nil, loadEntries, Except.ok.injEq] at accepted
    rw [accepted, List.map_nil, List.append_nil]
  | cons mapping rest ih =>
    simp only [List.map_cons, loadEntries] at accepted
    cases entry : loadEntry filePath mapping.written with
    | error message => simp [entry] at accepted
    | ok read =>
      simp only [entry] at accepted
      split at accepted
      · cases accepted
      · rename_i absent
        split at accepted
        · cases accepted
        · have fresh : mappings.get read.key = none := by simpa using absent
          rw [ih accepted, KeyedStore.list_put_of_absent fresh, List.map_append, List.append_assoc,
            List.map_cons, List.map_cons, List.map_nil, identity_of_loadEntry_written entry]
          rfl

theorem numbers_of_loadEntries (entries : List RawEntry)
    {mappings loaded : Mappings} {usedNumbers : List Nat}
    (used : ∀ mapping ∈ mappings.list, mapping.endpointNumber ∈ usedNumbers)
    (positive : ∀ mapping ∈ mappings.list, 0 < mapping.endpointNumber)
    (distinct : (mappings.list.map MatterEndpointMapping.endpointNumber).Nodup)
    (accepted : loadEntries filePath mappings usedNumbers entries = .ok loaded) :
    (∀ mapping ∈ loaded.list, 0 < mapping.endpointNumber) ∧
      (loaded.list.map MatterEndpointMapping.endpointNumber).Nodup := by
  induction entries generalizing mappings usedNumbers with
  | nil =>
    simp only [loadEntries, Except.ok.injEq] at accepted
    exact accepted ▸ ⟨positive, distinct⟩
  | cons entry rest ih =>
    simp only [loadEntries] at accepted
    cases read : loadEntry filePath entry with
    | error message => simp [read] at accepted
    | ok mapping =>
      simp only [read] at accepted
      split at accepted
      · cases accepted
      · rename_i absent
        split at accepted
        · cases accepted
        · rename_i unused
          have fresh : mappings.get mapping.key = none := by simpa using absent
          have appended := KeyedStore.list_put_of_absent fresh
          refine ih ?_ ?_ ?_ accepted
          · intro other member
            rw [appended, List.mem_append, List.mem_singleton] at member
            rcases member with old | rfl
            · exact .tail _ (used other old)
            · exact .head _
          · intro other member
            rw [appended, List.mem_append, List.mem_singleton] at member
            rcases member with old | rfl
            · exact positive other old
            · exact positive_of_loadEntry read
          · rw [appended, List.map_append, List.nodup_append]
            refine ⟨distinct, by simp, ?_⟩
            rintro number old _ new rfl
            rw [List.map_singleton, List.mem_singleton] at new
            rcases List.mem_map.mp old with ⟨other, member, equal⟩
            exact unused (new ▸ equal ▸ used other member)

theorem numbers_of_load {content : FileContent} {cache : Mappings}
    (accepted : load filePath content = .ok cache) :
    (∀ mapping ∈ cache.list, 0 < mapping.endpointNumber) ∧
      (cache.list.map MatterEndpointMapping.endpointNumber).Nodup := by
  cases content with
  | missing =>
    cases accepted
    simp
  | invalidJson cause => cases accepted
  | notAnArray => cases accepted
  | entries raw =>
    exact numbers_of_loadEntries raw (by simp) (by simp) (by simp) accepted

namespace MatterEndpointStore

variable {store : MatterEndpointStore}

/-- Reading the file again gives the live mappings. -/
def Reloads (store : MatterEndpointStore) : Prop :=
  ∀ restarted, store.restart = some restarted → restarted.identities = store.identities

variable {mapping : MatterEndpointMapping} {restarted : MatterEndpointStore}

theorem restart_eq_some_iff : store.restart = some restarted ↔
      ∃ file cache, store.file = some file ∧ load file.filePath file.content = .ok cache ∧
        restarted = { store with cache := cache } := by
  unfold restart
  cases store.file with
  | none => simp
  | some file =>
    cases loads : load file.filePath file.content with
    | error message => simp [loads]
    | ok cache => simp [loads, eq_comm]

theorem reloads_persist (cache : Mappings) : (store.persist cache).Reloads := by
  intro restarted again
  rcases restart_eq_some_iff.mp again with ⟨file, loaded, backing, accepted, rfl⟩
  simp only [persist, Option.map_eq_some_iff] at backing
  rcases backing with ⟨before, -, rfl⟩
  have read := identities_of_loadEntries_written _ accepted
  exact read

theorem reloads_of_restart (read : store.restart = some restarted) : restarted.Reloads := by
  intro twice again
  rcases restart_eq_some_iff.mp read with ⟨file, cache, backing, accepted, rfl⟩
  rcases restart_eq_some_iff.mp again with ⟨same, loaded, unchanged, reloaded, rfl⟩
  simp only [backing, some.injEq] at unchanged
  rw [← unchanged, accepted, Except.ok.injEq] at reloaded
  rw [reloaded]

theorem nodup_owners (store : MatterEndpointStore) : (store.identities.map Prod.fst).Nodup := by
  have keys := store.cache.nodup_list_keys
  have through : store.list.map MatterEndpointMapping.key =
      (store.identities.map Prod.fst).map fun owner =>
        matterEndpointKey owner.deviceId owner.controlId := by
    rw [identities, List.map_map, List.map_map]
    apply List.map_congr_left
    intro mapping _
    simp [MatterEndpointMapping.key, MatterEndpointMapping.identity, MatterEndpointMapping.owner,
      ownerOf, matterEndpointKey, namedControl, Option.filter_filter]
  exact List.Nodup.of_map _ (through ▸ keys)

theorem identities_put_of_absent (absent : store.get mapping.key = none) :
    (store.put mapping).identities = store.identities ++ [mapping.identity] := by
  have appended : (store.put mapping).list = store.list ++ [mapping] :=
    KeyedStore.list_put_of_absent absent
  rw [identities, appended, List.map_append, List.map_singleton, identities]

theorem identities_put_of_identity_eq {existing : MatterEndpointMapping}
    (stored : store.get existing.key = some existing)
    (same : existing.identity = mapping.identity) :
    (store.put mapping).identities = store.identities := by
  rw [MatterEndpointMapping.key_eq_of_identity_eq same] at stored
  exact KeyedStore.map_list_put MatterEndpointMapping.identity stored same

theorem key_of_get {key : String} (stored : store.get key = some mapping) : mapping.key = key :=
  store.cache.keyed key mapping stored

theorem identity_mem {key : String}
    (stored : store.get key = some mapping) : mapping.identity ∈ store.identities := by
  apply List.mem_map_of_mem
  apply KeyedStore.mem_list_iff.mpr
  rw [key_of_get stored]
  exact stored

end MatterEndpointStore

/-- The registry, with every number that it has returned and to whom. -/
structure RegistryState where
  store : MatterEndpointStore
  handedOut : List (EndpointOwner × Nat)

/-- An argument that has a default may be left out. -/
inductive Call where
  | resolve (deviceId : SupremeId "dev") (deviceTypeId : Option JsNumber) (name : Option String)
      (capabilityKinds : Option (List String))
  | resolveButton (deviceId : SupremeId "dev") (controlId : String) (deviceTypeId : JsNumber)
      (name : String)
  | remove (deviceId : SupremeId "dev") (controlId : Option String)
  | restart

namespace Call

def wants : Call → Option EndpointOwner
  | resolve deviceId _ _ _ => some (ownerOf deviceId.text none)
  | resolveButton deviceId controlId _ _ => some (ownerOf deviceId.text (some controlId))
  | _ => none

def removes : Call → Option EndpointOwner
  | remove deviceId controlId => some (ownerOf deviceId.text controlId)
  | _ => none

end Call

def RegistryState.handOut (state : RegistryState) (owner : EndpointOwner)
    (resolved : MatterEndpointStore × MatterEndpointMapping) : RegistryState where
  store := resolved.1
  handedOut := state.handedOut ++ [(owner, resolved.2.endpointNumber)]

def machine : Machine RegistryState Call where
  step state
    | .resolve deviceId deviceTypeId name capabilityKinds =>
      some (state.handOut (ownerOf deviceId.text none)
        (resolve state.store deviceId deviceTypeId name capabilityKinds))
    | .resolveButton deviceId controlId deviceTypeId name =>
      some (state.handOut (ownerOf deviceId.text (some controlId))
        (resolveButton state.store deviceId controlId deviceTypeId name))
    | .remove deviceId controlId =>
      some { state with store := remove state.store deviceId controlId }
    | .restart => state.store.restart.map fun store => { state with store := store }

/--
A registry over an empty store in memory, or over a file that was accepted.
The devices of the file have the identifiers of devices; what is in it has been
handed out before.
-/
inductive Started : RegistryState → Prop
  | memory : Started ⟨⟨KeyedStore.empty, none⟩, []⟩
  | file (filePath : String) (content : FileContent) (cache : Mappings)
      (accepted : load filePath content = .ok cache)
      (named : ∀ mapping ∈ cache.list, idPattern "dev" mapping.deviceId = true) :
      Started ⟨⟨cache, some ⟨filePath, content⟩⟩, cache.list.map MatterEndpointMapping.identity⟩

structure IdentitiesSound (state : RegistryState) : Prop where
  positive : ∀ identity ∈ state.store.identities, 0 < identity.2
  distinct : (state.store.identities.map Prod.snd).Nodup
  single : (state.store.identities.map Prod.fst).Nodup
  never_reused : ∀ first ∈ state.handedOut, ∀ second ∈ state.handedOut,
    first.2 = second.2 → first.1 = second.1

/-- A mapping that is not removed stays, with its number. -/
def NumbersKept (state : RegistryState) (call : Call) (next : RegistryState) : Prop :=
  ∀ identity ∈ state.store.identities,
    call.removes ≠ some identity.1 → identity ∈ next.store.identities

def FollowsHighest (live : List Nat) (number : Nat) : Prop :=
  (live = [] ∧ number = 1) ∨
    ∃ highest ∈ live, (∀ other ∈ live, other ≤ highest) ∧ number = plusOne highest

instance (live : List Nat) (number : Nat) : Decidable (FollowsHighest live number) :=
  inferInstanceAs (Decidable (_ ∨ _))

/--
Whoever asks without having a live mapping: nobody else was ever given the
number that follows the highest live one.
-/
def NextNumberUnused (state : RegistryState) (call : Call) : Prop :=
  ∀ wanted ∈ call.wants, wanted ∉ state.store.identities.map Prod.fst → ∀ earlier ∈ state.handedOut,
      FollowsHighest (state.store.identities.map Prod.snd) earlier.2 → earlier.1 = wanted

instance (state : RegistryState) (call : Call) : Decidable (NextNumberUnused state call) :=
  inferInstanceAs (Decidable (∀ _ ∈ call.wants, _))

theorem followsHighest_iff {number : Nat} :
    FollowsHighest (store.identities.map Prod.snd) number ↔ number = nextEndpointNumber store := by
  have numbers : store.identities.map Prod.snd =
      store.list.map MatterEndpointMapping.endpointNumber := List.map_map
  rw [numbers, nextEndpointNumber, FollowsHighest]
  cases found : (store.list.map MatterEndpointMapping.endpointNumber).max? with
  | none =>
    rw [List.max?_eq_none_iff.mp found]
    simp
  | some highest =>
    have greatest := List.max?_eq_some_iff.mp found
    have inhabited := List.ne_nil_of_mem greatest.1
    simp only [inhabited, false_and, false_or]
    constructor
    · rintro ⟨other, member, above, rfl⟩
      rw [Nat.le_antisymm (greatest.2 other member) (above highest greatest.1)]
    · rintro rfl
      exact ⟨highest, greatest.1, greatest.2, rfl⟩

theorem plusOne_pos (number : Nat) : 0 < plusOne number := by
  unfold plusOne
  split <;> [skip; split] <;> omega

theorem nextEndpointNumber_pos (store : MatterEndpointStore) : 0 < nextEndpointNumber store := by
  unfold nextEndpointNumber
  split
  · decide
  · exact plusOne_pos _

/-- The live mappings belong to devices. -/
def NamesDevices (store : MatterEndpointStore) : Prop :=
  ∀ mapping ∈ store.list, idPattern "dev" mapping.deviceId = true

theorem owner_of_get (named : NamesDevices store) {existing : MatterEndpointMapping}
    (stored : store.get (matterEndpointKey deviceId.text controlId) = some existing) :
    existing.owner = ownerOf deviceId.text controlId := by
  have key := MatterEndpointStore.key_of_get stored
  have live : existing ∈ store.list := KeyedStore.mem_list_iff.mpr (key ▸ stored)
  exact ownerOf_eq_of_matterEndpointKey_eq ⟨existing.deviceId, named existing live⟩ deviceId key

inductive Effect (state : RegistryState) (call : Call) (next : RegistryState) : Prop
  | kept (given : List (EndpointOwner × Nat))
      (asked : ∀ wanted ∈ call.wants, wanted ∈ state.store.identities.map Prod.fst)
      (live : ∀ identity ∈ given, identity ∈ state.store.identities)
      (identities : next.store.identities = state.store.identities)
      (handed : next.handedOut = state.handedOut ++ given)
  | assigned (wanted : EndpointOwner) (asked : call.wants = some wanted)
      (absent : wanted ∉ state.store.identities.map Prod.fst)
      (identities : next.store.identities =
        state.store.identities ++ [(wanted, nextEndpointNumber state.store)])
      (handed : next.handedOut = state.handedOut ++ [(wanted, nextEndpointNumber state.store)])
  | removed (unwanted : EndpointOwner) (asked : call.removes = some unwanted)
      (identities : next.store.identities =
        state.store.identities.filter fun identity => decide (identity.1 ≠ unwanted))
      (handed : next.handedOut = state.handedOut)

theorem effect_of_resolveInternal (named : NamesDevices state.store)
    (asked : call.wants = some (ownerOf deviceId.text controlId)) (deviceTypeId : JsNumber)
    (name : String) (capabilityKinds : List String) :
    Effect state call (state.handOut (ownerOf deviceId.text controlId)
      (resolveInternal state.store deviceId controlId deviceTypeId name capabilityKinds)) := by
  unfold resolveInternal
  split
  · rename_i existing stored
    have owner := owner_of_get named stored
    have live := MatterEndpointStore.identity_mem stored
    have given : (ownerOf deviceId.text controlId, existing.endpointNumber) = existing.identity :=
      congrArg (·, existing.endpointNumber) owner.symm
    have present : ∀ wanted ∈ call.wants, wanted ∈ state.store.identities.map Prod.fst := by
      intro wanted wants
      rw [asked, Option.mem_some] at wants
      exact wants ▸ List.mem_map.mpr ⟨_, live, owner⟩
    rw [← given] at live
    split
    · refine .kept [_] present (List.forall_mem_singleton.mpr live) ?_ rfl
      rw [← MatterEndpointStore.key_of_get stored] at stored
      exact MatterEndpointStore.identities_put_of_identity_eq stored rfl
    · exact .kept [_] present (List.forall_mem_singleton.mpr live) rfl rfl
  · rename_i absent
    refine .assigned _ asked ?_ (MatterEndpointStore.identities_put_of_absent absent) rfl
    intro member
    rw [MatterEndpointStore.identities, List.map_map] at member
    rcases List.mem_map.mp member with ⟨mapping, live, owner⟩
    have key : mapping.key = matterEndpointKey deviceId.text controlId :=
      matterEndpointKey_eq_of_ownerOf_eq owner
    have stored := KeyedStore.mem_list_iff.mp live
    rw [key] at stored
    rw [MatterEndpointStore.get, stored] at absent
    cases absent

theorem identities_remove (named : NamesDevices store)
    (deviceId : SupremeId "dev") (controlId : Option String) :
    (remove store deviceId controlId).identities = store.identities.filter fun identity =>
        decide (identity.1 ≠ ownerOf deviceId.text controlId) := by
  have left : (remove store deviceId controlId).list = store.list.filter fun mapping =>
      decide (mapping.key ≠ matterEndpointKey deviceId.text controlId) :=
    KeyedStore.list_remove ..
  rw [MatterEndpointStore.identities, left, MatterEndpointStore.identities, List.filter_map]
  congr 1
  apply List.filter_congr
  intro mapping live
  have same : mapping.key = matterEndpointKey deviceId.text controlId ↔
      mapping.owner = ownerOf deviceId.text controlId :=
    ⟨ownerOf_eq_of_matterEndpointKey_eq ⟨mapping.deviceId, named mapping live⟩ deviceId,
      matterEndpointKey_eq_of_ownerOf_eq⟩
  exact decide_eq_decide.mpr (not_congr same)

theorem effect_of_step (named : NamesDevices state.store) (reloads : state.store.Reloads)
    (taken : machine.step state call = some next) : Effect state call next := by
  cases call with
  | resolve deviceId deviceTypeId name capabilityKinds =>
    cases taken
    exact effect_of_resolveInternal named rfl _ _ _
  | resolveButton deviceId controlId deviceTypeId name =>
    cases taken
    exact effect_of_resolveInternal named rfl _ _ _
  | remove deviceId controlId =>
    cases taken
    exact .removed _ rfl (identities_remove named deviceId controlId) rfl
  | restart =>
    simp only [machine, Option.map_eq_some_iff] at taken
    rcases taken with ⟨store, again, rfl⟩
    exact .kept [] (fun _ wants => nomatch wants) (fun _ member => nomatch member)
      (reloads store again) (List.append_nil _).symm

theorem reloads_of_step
    (reloads : state.store.Reloads) (taken : machine.step state call = some next) :
    next.store.Reloads := by
  have resolved : ∀ (deviceId : SupremeId "dev") controlId deviceTypeId name capabilityKinds,
      (resolveInternal state.store deviceId controlId deviceTypeId name
        capabilityKinds).1.Reloads := by
    intro deviceId controlId deviceTypeId name capabilityKinds
    unfold resolveInternal
    split
    · split
      · exact MatterEndpointStore.reloads_persist _
      · exact reloads
    · exact MatterEndpointStore.reloads_persist _
  cases call with
  | resolve deviceId deviceTypeId name capabilityKinds =>
    cases taken
    exact resolved deviceId _ _ _ _
  | resolveButton deviceId controlId deviceTypeId name =>
    cases taken
    exact resolved deviceId _ _ _ _
  | remove deviceId controlId =>
    cases taken
    exact MatterEndpointStore.reloads_persist _
  | restart =>
    simp only [machine, Option.map_eq_some_iff] at taken
    rcases taken with ⟨store, again, rfl⟩
    exact MatterEndpointStore.reloads_of_restart again

theorem namesDevices_iff : NamesDevices store ↔
      ∀ identity ∈ store.identities, idPattern "dev" identity.1.deviceId = true := by
  rw [MatterEndpointStore.identities, List.forall_mem_map]
  rfl

theorem wants_device {wanted : EndpointOwner} (asked : call.wants = some wanted) :
    idPattern "dev" wanted.deviceId = true := by
  cases call <;> cases asked
  · rename_i deviceId _ _ _
    exact deviceId.valid
  · rename_i deviceId _ _ _
    exact deviceId.valid

structure Sound (state : RegistryState) : Prop where
  named : NamesDevices state.store
  recorded : ∀ identity ∈ state.store.identities, identity ∈ state.handedOut
  reloads : state.store.Reloads

theorem sound_of_step (sound : Sound state)
    (taken : machine.step state call = some next) : Sound next := by
  have effect := effect_of_step sound.named sound.reloads taken
  have named := namesDevices_iff.mp sound.named
  refine ⟨namesDevices_iff.mpr ?_, ?_, reloads_of_step sound.reloads taken⟩
  · cases effect with
    | kept given asked live identities handed => exact identities ▸ named
    | assigned wanted asked absent identities handed =>
      rw [identities]
      intro identity member
      rcases List.mem_append.mp member with old | new
      · exact named identity old
      · exact List.mem_singleton.mp new ▸ wants_device asked
    | removed unwanted asked identities handed =>
      rw [identities]
      exact fun identity member => named identity (List.mem_filter.mp member).1
  · cases effect with
    | kept given asked live identities handed =>
      rw [identities, handed]
      exact fun identity member => List.mem_append_left _ (sound.recorded identity member)
    | assigned wanted asked absent identities handed =>
      rw [identities, handed]
      exact fun identity member =>
        List.mem_append.mpr ((List.mem_append.mp member).imp_left (sound.recorded identity))
    | removed unwanted asked identities handed =>
      rw [identities, handed]
      exact fun identity member => sound.recorded identity (List.mem_filter.mp member).1

theorem never_reused_append {handedOut given : List (EndpointOwner × Nat)}
    (old : ∀ first ∈ handedOut, ∀ second ∈ handedOut, first.2 = second.2 → first.1 = second.1)
    (known : ∀ identity ∈ given, identity ∈ handedOut) :
    ∀ first ∈ handedOut ++ given, ∀ second ∈ handedOut ++ given,
      first.2 = second.2 → first.1 = second.1 := by
  have before : ∀ identity ∈ handedOut ++ given, identity ∈ handedOut := by
    intro identity member
    rcases List.mem_append.mp member with old | new
    · exact old
    · exact known identity new
  exact fun first inFirst second inSecond => old first (before first inFirst) second
    (before second inSecond)

theorem identitiesSound_of_assigned
    (sound : Sound state) (good : IdentitiesSound state) {wanted : EndpointOwner}
    (absent : wanted ∉ state.store.identities.map Prod.fst) (identities : next.store.identities =
      state.store.identities ++ [(wanted, nextEndpointNumber state.store)])
    (handed : next.handedOut = state.handedOut ++ [(wanted, nextEndpointNumber state.store)])
    (unused : ∀ earlier ∈ state.handedOut, earlier.2 = nextEndpointNumber state.store →
      earlier.1 = wanted) :
    IdentitiesSound next where
  positive := by
    rw [identities]
    intro identity member
    rcases List.mem_append.mp member with old | new
    · exact good.positive identity old
    · exact List.mem_singleton.mp new ▸ nextEndpointNumber_pos _
  distinct := by
    rw [identities, List.map_append, List.map_singleton, ← List.concat_eq_append, List.nodup_concat]
    refine ⟨?_, good.distinct⟩
    intro member
    rcases List.mem_map.mp member with ⟨identity, live, same⟩
    -- A live mapping with that number would be one of the device itself.
    have own := unused identity (sound.recorded identity live) same
    exact absent (List.mem_map.mpr ⟨identity, live, own⟩)
  single := next.store.nodup_owners
  never_reused := by
    rw [handed]
    intro first inFirst second inSecond same
    rcases List.mem_append.mp inFirst with oldFirst | newFirst <;>
      rcases List.mem_append.mp inSecond with oldSecond | newSecond
    · exact good.never_reused first oldFirst second oldSecond same
    · rw [List.mem_singleton.mp newSecond] at same ⊢
      exact unused first oldFirst same
    · rw [List.mem_singleton.mp newFirst] at same ⊢
      exact (unused second oldSecond same.symm).symm
    · rw [List.mem_singleton.mp newFirst, List.mem_singleton.mp newSecond]

theorem identitiesSound_iff_of_step (sound : Sound state) (good : IdentitiesSound state)
    (taken : machine.step state call = some next) :
    IdentitiesSound next ↔ NextNumberUnused state call := by
  cases effect_of_step sound.named sound.reloads taken with
  | kept given asked live identities handed =>
    have unasked : NextNumberUnused state call := fun wanted wants absent =>
      (absent (asked wanted wants)).elim
    refine iff_of_true ⟨?_, ?_, next.store.nodup_owners, ?_⟩ unasked
    · exact identities ▸ good.positive
    · exact identities ▸ good.distinct
    · rw [handed]
      exact never_reused_append good.never_reused fun identity member =>
        sound.recorded identity (live identity member)
  | assigned wanted asked absent identities handed =>
    simp only [NextNumberUnused, asked, Option.mem_some_iff, forall_eq', absent,
      not_false_eq_true, true_implies, followsHighest_iff]
    constructor
    · intro onward earlier member same
      refine onward.never_reused earlier ?_ (wanted, nextEndpointNumber state.store) ?_ same
      · exact handed ▸ List.mem_append_left _ member
      · exact handed ▸ List.mem_append_right _ (.head _)
    · exact identitiesSound_of_assigned sound good absent identities handed
  | removed unwanted asked identities handed =>
    have unasked : NextNumberUnused state call := by
      intro wanted wants
      cases call <;> cases asked
      cases wants
    have left : next.store.identities.Sublist state.store.identities :=
      identities ▸ List.filter_sublist
    refine iff_of_true ⟨?_, ?_, next.store.nodup_owners, ?_⟩ unasked
    · exact fun identity member => good.positive identity (left.subset member)
    · exact good.distinct.sublist (left.map Prod.snd)
    · exact handed ▸ good.never_reused

theorem numbersKept_of_step (sound : Sound state)
    (taken : machine.step state call = some next) : NumbersKept state call next := by
  intro identity live spared
  cases effect_of_step sound.named sound.reloads taken with
  | kept given asked known identities handed => exact identities ▸ live
  | assigned wanted asked absent identities handed =>
    exact identities ▸ List.mem_append_left _ live
  | removed unwanted asked identities handed =>
    rw [identities, List.mem_filter]
    refine ⟨live, decide_eq_true ?_⟩
    rintro rfl
    exact spared asked

theorem sound_of_started {start : RegistryState} (started : Started start) : Sound start := by
  cases started with
  | memory =>
    refine ⟨by simp [NamesDevices, MatterEndpointStore.list],
      by simp [MatterEndpointStore.identities, MatterEndpointStore.list], ?_⟩
    intro restarted again
    cases again
  | file filePath content cache accepted named =>
    refine ⟨named, fun _ member => member, ?_⟩
    intro restarted again
    rcases MatterEndpointStore.restart_eq_some_iff.mp again with
      ⟨file, loaded, backing, reloaded, rfl⟩
    cases backing
    rw [accepted, Except.ok.injEq] at reloaded
    rw [reloaded]

theorem identitiesSound_of_started {start : RegistryState} (started : Started start) :
    IdentitiesSound start := by
  cases started with
  | memory =>
    constructor <;> simp [MatterEndpointStore.identities, MatterEndpointStore.list]
  | file filePath content cache accepted named =>
    rcases numbers_of_load accepted with ⟨positive, distinct⟩
    have numbers : (cache.list.map MatterEndpointMapping.identity).map Prod.snd =
        cache.list.map MatterEndpointMapping.endpointNumber := List.map_map
    refine ⟨List.forall_mem_map.mpr positive, numbers ▸ distinct,
      MatterEndpointStore.nodup_owners _, ?_⟩
    intro first inFirst second inSecond same
    exact congrArg Prod.fst
      (List.inj_on_of_nodup_map (numbers ▸ distinct) inFirst inSecond same)

/--
Over every sequence of calls the numbers are positive, distinct and kept, and
no number is handed out twice, exactly if nobody without a live mapping asks
while the number after the highest live one has been another's.
-/
theorem endpoint_identity_iff {start : RegistryState} (started : Started start)
    (calls : List Call) :
    (machine.Throughout IdentitiesSound start calls ∧ machine.EachStep NumbersKept start calls) ↔
      machine.Guarded NextNumberUnused start calls := by
  have sound := sound_of_started started
  have kept : machine.EachStep NumbersKept start calls :=
    Machine.eachStep_of_step (fun state call next holds taken => sound_of_step holds taken)
      (fun state call next holds taken => numbersKept_of_step holds taken) sound
  rw [and_iff_left kept]
  exact Machine.throughout_iff_guarded Sound
    (fun state call next holds good taken => identitiesSound_iff_of_step holds good taken)
    (fun state call next holds _ _ taken => sound_of_step holds taken)
    sound (identitiesSound_of_started started)

def light : SupremeId "dev" := ⟨"dev_01HZX3V9K2M4N6P8Q0R2S4T6V8", by decide⟩

def keypad : SupremeId "dev" := ⟨"dev_01HZX3V9K2M4N6P8Q0R2S4T6V9", by decide⟩

/-- A light and a button keep their numbers over a restart and a removal of the light. -/
theorem numbers_survive_restart : machine.Throughout IdentitiesSound
        ⟨⟨KeyedStore.empty, some ⟨"endpoint-registry.json", .missing⟩⟩, []⟩
        [.resolve light none (some "Lamp") none, .resolveButton keypad "btn1" (.finite 15) "Button",
          .restart, .remove light none, .resolve light none none none] ∧
      machine.EachStep NumbersKept
        ⟨⟨KeyedStore.empty, some ⟨"endpoint-registry.json", .missing⟩⟩, []⟩
        [.resolve light none (some "Lamp") none, .resolveButton keypad "btn1" (.finite 15) "Button",
          .restart, .remove light none, .resolve light none none none] :=
  (endpoint_identity_iff
    (.file "endpoint-registry.json" .missing KeyedStore.empty rfl (by decide)) _).mpr
    (by decide +kernel)

/-- The number of a light that is removed goes to the next device. -/
theorem removed_number_is_reused :
    ¬ ∀ (start : RegistryState), Started start → ∀ (calls : List Call),
      machine.Throughout IdentitiesSound start calls ∧
        machine.EachStep NumbersKept start calls := by
  intro always
  have throughout := (always _ .memory
    [.resolve light none none none, .remove light none, .resolve keypad none none none]).1
  have reused := (Machine.property_of_throughout throughout rfl).never_reused
  revert reused
  decide +kernel

end SupremeOs.MatterBridge
