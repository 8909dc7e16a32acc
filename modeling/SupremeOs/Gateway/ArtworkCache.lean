import SupremeOs.DomainModel.Capabilities
import SupremeOs.Support.Cells
import SupremeOs.Support.Machine

/-!
# Artwork cache

A cached artwork is served until it is too old; those who ask for it while it
is fetched share the fetch.  An invalidation drops what is cached, but not what
is being fetched, so what it promises holds as long as nothing of the device is
fetched meanwhile.

Fetches are numbered, and an artwork is known by the fetch that it came from.
A fetch ends in two turns: what it found is put into the cache, and after that
it is no longer in flight.
-/

namespace SupremeOs.Gateway

open DomainModel Support

inductive FetchPhase where
  | running
  | settled
  | finished

structure ArtworkFetch where
  deviceId : DeviceId
  phase : FetchPhase

structure CacheEntry where
  artwork : Nat
  fetchedAt : Int

/-- A call of `get`: the fetch it is served from, and the first fetch that is fresh enough. -/
structure Served where
  fetch : Nat
  floor : Nat

structure ArtworkCache where
  maxEntries : Nat
  ttlMs : Int
  entries : OrderedMap DeviceId CacheEntry
  inflight : OrderedMap DeviceId Nat
  fetches : List ArtworkFetch
  /-- How many fetches had begun when a device was last invalidated. -/
  floors : DeviceId → Nat
  served : List Served

inductive ArtworkLabel where
  | get (deviceId : DeviceId) (now : Int)
  /-- A fetch resolves, with an artwork or without one, or is rejected. -/
  | settle (fetch : Nat) (found : Bool) (now : Int)
  | finish (fetch : Nat)
  | invalidate (deviceId : DeviceId)

namespace ArtworkCache

variable (cache : ArtworkCache)

def serve (deviceId : DeviceId) (fetch : Nat) : ArtworkCache :=
  { cache with served := cache.served ++ [⟨fetch, cache.floors deviceId⟩] }

def insert (deviceId : DeviceId) (entry : CacheEntry) : OrderedMap DeviceId CacheEntry :=
  (cache.entries.delete deviceId).set deviceId entry

/-- The oldest entries are dropped while there are too many. -/
def evict (maxEntries : Nat) (entries : OrderedMap DeviceId CacheEntry) :
    OrderedMap DeviceId CacheEntry where
  entries := entries.entries.drop (entries.entries.length - maxEntries)
  nodup := entries.nodup.sublist ((List.drop_sublist _ _).map _)

def put (deviceId : DeviceId) (entry : CacheEntry) : ArtworkCache :=
  { cache with entries := evict cache.maxEntries (cache.insert deviceId entry) }

def get (deviceId : DeviceId) (now : Int) : ArtworkCache :=
  match (cache.entries.get deviceId).filter fun entry => now - entry.fetchedAt < cache.ttlMs with
  | some cached =>
    { cache with entries := cache.insert deviceId cached }.serve deviceId cached.artwork
  | none =>
    match cache.inflight.get deviceId with
    | some pending => cache.serve deviceId pending
    | none =>
      { cache with
        fetches := cache.fetches ++ [ArtworkFetch.mk deviceId .running]
        inflight := cache.inflight.set deviceId cache.fetches.length }.serve deviceId
          cache.fetches.length

def setPhase (fetch : Nat) (phase : FetchPhase) : ArtworkCache :=
  { cache with fetches := cache.fetches.modify fetch fun before => { before with phase } }

def invalidate (deviceId : DeviceId) : ArtworkCache :=
  { cache with
    entries := cache.entries.delete deviceId
    floors := fun other => if other = deviceId then cache.fetches.length else cache.floors other }

def step (cache : ArtworkCache) : ArtworkLabel → Option ArtworkCache
  | .get deviceId now => some (cache.get deviceId now)
  | .settle number found now =>
    match cache.fetches[number]? with
    | some ⟨deviceId, .running⟩ =>
      let settled := cache.setPhase number .settled
      some (if found then settled.put deviceId ⟨number, now⟩ else settled)
    | _ => none
  | .finish number =>
    match cache.fetches[number]? with
    | some ⟨deviceId, .settled⟩ =>
      some { cache.setPhase number .finished with inflight := cache.inflight.delete deviceId }
    | _ => none
  | .invalidate deviceId => some (cache.invalidate deviceId)

def machine : Machine ArtworkCache ArtworkLabel := ⟨step⟩

def initial (maxEntries : Nat) (ttlMs : Int) : ArtworkCache :=
  ⟨maxEntries, ttlMs, .empty, .empty, [], fun _ => 0, []⟩

def Live (deviceId : DeviceId) (number : Nat) : Prop :=
  ∃ phase, cache.fetches[number]? = some ⟨deviceId, phase⟩ ∧ phase ≠ .finished

/-- The cache is bounded, and in flight are exactly the fetches that are not over. -/
structure Kept : Prop where
  bounded : cache.entries.entries.length ≤ cache.maxEntries
  inflight : ∀ deviceId number,
    cache.inflight.get deviceId = some number ↔ cache.Live deviceId number

/-- No device is served from a fetch that had begun before it was last invalidated. -/
def Fresh : Prop :=
  ∀ served ∈ cache.served, served.floor ≤ served.fetch

/-- Nothing of a device is in flight when it is invalidated. -/
def Calm (cache : ArtworkCache) : ArtworkLabel → Prop
  | .invalidate deviceId => cache.inflight.get deviceId = none
  | .get .. | .settle .. | .finish .. => True

instance (cache : ArtworkCache) : ∀ label, Decidable (cache.Calm label)
  | .invalidate deviceId => inferInstanceAs (Decidable (cache.inflight.get deviceId = none))
  | .get .. | .settle .. | .finish .. => isTrue trivial

/-- What is served, cached or in flight is fresh. -/
structure Current : Prop where
  kept : cache.Kept
  fresh : cache.Fresh
  floors : ∀ deviceId, cache.floors deviceId ≤ cache.fetches.length
  entries : ∀ deviceId entry, cache.entries.get deviceId = some entry →
    cache.floors deviceId ≤ entry.artwork
  pending : ∀ deviceId number, cache.inflight.get deviceId = some number →
    cache.floors deviceId ≤ number

variable {cache} {deviceId : DeviceId}

theorem length_insert {entry : CacheEntry} (cached : cache.entries.get deviceId = some entry) :
    (cache.insert deviceId entry).entries.length ≤ cache.entries.entries.length := by
  have fewer : (cache.entries.delete deviceId).entries.length < cache.entries.entries.length :=
    List.length_filter_lt_length_iff_exists.mpr
      ⟨_, OrderedMap.get_eq_some_iff.mp cached, by simp⟩
  rw [insert, OrderedMap.set, dif_neg (by simp [OrderedMap.delete, OrderedMap.filter]),
    List.length_append]
  exact fewer

theorem kept_settle (kept : cache.Kept) {number : Nat}
    (running : cache.fetches[number]? = some ⟨deviceId, .running⟩) :
    (cache.setPhase number .settled).Kept := by
  refine ⟨kept.bounded, fun other second => (kept.inflight other second).trans ?_⟩
  simp only [Live, setPhase, Cells.getElem?_modify]
  grind

theorem kept_put (kept : cache.Kept) (entry : CacheEntry) : (cache.put deviceId entry).Kept := by
  refine ⟨?_, kept.inflight⟩
  simp only [put, evict, List.length_drop]
  omega

theorem kept_finish (kept : cache.Kept) {number : Nat}
    (settled : cache.fetches[number]? = some ⟨deviceId, .settled⟩) :
    { cache.setPhase number .finished with
      inflight := cache.inflight.delete deviceId : ArtworkCache }.Kept := by
  refine ⟨kept.bounded, fun other second => ?_⟩
  have flying := (kept.inflight deviceId number).mpr ⟨_, settled, by simp⟩
  have known := kept.inflight other second
  simp only [Live, setPhase, Cells.getElem?_modify, OrderedMap.get_delete] at known ⊢
  grind

theorem kept_fetch (kept : cache.Kept) (missing : cache.inflight.get deviceId = none) :
    { cache with
      fetches := cache.fetches ++ [ArtworkFetch.mk deviceId .running]
      inflight := cache.inflight.set deviceId cache.fetches.length : ArtworkCache }.Kept := by
  refine ⟨kept.bounded, fun other number => ?_⟩
  have known := kept.inflight other number
  simp only [Live, Cells.getElem?_concat, OrderedMap.get_set] at known ⊢
  by_cases new : number = cache.fetches.length
  · subst new
    rw [List.getElem?_eq_none le_rfl] at known
    by_cases same : other = deviceId
    · simp [same]
    · simpa [same, Ne.symm same] using known
  · by_cases same : other = deviceId
    · subst same
      simpa [new, Ne.symm new, missing] using known
    · simpa [new, same] using known

theorem kept_get (kept : cache.Kept) (now : Int) : (cache.get deviceId now).Kept := by
  unfold get
  split
  · rename_i cached found
    exact ⟨(length_insert (Option.filter_eq_some_iff.mp found).1).trans kept.bounded,
      kept.inflight⟩
  · split
    · exact ⟨kept.bounded, kept.inflight⟩
    · rename_i missing
      have fetched := kept_fetch kept missing
      exact ⟨fetched.bounded, fetched.inflight⟩

theorem kept_step {label : ArtworkLabel} {next : ArtworkCache} (kept : cache.Kept)
    (taken : cache.step label = some next) : next.Kept := by
  cases label with
  | get deviceId now =>
    cases taken
    exact kept_get kept now
  | settle number found now =>
    simp only [step] at taken
    split at taken
    · rename_i running
      cases taken
      cases found
      · exact kept_settle kept running
      · exact kept_put (kept_settle kept running) _
    · cases taken
  | finish number =>
    simp only [step] at taken
    split at taken
    · rename_i settled
      cases taken
      exact kept_finish kept settled
    · cases taken
  | invalidate deviceId =>
    cases taken
    exact ⟨(List.length_filter_le _ _).trans kept.bounded, kept.inflight⟩

/-- Whatever is asked, however the fetches end: the cache is bounded and knows what is fetched. -/
theorem artworkKept_throughout (maxEntries : Nat) (ttlMs : Int) (labels : List ArtworkLabel) :
    machine.Throughout Kept (initial maxEntries ttlMs) labels :=
  Machine.throughout_of_step (fun _ _ _ kept taken => kept_step kept taken)
    ⟨Nat.zero_le _, by simp [initial, Live]⟩

theorem fresh_serve (fresh : cache.Fresh) {fetch : Nat} (new : cache.floors deviceId ≤ fetch) :
    (cache.serve deviceId fetch).Fresh := by
  intro served member
  rcases List.mem_append.mp member with earlier | now
  · exact fresh served earlier
  · rw [List.mem_singleton.mp now]
    exact new

theorem entries_insert (current : cache.Current) {entry : CacheEntry}
    (new : cache.floors deviceId ≤ entry.artwork) :
    ∀ other found, (cache.insert deviceId entry).get other = some found →
      cache.floors other ≤ found.artwork := by
  refine OrderedMap.forall_get_set new ?_
  intro other found differs stored
  rw [OrderedMap.get_delete, if_neg differs] at stored
  exact current.entries other found stored

theorem current_get (current : cache.Current) (now : Int) : (cache.get deviceId now).Current := by
  have kept : (cache.get deviceId now).Kept := kept_get current.kept now
  unfold get at kept ⊢
  split at kept
  · rename_i cached found
    have new := current.entries deviceId cached (Option.filter_eq_some_iff.mp found).1
    exact ⟨kept, fresh_serve current.fresh new, current.floors, entries_insert current new,
      current.pending⟩
  · split at kept
    · rename_i pending flying
      exact ⟨kept, fresh_serve current.fresh (current.pending deviceId pending flying),
        current.floors, current.entries, current.pending⟩
    · refine ⟨kept, fresh_serve current.fresh (current.floors deviceId), ?_, current.entries, ?_⟩
      · intro other
        exact (current.floors other).trans (by simp [serve])
      · exact OrderedMap.forall_get_set (current.floors deviceId)
          fun other number _ => current.pending other number

theorem current_put (current : cache.Current) {number : Nat} (now : Int)
    (flying : cache.inflight.get deviceId = some number) :
    (cache.put deviceId ⟨number, now⟩).Current := by
  refine ⟨kept_put current.kept _, current.fresh, current.floors, ?_, current.pending⟩
  intro other entry stored
  exact entries_insert current (current.pending deviceId number flying) other entry
    (OrderedMap.get_eq_some_iff.mpr (List.mem_of_mem_drop (OrderedMap.get_eq_some_iff.mp stored)))

theorem current_invalidate (current : cache.Current) (calm : cache.inflight.get deviceId = none) :
    (cache.invalidate deviceId).Current := by
  refine ⟨⟨(List.length_filter_le _ _).trans current.kept.bounded, current.kept.inflight⟩,
    current.fresh, fun other => ?_, fun other entry stored => ?_, fun other number flying => ?_⟩
  · have old := current.floors other
    simp only [invalidate]
    split <;> omega
  · have old := current.entries other entry
    simp only [invalidate, OrderedMap.get_delete] at stored ⊢
    grind
  · have old := current.pending other number
    simp only [invalidate] at flying ⊢
    grind

theorem current_step {label : ArtworkLabel} {next : ArtworkCache} (current : cache.Current)
    (calm : cache.Calm label) (taken : cache.step label = some next) : next.Current := by
  have kept := kept_step current.kept taken
  have floors : ∀ number phase other,
      cache.floors other ≤ (cache.setPhase number phase).fetches.length := fun _ _ other =>
    (current.floors other).trans (by simp [setPhase])
  cases label with
  | get deviceId now =>
    cases taken
    exact current_get current now
  | settle number found now =>
    simp only [step] at taken
    split at taken
    · rename_i deviceId running
      have settled : (cache.setPhase number .settled).Current :=
        ⟨kept_settle current.kept running, current.fresh, floors _ _, current.entries,
          current.pending⟩
      cases taken
      cases found
      · exact settled
      · exact current_put settled now
          ((current.kept.inflight deviceId number).mpr ⟨_, running, by simp⟩)
    · cases taken
  | finish number =>
    simp only [step] at taken
    split at taken
    · cases taken
      refine ⟨kept, current.fresh, floors _ _, current.entries, ?_⟩
      intro other second flying
      rw [OrderedMap.get_delete] at flying
      split at flying
      · cases flying
      · exact current.pending other second flying
    · cases taken
  | invalidate deviceId =>
    cases taken
    exact current_invalidate current calm

/-- A device that is invalidated while nothing of it is in flight is not served old artwork. -/
theorem artworkFresh_throughout {maxEntries : Nat} {ttlMs : Int} {labels : List ArtworkLabel}
    (calm : machine.Guarded Calm (initial maxEntries ttlMs) labels) :
    machine.Throughout Fresh (initial maxEntries ttlMs) labels :=
  (Machine.throughout_of_guarded (fun _ _ _ current calm taken => current_step current calm taken)
    ⟨⟨Nat.zero_le _, by simp [initial, Live]⟩, by simp [Fresh, initial], fun _ => le_rfl,
      by simp [initial], by simp [initial]⟩ calm).mono fun _ current => current.fresh

/-- The second request shares the first fetch; the one after the invalidation starts another. -/
theorem shared_then_refetched :
    machine.Throughout Fresh (initial 1 60000)
      [.get "amp" 0, .get "amp" 1, .settle 0 true 5, .finish 0, .get "amp" 9, .invalidate "amp",
        .get "amp" 10, .settle 1 false 12, .finish 1] :=
  artworkFresh_throughout (by decide +kernel)

end ArtworkCache

end SupremeOs.Gateway
