import SupremeOs.Backups.VaultSound

/-!
# The vault keeps what it lists

Uploads under ids that are not in use and removals that leave enough newer
backups keep the invariant, so what is listed can be fetched in every run of
such calls, and a backup is dropped only for newer ones.
-/

namespace SupremeOs.Backups

open Support List

variable {vault : BackupVaultService} {state : VaultState} {homeId : String} {call : VaultCall}

variable {config : Config VaultState VaultCall} {record : BackupRecord} {next : VaultState}
    {label : Schedule VaultRequest Unit}

theorem receive_eq_ok {input : StoreInput} {now : Nat}
    (accepted : vault.receive state input now = .ok (next, record)) :
    next.listed = state.listed ∧ next.get = state.get ∧ record.homeId = input.homeId ∧
      vault.fits input.ciphertext record := by
  simp only [BackupVaultService.receive] at accepted
  split at accepted
  · cases accepted
  · split at accepted
    · cases accepted
    · injection accepted with outcome
      injection outcome with states records
      subst states records
      refine ⟨?_, ?_, rfl, rfl, rfl⟩ <;> split <;> rfl

theorem CallSound.frame (sound : CallSound vault state call)
    (lists : next.listed = state.listed) (blobs : next.get = state.get) :
    CallSound vault next call := by
  have ids : next.ids = state.ids := by
    funext homeId
    rw [VaultState.ids, lists, VaultState.ids]
  exact ⟨sound.plain, ids ▸ sound.unlisted, by rw [ids, lists]; exact sound.listed,
    lists ▸ sound.newer, sound.fitting, blobs ▸ sound.written⟩

theorem VaultSound.store {input : StoreInput} {now : Nat} (sound : VaultSound vault config)
    (accepted : vault.receive config.shared input now = .ok (next, record))
    (plain : slashless input.homeId) (free : unused config input.homeId record.id) :
    VaultSound vault ⟨next, config.pending ++ [.putting record input.ciphertext]⟩ := by
  rcases receive_eq_ok accepted with ⟨lists, blobs, home, fits⟩
  rw [← home] at plain free
  have ids : next.ids = config.shared.ids := by
    funext homeId
    rw [VaultState.ids, lists, VaultState.ids]
  have only : ∀ query, ∀ id ∈ (VaultCall.putting record input.ciphertext).claimed query,
      query = record.homeId ∧ id = record.id := by
    intro query id claims
    simp only [VaultCall.claimed, VaultCall.uploaded, VaultCall.dropped, VaultCall.removed,
      map_nil, append_nil, mem_ite_nil_right, mem_singleton] at claims
    exact claims.imp_left Eq.symm
  refine ⟨lists ▸ sound.plain, ids ▸ sound.distinct, ?_, ?_, ?_, ?_⟩
  · intro call member
    rcases mem_append.mp member with old | new
    · exact (sound.calls call old).frame lists blobs
    · obtain rfl := mem_singleton.mp new
      refine ⟨?_, ?_, by simp [VaultCall.dropped], by simp [VaultCall.dropped], ?_, by simp⟩
      · intro query claims
        rcases exists_mem_of_ne_nil _ claims with ⟨id, inside⟩
        exact (only query id inside).1 ▸ plain
      · intro query id claims inside
        rcases only query id (mem_claimed_of_unlisted claims) with ⟨rfl, rfl⟩
        rw [ids] at inside
        exact free.1 inside
      · rintro _ _ ⟨rfl, rfl⟩
        exact fits
  · refine pairwise_append.mpr ⟨sound.apart, pairwise_singleton _ _, ?_⟩
    intro other old call new
    obtain rfl := mem_singleton.mp new
    refine fun query => ⟨fun id uploads claims => ?_, fun id uploads claims => ?_⟩
    · rcases only query id claims with ⟨rfl, rfl⟩
      exact free.2 other old (mem_claimed_of_unlisted (mem_append_left _ uploads))
    · rcases only query id (mem_claimed_of_unlisted (mem_append_left _ uploads)) with ⟨rfl,
      rfl⟩
      exact free.2 other old claims
  · intro query listed inside
    rw [lists] at inside
    rw [blobs]
    refine (sound.kept query listed inside).imp_right ?_
    rintro ⟨dropped, rest, member, same⟩
    exact ⟨dropped, rest, mem_append_left _ member, same⟩
  · intro query
    rw [lists]
    refine (sound.covered query).imp_right ?_
    rintro ⟨call, member, bound⟩
    refine ⟨call, mem_append_left _ member, ?_⟩
    rwa [withoutDropped, lists]

theorem VaultSound.remove
    (sound : VaultSound vault config) (listed : record ∈ config.shared.listed homeId)
    (spares : sparesNewer vault config homeId record.id) :
    VaultSound vault
      ⟨config.shared.splice homeId record.id, config.pending ++ [.removing homeId record.id]⟩ := by
  have distinct := sound.distinct homeId
  have only : ∀ query, ∀ id ∈ (VaultCall.removing homeId record.id).claimed query,
      query = homeId ∧ id = record.id := by
    intro query id claims
    simp only [VaultCall.claimed, VaultCall.uploaded, VaultCall.dropped, VaultCall.removed,
      map_nil, nil_append, mem_ite_nil_right, mem_singleton] at claims
    exact claims.imp_left Eq.symm
  refine ⟨?_, nodup_ids_splice sound.distinct, ?_, ?_, ?_, ?_⟩
  · intro query some
    rcases exists_mem_of_ne_nil _ some with ⟨other, inside⟩
    exact sound.plain query (ne_nil_of_mem ((mem_listed_splice distinct).mp inside).1)
  · intro call member
    rcases mem_append.mp member with old | new
    · exact (sound.calls call old).splice distinct (spares call old)
    · obtain rfl := mem_singleton.mp new
      refine ⟨?_, ?_, by simp [VaultCall.dropped], by simp [VaultCall.dropped], by simp, by simp⟩
      · intro query claims
        rcases exists_mem_of_ne_nil _ claims with ⟨id, inside⟩
        exact (only query id inside).1 ▸ sound.plain homeId (ne_nil_of_mem listed)
      · intro query id claims inside
        exact ((mem_ids_splice distinct).mp inside).2 (only query id
          (mem_claimed_of_unlisted claims))
  · refine pairwise_append.mpr ⟨sound.apart, pairwise_singleton _ _, ?_⟩
    intro other old call new
    obtain rfl := mem_singleton.mp new
    refine fun query => ⟨fun id uploads claims => ?_, by simp [VaultCall.uploaded]⟩
    rcases only query id claims with ⟨rfl, rfl⟩
    exact (sound.calls other old).unlisted _ _ (mem_append_left _ uploads)
      (mem_map_of_mem listed)
  · intro query other inside
    refine (sound.kept query other ((mem_listed_splice distinct).mp inside).1).imp_right ?_
    rintro ⟨dropped, rest, member, same⟩
    exact ⟨dropped, rest, mem_append_left _ member, same⟩
  · intro query
    refine (sound.covered query).imp (listed_splice_sublist distinct query).length_le.trans ?_
    rintro ⟨call, member, bound⟩
    exact ⟨call, mem_append_left _ member,
      (withoutDropped_splice distinct query call).trans bound⟩

theorem vaultSound_start (vault : BackupVaultService) (counter : Nat) :
    VaultSound vault (BackupVaultService.start counter) := by
  have none : ∀ homeId, (BackupVaultService.start counter).shared.listed homeId = [] := by
    intro homeId
    simp [BackupVaultService.start, Program.idle, VaultState.listed]
  have pending : (BackupVaultService.start counter).pending = [] := rfl
  refine ⟨?_, ?_, by simp [pending], by simp [pending], ?_, ?_⟩
  · exact fun homeId some => absurd (none homeId) some
  · simp [VaultState.ids, none]
  · simp [none]
  · simp [none]

theorem vaultSound_step {next : Config VaultState VaultCall} (sound : VaultSound vault config)
    (homes : ofSlashlessHome label) (kept : idsKept vault config label)
    (step : vault.machine.step config label = some next) :
    VaultSound vault next := by
  cases label with
  | call request =>
    obtain rfl := Program.step_call_eq_some.mp step
    cases request with
    | store input now =>
      simp only [BackupVaultService.program]
      cases accepted : vault.receive config.shared input now with
      | error error => simpa using sound
      | ok outcome =>
        exact sound.store accepted homes (kept outcome (by simp [accepted, Except.toOption]))
    | remove homeId id =>
      simp only [BackupVaultService.program]
      cases found : (config.shared.listed homeId).find? fun record =>
        decide (record.id = id) with
      | none => simpa using sound
      | some record =>
        have named := find?_some found
        simp only [decide_eq_true_eq] at named
        subst named
        exact sound.remove (mem_of_find?_eq_some found) kept
    | list homeId => simpa [BackupVaultService.program] using sound
  | resume index reply =>
    rcases Program.step_resume_eq_some.mp step with
      ⟨before, call, after, shared, more, split, -, resumed, rfl⟩
    rw [show config = ⟨config.shared, before ++ call :: after⟩ by rw [← split]] at sound
    cases call <;>
      simp only [BackupVaultService.program, Option.some.injEq, Prod.mk.injEq] at resumed <;>
      rcases resumed with ⟨rfl, rfl⟩
    · exact sound.putting
    · exact sound.stored
    · exact sound.deleting
    · exact sound.deleted
    · exact sound.removing

/-- Only a removal and the splice of a pruning take a backup out of the list. -/
theorem VaultSound.droppedForNewer {next : Config VaultState VaultCall}
    (sound : VaultSound vault config) (step : vault.machine.step config label = some next) :
    DroppedForNewer vault config label next := by
  intro homeId record inside gone
  cases label with
  | call request =>
    obtain rfl := Program.step_call_eq_some.mp step
    cases request with
    | store input now =>
      simp only [BackupVaultService.program] at gone
      cases accepted : vault.receive config.shared input now with
      | error error =>
        rw [accepted] at gone
        exact absurd inside gone
      | ok outcome =>
        rw [accepted, (receive_eq_ok accepted).1] at gone
        exact absurd inside gone
    | remove home id =>
      simp only [BackupVaultService.program] at gone
      split at gone
      · exact absurd inside gone
      · rw [mem_listed_splice (sound.distinct home), not_and, not_not] at gone
        rcases gone inside with ⟨rfl, rfl⟩
        exact .inl rfl
    | list home => exact absurd inside gone
  | resume index reply =>
    rcases Program.step_resume_eq_some.mp step with
      ⟨before, call, after, shared, more, split, -, resumed, rfl⟩
    have own : CallSound vault config.shared call := sound.calls call (by simp [split])
    cases call <;>
      simp only [BackupVaultService.program, Option.some.injEq, Prod.mk.injEq] at resumed <;>
      rcases resumed with ⟨rfl, rfl⟩
    case putting => exact absurd inside gone
    case stored => exact absurd (mem_listed_push.mpr (.inl inside)) gone
    case deleting => exact absurd inside gone
    case deleted home dropped rest =>
      rw [mem_listed_splice (sound.distinct home), not_and, not_not] at gone
      rcases gone inside with ⟨rfl, same⟩
      have mine : dropped ∈ (VaultCall.deleted homeId dropped rest).dropped homeId := by
        simp [VaultCall.dropped]
      have present := own.listed homeId dropped mine (same ▸ mem_map_of_mem inside)
      obtain rfl := inj_on_of_nodup_map (sound.distinct homeId) inside present same
      exact .inr (own.newer homeId record mine inside)
    case removing => exact absurd inside gone

theorem exists_fetch {ciphertext : List UInt8} (inside : record ∈ state.listed homeId)
    (found : state.get homeId record.id = some ciphertext) :
    ∃ first, state.fetch homeId record.id = .ok (first, ciphertext) := by
  have present : ((state.listed homeId).find? fun other =>
      decide (other.id = record.id)).isSome = true :=
    find?_isSome.mpr ⟨record, inside, by simp⟩
  rcases Option.isSome_iff_exists.mp present with ⟨first, listed⟩
  exact ⟨first, by rw [VaultState.fetch, listed, found]⟩

theorem VaultSound.vaultKeeps (sound : VaultSound vault config) : VaultKeeps vault config := by
  constructor
  · intro idle homeId record member
    have inside : record ∈ config.shared.listed homeId :=
      (mem_insertionSort fun left right => vault.notNewer right left).mp member
    rcases sound.kept homeId record inside with ⟨ciphertext, found, fits⟩ | ⟨_, _, pending, _⟩
    · rcases exists_fetch inside found with ⟨first, fetched⟩
      exact ⟨first, ciphertext, fetched, fits⟩
    · rw [idle] at pending
      cases pending
  · intro idle homeId
    rw [BackupVaultService.list, length_insertionSort]
    rcases sound.covered homeId with short | ⟨_, pending, _⟩
    · exact short
    · rw [idle] at pending
      cases pending

theorem vaultKeeps_throughout (vault : BackupVaultService) (counter : Nat)
    (labels : List (Schedule VaultRequest Unit)) (homes : ∀ label ∈ labels, ofSlashlessHome label)
    (kept : vault.machine.Guarded (idsKept vault) (BackupVaultService.start counter) labels) :
    vault.machine.Throughout (VaultKeeps vault) (BackupVaultService.start counter) labels ∧
      vault.machine.EachStep (DroppedForNewer vault) (BackupVaultService.start counter)
        labels := by
  have guarded := (Machine.guarded_of_forall_mem fun label member _ => homes label member).and kept
  have preserved : ∀ config label next, VaultSound vault config →
      ofSlashlessHome label ∧ idsKept vault config label →
      vault.machine.step config label = some next → VaultSound vault next :=
    fun _ _ _ sound met => vaultSound_step sound met.1 met.2
  exact ⟨(Machine.throughout_of_guarded preserved (vaultSound_start vault counter) guarded).mono
      fun _ sound => sound.vaultKeeps,
    Machine.eachStep_of_guarded preserved (fun _ _ _ sound _ => sound.droppedForNewer)
      (vaultSound_start vault counter) guarded⟩

/-- The code units of a text as the digits of a number. -/
def unitsOf (text : String) : Nat :=
  text.toList.foldl (fun units character => units * 2 ^ 21 + character.toNat) 0

/-- Texts of one length by their code units, which is how times of one format are collated. -/
def codeUnits : Collation where
  localeCompare left right :=
    if unitsOf left ≤ unitsOf right then
      if unitsOf right ≤ unitsOf left then 0 else -1
    else 1
  total left right := by
    rcases Nat.le_total (unitsOf left) (unitsOf right) with less | less
    · simp only [less, if_true]
      split <;> simp
    · simp only [less, if_true]
      split <;> simp
  trans left middle right first second := by
    split at first
    · split at second
      · rename_i below above
        rw [if_pos (Nat.le_trans below above)]
        split <;> simp
      · simp at second
    · simp at first

/-- A vault that keeps the newest backup, with the digests of some ciphertexts. -/
def newestOnly : BackupVaultService where
  retention := 1
  sha256 ciphertext :=
    if ciphertext = [1] then "4bf5122f344554c53bde2ebb8cd2b7e3d1600ad631c385a5d7cce23c7785459a"
    else if ciphertext = [2] then
      "dbc1b4c900ffe48d575b5da5c638040125f65db0fe3e24494b76ea986457d986"
    else "0ce3940bebf2b22a5d2108ecf0c368a0541c7e3c45703f8540921b4eafc82947"
  collation := codeUnits
  toISOString := fun _ => "2026-01-01T00:00:00.000Z"

def uploadOf (id createdAt : String) (ciphertext : List UInt8) : Schedule VaultRequest Unit :=
  .call (.store ⟨"home", some id, some createdAt, none, ciphertext, none⟩ 0)

/-- The first backup is pruned for the second while a third one is uploaded. -/
def prunedTwice : List (Schedule VaultRequest Unit) :=
  [uploadOf "a" "2026-01-01T00:00:00.000Z" [1], .resume 0 (), .resume 0 (),
    uploadOf "b" "2026-01-02T00:00:00.000Z" [2], .resume 0 (), .resume 0 (),
    uploadOf "c" "2026-01-03T00:00:00.000Z" [3, 4], .resume 0 (), .resume 1 (), .resume 0 (),
    .resume 0 (), .call (.list "home"), .resume 0 (), .resume 0 ()]

theorem vaultKeeps_prunedTwice :
    newestOnly.machine.Throughout (VaultKeeps newestOnly) (BackupVaultService.start 0)
        prunedTwice ∧
      newestOnly.machine.EachStep (DroppedForNewer newestOnly) (BackupVaultService.start 0)
        prunedTwice :=
  vaultKeeps_throughout newestOnly 0 prunedTwice (by decide +kernel) (by decide +kernel)

example : (newestOnly.machine.run (BackupVaultService.start 0) prunedTwice).map
    (fun config => (config.pending, (newestOnly.list config.shared "home").map BackupRecord.id,
      config.shared.blobs.keys)) = some ([], ["c"], ["home/c"]) := by
  decide +kernel

/-- An id is used for a second backup. -/
def sameIdTwice : List (Schedule VaultRequest Unit) :=
  [uploadOf "a" "2026-01-01T00:00:00.000Z" [1], .resume 0 (), .resume 0 (),
    uploadOf "a" "2026-01-02T00:00:00.000Z" [2], .resume 0 (), .resume 0 ()]

/-- The blob of the first backup has been written over, and its record is still listed. -/
theorem vaultKeeps_fails_sameIdTwice :
    ¬ ∀ (vault : BackupVaultService) (counter : Nat) (labels : List (Schedule VaultRequest Unit)),
      (∀ label ∈ labels, ofSlashlessHome label) →
      vault.machine.Throughout (VaultKeeps vault) (BackupVaultService.start counter) labels ∧
        vault.machine.EachStep (DroppedForNewer vault) (BackupVaultService.start counter)
          labels := by
  intro every
  let vault : BackupVaultService := { newestOnly with retention := 30 }
  let first : BackupRecord := ⟨"a", "home", "2026-01-01T00:00:00.000Z", "unknown", 1,
    "4bf5122f344554c53bde2ebb8cd2b7e3d1600ad631c385a5d7cce23c7785459a"⟩
  have observed : (vault.machine.run (BackupVaultService.start 0) sameIdTwice).map
      (fun config => (config.pending, decide (first ∈ vault.list config.shared "home"),
        (config.shared.fetch "home" "a").toOption.map Prod.snd)) = some ([], true, some [2]) := by
    decide +kernel
  rcases Option.map_eq_some_iff.mp observed with ⟨final, reached, fields⟩
  injection fields with idle fields
  injection fields with listed answered
  have keeps := Machine.property_of_throughout
    (every vault 0 sameIdTwice (by decide +kernel)).1 reached
  rcases keeps.fetched idle "home" first (of_decide_eq_true listed) with
    ⟨found, ciphertext, fetched, fits⟩
  rw [fetched] at answered
  obtain rfl : ciphertext = [2] := by simpa [Except.toOption] using answered
  exact absurd fits.1 (by decide +kernel)

end SupremeOs.Backups
