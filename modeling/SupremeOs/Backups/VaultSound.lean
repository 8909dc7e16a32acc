import SupremeOs.Backups.ListedBackups

/-!
# The blobs of the listed backups

The ids that are listed and those that the pending uploads are going to list are
all different, and what a pending call deletes belongs to none of them but the
backups that it drops.  So a blob is deleted only under an id that has left the
list, or that is about to.
-/

namespace SupremeOs.Backups

open Support List

variable {vault : BackupVaultService} {state : VaultState} {homeId id : String}
variable {call other : VaultCall} {before after more : List VaultCall}

/-- Neither call is at work on an id that the other one is going to list. -/
def Apart (left right : VaultCall) : Prop :=
  ∀ homeId, (∀ id ∈ left.uploaded homeId, id ∉ right.claimed homeId) ∧
    ∀ id ∈ right.uploaded homeId, id ∉ left.claimed homeId

structure CallSound (vault : BackupVaultService) (state : VaultState) (call : VaultCall) :
    Prop where
  plain : ∀ homeId, call.claimed homeId ≠ [] → slashless homeId
  unlisted : ∀ homeId, ∀ id ∈ call.uploaded homeId ++ call.removed homeId, id ∉ state.ids homeId
  listed : ∀ homeId, ∀ record ∈ call.dropped homeId, record.id ∈ state.ids homeId →
    record ∈ state.listed homeId
  newer : ∀ homeId, ∀ record ∈ call.dropped homeId, record ∈ state.listed homeId →
    vault.retention ≤ (Recency.newer vault.notNewer (state.listed homeId) record).length
  fitting : ∀ record ciphertext, call = .putting record ciphertext → vault.fits ciphertext record
  written : ∀ record, call = .stored record →
    ∃ ciphertext, state.get record.homeId record.id = some ciphertext ∧ vault.fits ciphertext record

/-- The backups of a home without those that a call is going to drop. -/
def withoutDropped (state : VaultState) (homeId : String) (call : VaultCall) : List BackupRecord :=
  (state.listed homeId).filter fun record =>
    decide (record.id ∉ (call.dropped homeId).map BackupRecord.id)

structure VaultSound (vault : BackupVaultService) (config : Config VaultState VaultCall) :
    Prop where
  plain : ∀ homeId, config.shared.listed homeId ≠ [] → slashless homeId
  distinct : ∀ homeId, (config.shared.ids homeId).Nodup
  calls : ∀ call ∈ config.pending, CallSound vault config.shared call
  apart : config.pending.Pairwise Apart
  /-- The blob of a listed backup is there, unless a pruning that has deleted it goes on. -/
  kept : ∀ homeId, ∀ record ∈ config.shared.listed homeId,
    (∃ ciphertext, config.shared.get homeId record.id = some ciphertext ∧
      vault.fits ciphertext record) ∨
    ∃ dropped rest, .deleted homeId dropped rest ∈ config.pending ∧ dropped.id = record.id
  /-- A home has too many backups only while a pruning drops the rest. -/
  covered : ∀ homeId, (config.shared.listed homeId).length ≤ vault.retention ∨
    ∃ call ∈ config.pending, (withoutDropped config.shared homeId call).length ≤ vault.retention

theorem Apart.symm {left right : VaultCall} (apart : Apart left right) : Apart right left :=
  fun homeId => ⟨(apart homeId).2, (apart homeId).1⟩

theorem Apart.mono {later : VaultCall} (apart : Apart call other)
    (uploaded : ∀ homeId, later.uploaded homeId ⊆ call.uploaded homeId)
    (claimed : ∀ homeId, later.claimed homeId ⊆ call.claimed homeId) : Apart later other := by
  intro homeId
  exact ⟨fun id member => (apart homeId).1 id (uploaded homeId member),
    fun id member inside => (apart homeId).2 id member (claimed homeId inside)⟩

theorem apart_of_pairwise (apart : (before ++ call :: after).Pairwise Apart)
    (member : other ∈ before ++ after) : Apart call other := by
  have first := (perm_middle.pairwise_iff Apart.symm).mp apart
  exact rel_of_pairwise_cons first member

theorem pairwise_replace (apart : (before ++ call :: after).Pairwise Apart)
    (single : more.length ≤ 1)
    (fresh : ∀ later ∈ more, ∀ other ∈ before ++ after, Apart later other) :
    (before ++ more ++ after).Pairwise Apart := by
  have rest := ((perm_middle.pairwise_iff Apart.symm).mp apart).of_cons
  have reordered : (before ++ more ++ after).Perm (more ++ (before ++ after)) := by
    rw [← append_assoc]
    exact List.Perm.append_right after perm_append_comm
  refine (reordered.pairwise_iff Apart.symm).mpr
    (pairwise_append.mpr ⟨?_, rest, fresh⟩)
  match more, single with
  | [], _ => exact List.Pairwise.nil
  | [_], _ => exact pairwise_singleton _ _

theorem mem_claimed_of_stored (record : BackupRecord) :
    record.id ∈ (VaultCall.stored record).claimed record.homeId := by
  simp [VaultCall.claimed, VaultCall.uploaded]

theorem CallSound.put (sound : CallSound vault state call) (own : slashless homeId)
    (free : id ∉ call.claimed homeId) (ciphertext : List UInt8) :
    CallSound vault (state.put homeId id ciphertext) call := by
  refine { sound with written := ?_ }
  rintro record rfl
  have inside := mem_claimed_of_stored record
  rw [get_put own (sound.plain record.homeId (ne_nil_of_mem inside)), if_neg]
  · exact sound.written record rfl
  · rintro ⟨rfl, rfl⟩
    exact free inside

theorem CallSound.delete (sound : CallSound vault state call)
    (own : slashless homeId) (free : id ∉ call.uploaded homeId) :
    CallSound vault (state.delete homeId id) call := by
  refine { sound with written := ?_ }
  rintro record rfl
  have inside := mem_claimed_of_stored record
  rw [get_delete own (sound.plain record.homeId (ne_nil_of_mem inside)), if_neg]
  · exact sound.written record rfl
  · rintro ⟨rfl, rfl⟩
    exact free (by simp [VaultCall.uploaded])

variable {record : BackupRecord} {query : String}

theorem mem_claimed_of_dropped (member : record ∈ call.dropped homeId) :
    record.id ∈ call.claimed homeId := by
  simp only [VaultCall.claimed, mem_append]
  exact .inl (.inr (mem_map_of_mem member))

theorem mem_claimed_of_unlisted (member : id ∈ call.uploaded homeId ++ call.removed homeId) :
    id ∈ call.claimed homeId := by
  simp only [VaultCall.claimed, mem_append] at member ⊢
  exact member.imp_left .inl

theorem listed_push (record : BackupRecord) (query : String) : (state.push record).listed query =
      if query = record.homeId then state.listed record.homeId ++ [record]
      else state.listed query := by
  rw [VaultState.push, VaultState.listed_setListed]

theorem mem_ids_push : id ∈ (state.push record).ids query ↔
      id ∈ state.ids query ∨ (query = record.homeId ∧ id = record.id) := by
  rw [VaultState.ids, listed_push]
  split
  · rename_i same
    subst same
    simp [VaultState.ids]
  · rename_i differs
    simp [VaultState.ids, differs]

theorem mem_listed_push {other : BackupRecord} : other ∈ (state.push record).listed query ↔
      other ∈ state.listed query ∨ (query = record.homeId ∧ other = record) := by
  rw [listed_push]
  split
  · rename_i same
    subst same
    simp
  · rename_i differs
    simp [differs]

theorem CallSound.push (sound : CallSound vault state call)
    (free : record.id ∉ call.claimed record.homeId) (fresh : record.id ∉ state.ids record.homeId) :
    CallSound vault (state.push record) call := by
  have absent : record ∉ state.listed record.homeId :=
    fun inside => fresh (mem_map_of_mem inside)
  refine { sound with unlisted := ?_, listed := ?_, newer := ?_, written := sound.written }
  · intro homeId id member inside
    rcases mem_ids_push.mp inside with old | ⟨rfl, rfl⟩
    · exact sound.unlisted homeId id member old
    · exact free (mem_claimed_of_unlisted member)
  · intro homeId dropped member inside
    rcases mem_ids_push.mp inside with old | ⟨rfl, same⟩
    · exact mem_listed_push.mpr (.inl (sound.listed homeId dropped member old))
    · exact absurd (same ▸ mem_claimed_of_dropped member) free
  · intro homeId dropped member inside
    rcases mem_listed_push.mp inside with old | ⟨rfl, rfl⟩
    · have enough := sound.newer homeId dropped member old
      rw [listed_push]
      split
      · rename_i same
        subst same
        exact enough.trans (Recency.length_newer_concat vault.notNewer old absent)
      · exact enough
    · exact absurd (mem_claimed_of_dropped member) free

theorem mem_ids_splice (distinct : (state.ids homeId).Nodup) {other : String} :
    other ∈ (state.splice homeId id).ids query ↔
      other ∈ state.ids query ∧ ¬(query = homeId ∧ other = id) := by
  simp only [VaultState.ids, mem_map, mem_listed_splice distinct]
  constructor
  · rintro ⟨record, ⟨inside, differs⟩, rfl⟩
    exact ⟨⟨record, inside, rfl⟩, differs⟩
  · rintro ⟨⟨record, inside, rfl⟩, differs⟩
    exact ⟨record, ⟨inside, differs⟩, rfl⟩

theorem CallSound.splice (sound : CallSound vault state call) (distinct : (state.ids homeId).Nodup)
    (enough : ∀ record ∈ call.dropped homeId, record ∈ (state.splice homeId id).listed homeId →
      vault.retention ≤ (Recency.newer vault.notNewer
        ((state.splice homeId id).listed homeId) record).length) :
    CallSound vault (state.splice homeId id) call := by
  refine { sound with unlisted := ?_, listed := ?_, newer := ?_, written := sound.written }
  · intro query other member inside
    exact sound.unlisted query other member ((mem_ids_splice distinct).mp inside).1
  · intro query record member inside
    rcases (mem_ids_splice distinct).mp inside with ⟨old, differs⟩
    exact (mem_listed_splice distinct).mpr ⟨sound.listed query record member old, differs⟩
  · intro query record member inside
    by_cases same : query = homeId
    · subst same
      exact enough record member inside
    · have old := ((mem_listed_splice distinct).mp inside).1
      rw [listed_splice distinct, if_neg same]
      exact sound.newer query record member old

section Segments

variable {record : BackupRecord} {ciphertext : List UInt8} {rest : List BackupRecord}

theorem VaultSound.at_call (sound : VaultSound vault ⟨state, before ++ call :: after⟩) :
    CallSound vault state call ∧
      ∀ other ∈ before ++ after, CallSound vault state other ∧ Apart call other := by
  refine ⟨sound.calls call (by simp), fun other member => ⟨sound.calls other ?_, ?_⟩⟩
  · simp only [mem_append, mem_cons] at member ⊢
    exact member.imp_right .inr
  · exact apart_of_pairwise sound.apart member

theorem mem_replace {member : VaultCall} :
    member ∈ before ++ more ++ after ↔ member ∈ more ∨ member ∈ before ++ after := by
  simp only [mem_append]
  tauto

theorem covered_replace {next : VaultState} {later : VaultCall}
    (covered : (state.listed homeId).length ≤ vault.retention ∨ ∃ other ∈ before ++ call :: after,
        (withoutDropped state homeId other).length ≤ vault.retention)
    (lists : next.listed = state.listed) (same : later.dropped homeId = call.dropped homeId) :
    (next.listed homeId).length ≤ vault.retention ∨ ∃ other ∈ before ++ [later] ++ after,
        (withoutDropped next homeId other).length ≤ vault.retention := by
  rw [lists]
  refine covered.imp_right ?_
  rintro ⟨other, member, bound⟩
  by_cases own : other = call
  · subst own
    refine ⟨later, by simp, ?_⟩
    rwa [withoutDropped, lists, same]
  · refine ⟨other, Program.mem_of_mem_pending member own, ?_⟩
    rwa [withoutDropped, lists]

theorem withoutDropped_of_nil (none : call.dropped homeId = []) :
    withoutDropped state homeId call = state.listed homeId := by
  simp [withoutDropped, none]

theorem slashless_of_claimed (sound : CallSound vault state call) (member :
    id ∈ call.claimed homeId) :
    slashless homeId :=
  sound.plain homeId (ne_nil_of_mem member)

theorem VaultSound.putting
    (sound : VaultSound vault ⟨state, before ++ .putting record ciphertext :: after⟩) :
    VaultSound vault ⟨state.put record.homeId record.id ciphertext,
      before ++ [.stored record] ++ after⟩ := by
  rcases sound.at_call with ⟨own, others⟩
  have mine : record.id ∈ (VaultCall.putting record ciphertext).uploaded record.homeId := by
    simp [VaultCall.uploaded]
  have plain : slashless record.homeId :=
    slashless_of_claimed own (mem_claimed_of_unlisted (mem_append_left _ mine))
  have fresh : record.id ∉ state.ids record.homeId :=
    own.unlisted record.homeId record.id (mem_append_left _ mine)
  refine ⟨sound.plain, sound.distinct, ?_, ?_, ?_, fun homeId =>
    covered_replace (sound.covered homeId) rfl rfl⟩
  · intro other member
    rcases mem_replace.mp member with new | old
    · obtain rfl := mem_singleton.mp new
      refine ⟨own.plain, own.unlisted, by simp [VaultCall.dropped], by simp [VaultCall.dropped],
        by simp, ?_⟩
      rintro _ ⟨rfl⟩
      exact ⟨ciphertext, by simp [get_put plain plain], own.fitting _ _ rfl⟩
    · exact (others other old).1.put plain (((others other old).2 record.homeId).1 _
      mine) ciphertext
  · refine pairwise_replace sound.apart (by simp) fun later member other old => ?_
    obtain rfl := mem_singleton.mp member
    exact (others other old).2.mono (fun _ => List.Subset.refl _) fun _ => List.Subset.refl _
  · intro homeId listed inside
    rcases sound.kept homeId listed inside with ⟨blob, found, fits⟩ | ⟨dropped, rest, member, same⟩
    · refine .inl ⟨blob, ?_, fits⟩
      rw [get_put plain (sound.plain homeId (ne_nil_of_mem inside)), if_neg]
      · exact found
      · rintro ⟨rfl, equal⟩
        exact fresh (equal ▸ mem_map_of_mem inside)
    · exact .inr ⟨dropped, rest, Program.mem_of_mem_pending member (by simp), same⟩

theorem VaultSound.deleting
    (sound : VaultSound vault ⟨state, before ++ .deleting homeId record rest :: after⟩) :
    VaultSound vault ⟨state.delete homeId record.id,
      before ++ [.deleted homeId record rest] ++ after⟩ := by
  rcases sound.at_call with ⟨own, others⟩
  have mine : record ∈ (VaultCall.deleting homeId record rest).dropped homeId := by
    simp [VaultCall.dropped]
  have plain : slashless homeId := slashless_of_claimed own (mem_claimed_of_dropped mine)
  refine ⟨sound.plain, sound.distinct, ?_, ?_, ?_, fun query =>
    covered_replace (sound.covered query) rfl rfl⟩
  · intro other member
    rcases mem_replace.mp member with new | old
    · obtain rfl := mem_singleton.mp new
      exact ⟨own.plain, own.unlisted, own.listed, own.newer, by simp, by simp⟩
    · exact (others other old).1.delete plain fun inside =>
        ((others other old).2 homeId).2 _ inside (mem_claimed_of_dropped mine)
  · refine pairwise_replace sound.apart (by simp) fun later member other old => ?_
    obtain rfl := mem_singleton.mp member
    exact (others other old).2.mono (fun _ => List.Subset.refl _) fun _ => List.Subset.refl _
  · intro query listed inside
    by_cases same : query = homeId ∧ listed.id = record.id
    · rcases same with ⟨rfl, same⟩
      exact .inr ⟨record, rest, by simp, same.symm⟩
    · rcases sound.kept query listed inside with ⟨blob, found, fits⟩ | ⟨dropped, rest, member, same⟩
      · refine .inl ⟨blob, ?_, fits⟩
        rw [get_delete plain (sound.plain query (ne_nil_of_mem inside)), if_neg same]
        exact found
      · exact .inr ⟨dropped, rest, Program.mem_of_mem_pending member (by simp), same⟩

theorem VaultSound.removing
    (sound : VaultSound vault ⟨state, before ++ .removing homeId id :: after⟩) :
    VaultSound vault ⟨state.delete homeId id, before ++ [] ++ after⟩ := by
  rcases sound.at_call with ⟨own, others⟩
  have mine : id ∈ (VaultCall.removing homeId id).removed homeId := by simp [VaultCall.removed]
  have claimed := mem_claimed_of_unlisted (mem_append_right _ mine)
  have plain : slashless homeId := slashless_of_claimed own claimed
  have gone : id ∉ state.ids homeId := own.unlisted homeId id (mem_append_right _ mine)
  refine ⟨sound.plain, sound.distinct, ?_, pairwise_replace sound.apart (by simp) (by simp), ?_, ?_⟩
  · intro other member
    rcases mem_replace.mp member with new | old
    · cases new
    · exact (others other old).1.delete plain fun inside =>
        ((others other old).2 homeId).2 _ inside claimed
  · intro query listed inside
    rcases sound.kept query listed inside with ⟨blob, found, fits⟩ | ⟨dropped, rest, member, same⟩
    · refine .inl ⟨blob, ?_, fits⟩
      rw [get_delete plain (sound.plain query (ne_nil_of_mem inside)), if_neg]
      · exact found
      · rintro ⟨rfl, rfl⟩
        exact gone (mem_map_of_mem inside)
    · exact .inr ⟨dropped, rest, Program.mem_of_mem_pending member (by simp), same⟩
  · intro query
    rcases sound.covered query with short | ⟨other, member, bound⟩
    · exact .inl short
    · by_cases same : other = .removing homeId id
      · rw [same, withoutDropped_of_nil rfl] at bound
        exact .inl bound
      · exact .inr ⟨other, Program.mem_of_mem_pending member same, bound⟩

end Segments

section Prunings

variable {record : BackupRecord} {drops rest : List BackupRecord}

theorem mem_outdated {list : List BackupRecord} (member : record ∈ vault.outdated list) :
    record ∈ list ∧ vault.retention ≤ (Recency.newer vault.notNewer list record).length := by
  rw [BackupVaultService.outdated] at member
  split at member
  · cases member
  · exact ⟨(mem_insertionSort vault.notNewer).mp (mem_of_mem_take member),
      Recency.le_length_newer vault.notNewer member⟩

theorem length_without_outdated (vault : BackupVaultService) (list : List BackupRecord) :
    (list.filter fun record =>
      decide (record.id ∉ (vault.outdated list).map BackupRecord.id)).length ≤ vault.retention := by
  rw [BackupVaultService.outdated]
  split
  · rename_i short
    exact (length_filter_le _ _).trans short
  · refine Nat.le_trans ?_ (Recency.length_filter_not_mem_take vault.notNewer list vault.retention)
    refine (monotone_filter_right list fun record kept => ?_).length_le
    simp only [decide_eq_true_eq] at kept ⊢
    exact fun inside => kept (mem_map_of_mem inside)

theorem mem_dropNext (member : call ∈ BackupVaultService.dropNext homeId drops) :
    ∃ first rest, drops = first :: rest ∧ call = .deleting homeId first rest := by
  cases drops with
  | nil => cases member
  | cons first rest => exact ⟨first, rest, rfl, mem_singleton.mp member⟩

theorem length_dropNext (homeId : String) (drops : List BackupRecord) :
    (BackupVaultService.dropNext homeId drops).length ≤ 1 := by
  cases drops <;> simp [BackupVaultService.dropNext]

variable {first : BackupRecord}

theorem mem_dropped_deleting {query : String} :
    record ∈ (VaultCall.deleting homeId first rest).dropped query ↔
      homeId = query ∧ record ∈ first :: rest := by
  rw [VaultCall.dropped]
  split
  · rename_i same
    simp [same]
  · rename_i differs
    simp [differs]

theorem mem_claimed_deleting {query : String} :
    id ∈ (VaultCall.deleting homeId first rest).claimed query ↔
      homeId = query ∧ id ∈ (first :: rest).map BackupRecord.id := by
  simp only [VaultCall.claimed, VaultCall.uploaded, VaultCall.removed, nil_append,
    append_nil, mem_map, mem_dropped_deleting, and_assoc, exists_and_left]

theorem callSound_deleting (plain : slashless homeId)
    (listed : ∀ record ∈ first :: rest, record.id ∈ state.ids homeId → record ∈ state.listed homeId)
    (newer : ∀ record ∈ first :: rest, record ∈ state.listed homeId →
      vault.retention ≤ (Recency.newer vault.notNewer (state.listed homeId) record).length) :
    CallSound vault state (.deleting homeId first rest) := by
  refine ⟨?_, by simp [VaultCall.uploaded, VaultCall.removed], ?_, ?_, by simp, by simp⟩
  · intro query claims
    rcases exists_mem_of_ne_nil _ claims with ⟨id, member⟩
    exact (mem_claimed_deleting.mp member).1 ▸ plain
  · intro query record member
    rcases mem_dropped_deleting.mp member with ⟨rfl, inside⟩
    exact listed record inside
  · intro query record member
    rcases mem_dropped_deleting.mp member with ⟨rfl, inside⟩
    exact newer record inside

theorem covered_push {record : BackupRecord}
    (sound : VaultSound vault ⟨state, before ++ .stored record :: after⟩) (query : String) :
    ((state.push record).listed query).length ≤ vault.retention ∨
      ∃ other ∈ before ++ vault.prune (state.push record) record.homeId ++ after,
        (withoutDropped (state.push record) query other).length ≤ vault.retention := by
  by_cases own : query = record.homeId
  · subst own
    have bound := length_without_outdated vault ((state.push record).listed record.homeId)
    rw [BackupVaultService.prune]
    cases drops : vault.outdated ((state.push record).listed record.homeId) with
    | nil =>
      rw [drops] at bound
      exact .inl (by simpa using bound)
    | cons first rest =>
      rw [drops] at bound
      refine .inr ⟨.deleting record.homeId first rest, by simp [BackupVaultService.dropNext], ?_⟩
      simpa [withoutDropped, VaultCall.dropped] using bound
  · have same : (state.push record).listed query = state.listed query := by
      rw [listed_push, if_neg own]
    rcases sound.covered query with short | ⟨other, member, bound⟩
    · exact .inl (same ▸ short)
    · by_cases mine : other = .stored record
      · rw [mine, withoutDropped_of_nil rfl] at bound
        exact .inl (same ▸ bound)
      · refine .inr ⟨other, Program.mem_of_mem_pending member mine, ?_⟩
        rwa [withoutDropped, same]

theorem VaultSound.stored (sound : VaultSound vault ⟨state, before ++ .stored record :: after⟩) :
    VaultSound vault ⟨state.push record,
      before ++ vault.prune (state.push record) record.homeId ++ after⟩ := by
  rcases sound.at_call with ⟨own, others⟩
  have mine : record.id ∈ (VaultCall.stored record).uploaded record.homeId := by
    simp [VaultCall.uploaded]
  have plain : slashless record.homeId :=
    slashless_of_claimed own (mem_claimed_of_unlisted (mem_append_left _ mine))
  have fresh : record.id ∉ state.ids record.homeId :=
    own.unlisted record.homeId record.id (mem_append_left _ mine)
  have prunes : ∀ later ∈ vault.prune (state.push record) record.homeId,
      ∃ first rest, later = .deleting record.homeId first rest ∧
        ∀ dropped ∈ first :: rest, dropped ∈ (state.push record).listed record.homeId ∧
          vault.retention ≤ (Recency.newer vault.notNewer
            ((state.push record).listed record.homeId) dropped).length := by
    intro later member
    rcases mem_dropNext member with ⟨first, rest, drops, rfl⟩
    refine ⟨first, rest, rfl, fun dropped inside => ?_⟩
    rw [← drops] at inside
    exact mem_outdated inside
  refine ⟨?_, ?_, ?_, ?_, ?_, covered_push sound⟩
  · intro query listed
    rw [listed_push] at listed
    split at listed
    · rename_i same
      exact same ▸ plain
    · exact sound.plain query listed
  · intro query
    rw [VaultState.ids, listed_push]
    split
    · rename_i same
      subst same
      rw [map_append, map_singleton, ← concat_eq_append, nodup_concat]
      exact ⟨fresh, sound.distinct record.homeId⟩
    · exact sound.distinct query
  · intro other member
    rcases mem_replace.mp member with new | old
    · rcases prunes other new with ⟨first, rest, rfl, drops⟩
      exact callSound_deleting plain (fun dropped inside _ => (drops dropped inside).1)
        fun dropped inside _ => (drops dropped inside).2
    · exact (others other old).1.push (((others other old).2 record.homeId).1 _ mine) fresh
  · refine pairwise_replace sound.apart (length_dropNext _ _) fun later member other old => ?_
    rcases prunes later member with ⟨first, rest, rfl, drops⟩
    refine fun query => ⟨by simp [VaultCall.uploaded], fun id uploads claims => ?_⟩
    rcases mem_claimed_deleting.mp claims with ⟨rfl, inside⟩
    rcases mem_map.mp inside with ⟨dropped, among, rfl⟩
    rcases mem_listed_push.mp (drops dropped among).1 with listed | ⟨-, rfl⟩
    · exact (others other old).1.unlisted record.homeId _ (mem_append_left _ uploads)
        (mem_map_of_mem listed)
    · exact ((others other old).2 _).2 _ uploads (mem_claimed_of_stored dropped)
  · intro query listed inside
    rcases mem_listed_push.mp inside with old | ⟨rfl, rfl⟩
    · rcases sound.kept query listed old with found | ⟨dropped, rest, member, same⟩
      · exact .inl found
      · exact .inr ⟨dropped, rest, Program.mem_of_mem_pending member (by simp), same⟩
    · exact .inl (own.written _ rfl)

theorem filter_id_eq {list : List BackupRecord} (distinct : (list.map BackupRecord.id).Nodup)
    (member : record ∈ list) :
    (list.filter fun other => decide (other.id ≠ record.id)) =
      list.filter fun other => decide (other ≠ record) := by
  refine filter_congr fun other inside => decide_eq_decide.mpr (not_congr ?_)
  exact ⟨fun same => inj_on_of_nodup_map distinct inside member same, congrArg _⟩

theorem enough_splice (sound : CallSound vault state call)
    (otherSound : CallSound vault state other) (distinct : (state.ids homeId).Nodup)
    (drops : record ∈ call.dropped homeId) :
    ∀ dropped ∈ other.dropped homeId, dropped ∈ (state.splice homeId record.id).listed homeId →
      vault.retention ≤ (Recency.newer vault.notNewer
        ((state.splice homeId record.id).listed homeId) dropped).length := by
  intro dropped member inside
  rcases (mem_listed_splice distinct).mp inside with ⟨listed, differs⟩
  have enough := otherSound.newer homeId dropped member listed
  rw [listed_splice distinct, if_pos rfl]
  by_cases present : record.id ∈ state.ids homeId
  · have inList := sound.listed homeId record drops present
    rw [filter_id_eq distinct inList]
    refine Recency.le_length_newer_erase vault.notNewer distinct.of_map listed enough
      (fun _ => sound.newer homeId record drops inList) ?_
    rintro rfl
    exact differs ⟨rfl, rfl⟩
  · rw [filter_eq_self.mpr]
    · exact enough
    · intro entry entryListed
      simp only [decide_eq_true_eq]
      intro same
      exact present (same ▸ mem_map_of_mem entryListed)

theorem nodup_ids_splice (distinct : ∀ query, (state.ids query).Nodup) (query : String) :
    ((state.splice homeId id).ids query).Nodup := by
  rw [VaultState.ids, listed_splice (distinct homeId)]
  split
  · exact (filter_sublist.map BackupRecord.id).nodup (distinct homeId)
  · exact distinct query

theorem listed_splice_sublist (distinct : (state.ids homeId).Nodup) (query : String) :
    ((state.splice homeId id).listed query).Sublist (state.listed query) := by
  rw [listed_splice distinct]
  split
  · rename_i same
    exact same ▸ filter_sublist
  · exact List.Sublist.refl _

theorem withoutDropped_splice (distinct : (state.ids homeId).Nodup) (query : String)
    (call : VaultCall) :
    (withoutDropped (state.splice homeId id) query call).length ≤
      (withoutDropped state query call).length :=
  (List.Sublist.filter _ (listed_splice_sublist distinct query)).length_le

theorem withoutDropped_deleted (distinct : (state.ids homeId).Nodup) :
    withoutDropped state homeId (.deleted homeId record rest) =
      ((state.splice homeId record.id).listed homeId).filter fun other =>
        decide (other.id ∉ rest.map BackupRecord.id) := by
  rw [withoutDropped, listed_splice distinct, if_pos rfl, filter_filter]
  refine filter_congr fun other _ => ?_
  simp only [VaultCall.dropped, if_true, map_cons, mem_cons, not_or, ne_eq, Bool.decide_and]
  exact Bool.and_comm _ _

theorem covered_splice
    (sound : VaultSound vault ⟨state, before ++ .deleted homeId record rest :: after⟩)
    (query : String) :
    ((state.splice homeId record.id).listed query).length ≤ vault.retention ∨
      ∃ other ∈ before ++ BackupVaultService.dropNext homeId rest ++ after,
        (withoutDropped (state.splice homeId record.id) query other).length ≤ vault.retention := by
  have distinct := sound.distinct homeId
  have shorter : ((state.splice homeId record.id).listed query).length ≤
      (state.listed query).length := (listed_splice_sublist distinct query).length_le
  rcases sound.covered query with short | ⟨other, member, bound⟩
  · exact .inl (shorter.trans short)
  · by_cases mine : other = .deleted homeId record rest
    · subst mine
      by_cases same : homeId = query
      · subst same
        rw [withoutDropped_deleted distinct] at bound
        cases rest with
        | nil => exact .inl (by simpa using bound)
        | cons first later =>
          refine .inr ⟨.deleting homeId first later, by simp [BackupVaultService.dropNext], ?_⟩
          simpa [withoutDropped, VaultCall.dropped] using bound
      · rw [withoutDropped_of_nil (by simp [VaultCall.dropped, same])] at bound
        exact .inl (shorter.trans bound)
    · exact .inr ⟨other, Program.mem_of_mem_pending member mine,
        (withoutDropped_splice distinct query other).trans bound⟩

theorem VaultSound.deleted
    (sound : VaultSound vault ⟨state, before ++ .deleted homeId record rest :: after⟩) :
    VaultSound vault ⟨state.splice homeId record.id,
      before ++ BackupVaultService.dropNext homeId rest ++ after⟩ := by
  rcases sound.at_call with ⟨own, others⟩
  have mine : record ∈ (VaultCall.deleted homeId record rest).dropped homeId := by
    simp [VaultCall.dropped]
  have plain : slashless homeId := slashless_of_claimed own (mem_claimed_of_dropped mine)
  have distinct := sound.distinct homeId
  have kept : CallSound vault (state.splice homeId record.id) (.deleted homeId record rest) :=
    own.splice distinct (enough_splice own own distinct mine)
  refine ⟨?_, nodup_ids_splice sound.distinct, ?_, ?_, ?_, covered_splice sound⟩
  · intro query listed
    rcases exists_mem_of_ne_nil _ listed with ⟨other, inside⟩
    exact sound.plain query (ne_nil_of_mem ((mem_listed_splice distinct).mp inside).1)
  · intro other member
    rcases mem_replace.mp member with new | old
    · rcases mem_dropNext new with ⟨first, later, rfl, rfl⟩
      have among : ∀ dropped ∈ first :: later,
          dropped ∈ (VaultCall.deleted homeId record (first :: later)).dropped homeId := by
        intro dropped inside
        simp only [VaultCall.dropped, if_true]
        exact .tail _ inside
      exact callSound_deleting plain (fun dropped inside => kept.listed homeId dropped
        (among dropped inside)) fun dropped inside => kept.newer homeId dropped
          (among dropped inside)
    · exact (others other old).1.splice distinct
        (enough_splice own (others other old).1 distinct mine)
  · refine pairwise_replace sound.apart (length_dropNext _ _) fun later member other old => ?_
    rcases mem_dropNext member with ⟨first, onward, rfl, rfl⟩
    refine fun query => ⟨by simp [VaultCall.uploaded], fun id uploads claims => ?_⟩
    rcases mem_claimed_deleting.mp claims with ⟨rfl, inside⟩
    refine ((others other old).2 homeId).2 id uploads ?_
    simp only [VaultCall.claimed, VaultCall.dropped, if_true, mem_append]
    exact .inl (.inr (.tail _ inside))
  · intro query listed inside
    rcases (mem_listed_splice distinct).mp inside with ⟨old, differs⟩
    rcases sound.kept query listed old with found | ⟨dropped, onward, member, same⟩
    · exact .inl found
    · refine .inr ⟨dropped, onward, Program.mem_of_mem_pending member ?_, same⟩
      rintro ⟨rfl⟩
      exact differs ⟨rfl, same.symm⟩

end Prunings

end SupremeOs.Backups
