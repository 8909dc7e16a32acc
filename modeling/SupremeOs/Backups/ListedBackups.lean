import SupremeOs.Backups.BackupVault
import SupremeOs.DomainModel.JsValue

/-!
# The backups that are listed

When no call is in flight, each listed backup should be there to be fetched, with
the digest and the size of its record, and no home should have more than the
retention allows.  A backup should leave the list only by its removal, or when
enough newer ones are listed.

An upload under an id that is in use writes over the blob of another backup, and
a removal during a pruning takes away a newer backup that the pruning counted on.
-/

namespace SupremeOs.Backups

open Support DomainModel List

variable {vault : BackupVaultService} {state next : VaultState} {homeId id query queryId : String}

namespace BackupVaultService

def fits (vault : BackupVaultService) (ciphertext : List UInt8) (record : BackupRecord) : Prop :=
  vault.sha256 ciphertext = record.sha256 ∧ ciphertext.length = record.sizeBytes

end BackupVaultService

structure VaultKeeps (vault : BackupVaultService) (config : Config VaultState VaultCall) :
    Prop where
  fetched : config.pending = [] → ∀ homeId, ∀ record ∈ vault.list config.shared homeId,
    ∃ found ciphertext, config.shared.fetch homeId record.id = .ok (found, ciphertext) ∧
      vault.fits ciphertext record
  retained : config.pending = [] → ∀ homeId,
    (vault.list config.shared homeId).length ≤ vault.retention

/-- A backup leaves the list by its removal, or because enough newer ones are listed. -/
def DroppedForNewer (vault : BackupVaultService) (config : Config VaultState VaultCall)
    (label : Schedule VaultRequest Unit) (next : Config VaultState VaultCall) : Prop :=
  ∀ homeId, ∀ record ∈ config.shared.listed homeId, record ∉ next.shared.listed homeId →
    label = .call (.remove homeId record.id) ∨ vault.retention ≤
        (Recency.newer vault.notNewer (config.shared.listed homeId) record).length

def slashless (homeId : String) : Prop := '/' ∉ homeId.toList

def ofSlashlessHome : Schedule VaultRequest Unit → Prop
  | .call (.store input _) => slashless input.homeId
  | .call (.remove homeId _) | .call (.list homeId) => slashless homeId
  | .resume _ _ => True

instance : Decidable (slashless homeId) := inferInstanceAs (Decidable (_ ∉ _))

instance : ∀ label, Decidable (ofSlashlessHome label) := by
  intro label
  unfold ofSlashlessHome
  split <;> infer_instance

def VaultState.ids (state : VaultState) (homeId : String) : List String :=
  (state.listed homeId).map BackupRecord.id

namespace VaultCall

/-- The id under which a call is going to list a backup of a home. -/
def uploaded (homeId : String) : VaultCall → List String
  | .putting record _ | .stored record => if record.homeId = homeId then [record.id] else []
  | .deleting _ _ _ | .deleted _ _ _ | .removing _ _ => []

def dropped (homeId : String) : VaultCall → List BackupRecord
  | .deleting home record rest | .deleted home record rest =>
    if home = homeId then record :: rest else []
  | .putting _ _ | .stored _ | .removing _ _ => []

def removed (homeId : String) : VaultCall → List String
  | .removing home id => if home = homeId then [id] else []
  | .putting _ _ | .stored _ | .deleting _ _ _ | .deleted _ _ _ => []

/-- The ids of a home that a call is at work on. -/
def claimed (homeId : String) (call : VaultCall) : List String :=
  call.uploaded homeId ++ (call.dropped homeId).map BackupRecord.id ++ call.removed homeId

end VaultCall

/-- No backup of the home is listed under the id and no call is at work on it. -/
def unused (config : Config VaultState VaultCall) (homeId id : String) : Prop :=
  id ∉ config.shared.ids homeId ∧ ∀ call ∈ config.pending, id ∉ call.claimed homeId

/-- Without the backup enough newer ones are left of those that are being dropped. -/
def sparesNewer (vault : BackupVaultService) (config : Config VaultState VaultCall)
    (homeId id : String) : Prop :=
  let remaining := (config.shared.splice homeId id).listed homeId
  ∀ call ∈ config.pending, ∀ record ∈ call.dropped homeId, record ∈ remaining →
    vault.retention ≤ (Recency.newer vault.notNewer remaining record).length

/--
An accepted upload has an id that is not in use, and a removal leaves the backups
that are being dropped enough newer ones.
-/
def idsKept (vault : BackupVaultService) (config : Config VaultState VaultCall) :
    Schedule VaultRequest Unit → Prop
  | .call (.store input now) =>
    ∀ accepted ∈ (vault.receive config.shared input now).toOption,
      unused config input.homeId accepted.2.id
  | .call (.remove homeId id) => sparesNewer vault config homeId id
  | .call (.list _) | .resume _ _ => True

instance (config : Config VaultState VaultCall) : Decidable (unused config homeId id) :=
  inferInstanceAs (Decidable (_ ∧ _))

instance (config : Config VaultState VaultCall) :
    Decidable (sparesNewer vault config homeId id) :=
  inferInstanceAs (Decidable (∀ call ∈ config.pending, _))

instance (config : Config VaultState VaultCall) : ∀ label, Decidable (idsKept vault config label) := by
  intro label
  unfold idsKept
  split <;> infer_instance

theorem key_eq_iff (left : slashless homeId) (right : slashless query) :
    key homeId id = key query queryId ↔ homeId = query ∧ id = queryId := by
  constructor
  · intro equal
    have characters := congrArg String.toList equal
    simp only [key, String.toList_append, append_assoc] at characters
    rcases append_separator_injective left right characters with ⟨homes, ids⟩
    exact ⟨String.toList_inj.mp homes, String.toList_inj.mp ids⟩
  · rintro ⟨rfl, rfl⟩
    rfl

theorem get_put (own : slashless homeId) (other : slashless query) (ciphertext : List UInt8) :
    (state.put homeId id ciphertext).get query queryId =
      if query = homeId ∧ queryId = id then some ciphertext else state.get query queryId := by
  rw [VaultState.get, VaultState.put, OrderedMap.get_set]
  simp only [key_eq_iff other own]
  rfl

theorem get_delete (own : slashless homeId) (other : slashless query) :
    (state.delete homeId id).get query queryId =
      if query = homeId ∧ queryId = id then none else state.get query queryId := by
  rw [VaultState.get, VaultState.delete, OrderedMap.get_delete]
  simp only [key_eq_iff other own]
  rfl

theorem eraseP_eq_filter {list : List BackupRecord} (distinct : (list.map BackupRecord.id).Nodup) :
    (list.eraseP fun record => decide (record.id = id)) =
      list.filter fun record => decide (record.id ≠ id) := by
  induction list with
  | nil => rfl
  | cons record rest ih =>
    rw [map_cons, nodup_cons] at distinct
    by_cases own : record.id = id
    · rw [eraseP_cons_of_pos (by simpa using own), filter_cons_of_neg (by simpa using own)]
      refine (filter_eq_self.mpr ?_).symm
      intro other member
      simp only [decide_eq_true_eq]
      intro same
      exact distinct.1 (own ▸ same ▸ mem_map_of_mem member)
    · rw [eraseP_cons_of_neg (by simpa using own), filter_cons_of_pos
      (by simpa using own), ih distinct.2]

theorem listed_splice (distinct : (state.ids homeId).Nodup) (query : String) :
    (state.splice homeId id).listed query =
      if query = homeId then (state.listed homeId).filter fun record => decide (record.id ≠ id)
      else state.listed query := by
  rw [VaultState.splice, VaultState.listed_setListed, eraseP_eq_filter distinct]

theorem mem_listed_splice (distinct : (state.ids homeId).Nodup) {record : BackupRecord} :
    record ∈ (state.splice homeId id).listed query ↔
      record ∈ state.listed query ∧ ¬(query = homeId ∧ record.id = id) := by
  rw [listed_splice distinct]
  split
  · rename_i same
    subst same
    simp
  · rename_i differs
    simp [differs]

end SupremeOs.Backups
