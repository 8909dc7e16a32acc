import SupremeOs.Support.Interleaving
import SupremeOs.Support.OrderedMap
import SupremeOs.Support.Recency
import Mathlib.Data.Nat.Digits.Defs

/-!
# The backup vault

The vault lists the backups of each home and holds their ciphertexts in a blob
store, under a key made of the home and the id of a backup.  An upload writes the
blob, lists the record and prunes the list; the blob store is awaited in between,
so other calls run meanwhile.

A call of the blob store takes effect at once, at some time before it returns.
The digest, the collation of texts and the text of a time are parameters.
-/

namespace SupremeOs.Backups

open Support

structure BackupRecord where
  id : String
  homeId : String
  createdAt : String
  schemaVersion : String
  /-- Size of the stored ciphertext in bytes. -/
  sizeBytes : Nat
  /-- SHA-256 of the ciphertext, in hex. -/
  sha256 : String
deriving DecidableEq

structure BackupVaultError where
  message : String
  statusCode : Nat

/-- What `localeCompare` does: some order of all texts, which need not tell two texts apart. -/
structure Collation where
  localeCompare : String → String → Int
  total : ∀ left right, localeCompare left right ≤ 0 ∨ localeCompare right left ≤ 0
  trans : ∀ left middle right, localeCompare left middle ≤ 0 → localeCompare middle right ≤ 0 →
    localeCompare left right ≤ 0

/-- What never changes after the construction, and the library that is used. -/
structure BackupVaultService where
  /-- At most this many backups are kept per home. -/
  retention : Nat
  sha256 : List UInt8 → String
  collation : Collation
  toISOString : Nat → String

structure VaultState where
  /-- The records of each home, newest last. -/
  records : OrderedMap String (List BackupRecord)
  blobs : OrderedMap String (List UInt8)
  counter : Nat

/-- `InMemoryBackupBlobStore.key`. -/
def key (homeId id : String) : String := homeId ++ "/" ++ id

namespace VaultState

variable (state : VaultState)

def put (homeId id : String) (ciphertext : List UInt8) : VaultState :=
  { state with blobs := state.blobs.set (key homeId id) ciphertext }

def get (homeId id : String) : Option (List UInt8) := state.blobs.get (key homeId id)

def delete (homeId id : String) : VaultState :=
  { state with blobs := state.blobs.delete (key homeId id) }

def listed (homeId : String) : List BackupRecord := (state.records.get homeId).getD []

def setListed (homeId : String) (list : List BackupRecord) : VaultState :=
  { state with records := state.records.set homeId list }

/-- `list.push(record)`. -/
def push (record : BackupRecord) : VaultState :=
  state.setListed record.homeId (state.listed record.homeId ++ [record])

/-- The record is taken out of the list, the first one of its id. -/
def splice (homeId id : String) : VaultState :=
  state.setListed homeId ((state.listed homeId).eraseP fun record => decide (record.id = id))

def fetch (homeId id : String) : Except BackupVaultError (BackupRecord × List UInt8) :=
  match (state.listed homeId).find? fun record => decide (record.id = id) with
  | none => .error ⟨"backup not found", 404⟩
  | some record =>
    match state.get homeId id with
    | none => .error ⟨"backup blob missing", 404⟩
    | some ciphertext => .ok (record, ciphertext)

theorem listed_setListed (homeId : String) (list : List BackupRecord) (query : String) :
    (state.setListed homeId list).listed query =
      if query = homeId then list else state.listed query := by
  rw [listed, setListed, OrderedMap.get_set]
  split <;> rfl

end VaultState

def base36 (number : Nat) : String :=
  let digit (value : Nat) := Char.ofNat (if value < 10 then 48 + value else 87 + value)
  if number = 0 then "0" else String.ofList ((Nat.digits 36 number).reverse.map digit)

structure StoreInput where
  homeId : String
  id : Option String
  createdAt : Option String
  schemaVersion : Option String
  ciphertext : List UInt8
  expectedSha256 : Option String

inductive VaultRequest where
  /-- An upload, with what the clock says. -/
  | store (input : StoreInput) (now : Nat)
  | remove (homeId id : String)
  | list (homeId : String)

inductive VaultCall where
  | putting (record : BackupRecord) (ciphertext : List UInt8)
  /-- The blob is written and the upload has not gone on yet. -/
  | stored (record : BackupRecord)
  /-- A pruning that deletes the blob of a record, with the records that it drops after it. -/
  | deleting (homeId : String) (record : BackupRecord) (rest : List BackupRecord)
  /-- The blob is deleted and the pruning has not gone on yet. -/
  | deleted (homeId : String) (record : BackupRecord) (rest : List BackupRecord)
  | removing (homeId id : String)
deriving DecidableEq

namespace BackupVaultService

variable (vault : BackupVaultService)

/-- The order in which a pruning sorts. -/
def notNewer (left right : BackupRecord) : Prop :=
  vault.collation.localeCompare left.createdAt right.createdAt ≤ 0

instance : DecidableRel vault.notNewer :=
  fun _ _ => inferInstanceAs (Decidable (_ ≤ _))

instance : Std.Total vault.notNewer := ⟨fun _ _ => vault.collation.total _ _⟩

instance : IsTrans BackupRecord vault.notNewer := ⟨fun _ _ _ => vault.collation.trans _ _ _⟩

def receive (state : VaultState) (input : StoreInput) (now : Nat) :
    Except BackupVaultError (VaultState × BackupRecord) :=
  let sha256 := vault.sha256 input.ciphertext
  if input.expectedSha256.any fun expected => !expected.isEmpty && expected != sha256 then
    .error ⟨"ciphertext digest mismatch — upload corrupted", 400⟩
  else if input.ciphertext.length = 0 then .error ⟨"empty backup", 400⟩
  else
    let next :=
      if input.id.isSome then state else { state with counter := state.counter + 1 }
    .ok (next, {
      id := input.id.getD ("bkp_" ++ base36 now ++ base36 state.counter)
      homeId := input.homeId
      createdAt := input.createdAt.getD (vault.toISOString now)
      schemaVersion := input.schemaVersion.getD "unknown"
      sizeBytes := input.ciphertext.length
      sha256 })

def dropNext (homeId : String) : List BackupRecord → List VaultCall
  | [] => []
  | record :: rest => [.deleting homeId record rest]

/-- The records that a pruning drops. -/
def outdated (list : List BackupRecord) : List BackupRecord :=
  if list.length ≤ vault.retention then []
  else (list.insertionSort vault.notNewer).take (list.length - vault.retention)

def prune (state : VaultState) (homeId : String) : List VaultCall :=
  dropNext homeId (vault.outdated (state.listed homeId))

/-- Backups for a home, newest first. -/
def list (state : VaultState) (homeId : String) : List BackupRecord :=
  (state.listed homeId).insertionSort fun left right => vault.notNewer right left

def program : Program VaultState VaultRequest VaultCall Unit where
  start
    | state, .store input now =>
      match vault.receive state input now with
      | .error _ => (state, [])
      | .ok (next, record) => (next, [.putting record input.ciphertext])
    | state, .remove homeId id =>
      match (state.listed homeId).find? fun record => decide (record.id = id) with
      | none => (state, [])
      | some _ => (state.splice homeId id, [.removing homeId id])
    | state, .list _ => (state, [])
  resume
    | state, .putting record ciphertext, _ =>
      some (state.put record.homeId record.id ciphertext, [.stored record])
    | state, .stored record, _ =>
      some (state.push record, vault.prune (state.push record) record.homeId)
    | state, .deleting homeId record rest, _ =>
      some (state.delete homeId record.id, [.deleted homeId record rest])
    | state, .deleted homeId record rest, _ =>
      some (state.splice homeId record.id, dropNext homeId rest)
    | state, .removing homeId id, _ => some (state.delete homeId id, [])

abbrev machine := vault.program.machine

/-- Nothing is stored yet; the counter is one for all vaults. -/
def start (counter : Nat) : Config VaultState VaultCall :=
  Program.idle ⟨.empty, .empty, counter⟩

end BackupVaultService

end SupremeOs.Backups
