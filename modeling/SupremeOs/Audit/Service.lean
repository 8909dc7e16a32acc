import SupremeOs.Crypto.CanonicalJson
import SupremeOs.Support.Cells
import SupremeOs.Support.HashChain
import SupremeOs.Support.Machine

/-!
# The audit log

Every entry of a home's log has the next sequence number, the hash of the
entry before it and its own hash, which is the digest of both together with
the entry's canonical text.  Appends are chained for each home: an append
starts when the one before it has ended, in whatever way.  Its two queries may
fail; an insertion that fails may have been done all the same.
-/

namespace SupremeOs.Audit

open Support DomainModel Crypto

abbrev HomeId := String

/-- A value whose objects have members of different names. -/
structure JsonValue where
  json : Json
  uniqueKeys : json.UniqueKeys

def emptyMetadata : JsonValue := ⟨.object [], List.nodup_nil, trivial⟩

structure RecordAuditInput where
  homeId : HomeId
  actorUserId : Option String
  action : String
  resourceType : String
  resourceId : Option String
  metadata : Option JsonValue
  ip : Option String

/-- A row of the log; its sequence number is a number, or one that can be stored. -/
structure AuditRow (Seq : Type) where
  id : String
  homeId : HomeId
  seq : Seq
  actorUserId : Option String
  action : String
  resourceType : String
  resourceId : Option String
  metadata : JsonValue
  ip : Option String
  createdAt : String
  prevHash : String
  entryHash : String

/-- A sequence number: beyond `2 ^ 53` adding one changes nothing. -/
structure SafeSeq where
  value : Nat
  safe : value ≤ 2 ^ 53
deriving DecidableEq

abbrev StoredRow := AuditRow SafeSeq

def GENESIS : String := String.ofList (List.replicate 64 '0')

def textOrNull : Option String → Json
  | some value => .text value
  | none => .null

/-- The fields of a row that are hashed. -/
def body (row : AuditRow JsonNumber) : Json :=
  .object
    [("homeId", .text row.homeId), ("seq", .number row.seq),
      ("actorUserId", textOrNull row.actorUserId), ("action", .text row.action),
      ("resourceType", .text row.resourceType), ("resourceId", textOrNull row.resourceId),
      ("metadata", row.metadata.json), ("ip", textOrNull row.ip),
      ("createdAt", .text row.createdAt)]

def hashedText (prevHash : String) (row : AuditRow JsonNumber) : String :=
  prevHash ++ canonicalJson (body row)

def StoredRow.read (returned : JsonValue → JsonValue) (row : StoredRow) : AuditRow JsonNumber where
  id := row.id
  homeId := row.homeId
  seq := .ofNat row.seq.value
  actorUserId := row.actorUserId
  action := row.action
  resourceType := row.resourceType
  resourceId := row.resourceId
  metadata := returned row.metadata
  ip := row.ip
  createdAt := row.createdAt
  prevHash := row.prevHash
  entryHash := row.entryHash

section Hashing

variable (sha256Hex : String → String)

inductive VerifyResult where
  | ok
  | broken (brokenAtSeq : JsonNumber)
deriving DecidableEq

def verifyFrom : String → List (AuditRow JsonNumber) → VerifyResult
  | _, [] => .ok
  | prevHash, row :: rest =>
    if row.prevHash ≠ prevHash ∨ row.entryHash ≠ sha256Hex (hashedText prevHash row) then
      .broken row.seq
    else verifyFrom row.entryHash rest

/-- The check of the rows of a home, in the order of their sequence numbers. -/
def verify (rows : List (AuditRow JsonNumber)) : VerifyResult :=
  verifyFrom sha256Hex GENESIS rows

/-- `Number(last.seq) + 1`. -/
def nextSeq (last : Option StoredRow) : SafeSeq :=
  let seq := (last.map fun row => row.seq.value).getD 0
  if below : seq < 2 ^ 53 then ⟨seq + 1, below⟩ else ⟨2 ^ 53, Nat.le_refl _⟩

/-- The row that an append inserts after the last one that it has read. -/
def newRow (input : RecordAuditInput) (last : Option StoredRow) (id createdAt : String) :
    StoredRow :=
  let row : StoredRow :=
    { id := id, homeId := input.homeId, seq := nextSeq last, actorUserId := input.actorUserId
      action := input.action
      resourceType := input.resourceType
      resourceId := input.resourceId
      metadata := input.metadata.getD emptyMetadata
      ip := input.ip
      createdAt := createdAt
      prevHash := (last.map fun row => row.entryHash).getD GENESIS
      entryHash := "" }
  { row with
    entryHash := sha256Hex (hashedText row.prevHash (row.read fun metadata => metadata)) }

inductive Phase where
  /-- Chained to the append before it. -/
  | waiting
  /-- The last row has been asked for. -/
  | selecting
  | answered (last : Option StoredRow)
  | inserting (row : StoredRow)
  | settled (result : Except String StoredRow)

/-- A call of `record`. -/
structure Call where
  input : RecordAuditInput
  /-- The call whose promise it is chained to. -/
  prior : Option Nat
  phase : Phase

structure AuditState where
  calls : List Call
  /-- The last call of a home. -/
  chains : OrderedMap HomeId Nat
  auditLog : List StoredRow

def initial : AuditState := ⟨[], OrderedMap.empty, []⟩

def Phase.isSettled : Phase → Bool
  | .settled _ => true
  | _ => false

/-- The promise that a call is chained to has been settled; a rejection is caught. -/
def priorSettled (state : AuditState) (call : Call) : Bool :=
  match call.prior with
  | none => true
  | some number => state.calls[number]?.any fun prior => prior.phase.isSettled

def earlierSeq (left right : StoredRow) : Prop := left.seq.value ≤ right.seq.value

instance : DecidableRel earlierSeq := fun _ _ => inferInstanceAs (Decidable (_ ≤ _))

/-- The rows of a home in the order of their sequence numbers. -/
def rowsOf (homeId : HomeId) (auditLog : List StoredRow) : List StoredRow :=
  (auditLog.filter fun row => row.homeId = homeId).insertionSort earlierSeq

def lastRow (homeId : HomeId) (auditLog : List StoredRow) : Option StoredRow :=
  (rowsOf homeId auditLog).getLast?

/-- A row with this identifier, or with this number of the home, is there already. -/
def isDuplicate (row : StoredRow) (auditLog : List StoredRow) : Bool :=
  auditLog.any fun other =>
    other.id = row.id || (other.homeId = row.homeId && other.seq = row.seq)

inductive InsertOutcome where
  | inserted
  /-- It is done, but the answer is lost. -/
  | insertedUnanswered
  | failed
deriving DecidableEq

inductive Label where
  | record (input : RecordAuditInput)
  | start (call : Nat)
  | answerSelect (call : Nat) (failed : Bool)
  | sendInsert (call : Nat) (id createdAt : String)
  | answerInsert (call : Nat) (outcome : InsertOutcome)

def AuditState.setPhase (state : AuditState) (number : Nat) (phase : Phase) : AuditState :=
  { state with
    calls := state.calls.modify number fun call => { call with phase := phase } }

def record (input : RecordAuditInput) (state : AuditState) : AuditState :=
  { state with
    calls := state.calls ++ [⟨input, state.chains.get input.homeId, .waiting⟩]
    chains := state.chains.set input.homeId state.calls.length }

def start (number : Nat) (call : Call) (state : AuditState) : Option AuditState :=
  match call.phase with
  | .waiting => if priorSettled state call then some (state.setPhase number .selecting) else none
  | _ => none

def answerSelect (number : Nat) (call : Call) (failed : Bool) (state : AuditState) :
    Option AuditState :=
  match call.phase with
  | .selecting =>
    some (state.setPhase number (if failed then .settled (.error "query failed")
        else .answered (lastRow call.input.homeId state.auditLog)))
  | _ => none

def sendInsert (number : Nat) (call : Call) (id createdAt : String) (state : AuditState) :
    Option AuditState :=
  match call.phase with
  | .answered last =>
    some (state.setPhase number (.inserting (newRow sha256Hex call.input last id createdAt)))
  | _ => none

def answerInsert (number : Nat) (call : Call) (outcome : InsertOutcome) (state : AuditState) :
    Option AuditState :=
  match call.phase with
  | .inserting row =>
    if isDuplicate row state.auditLog then
      some (state.setPhase number (.settled (.error "duplicate key")))
    else
      let settled :=
        state.setPhase number
          (.settled (if outcome = .inserted then .ok row else .error "query failed"))
      some
        (if outcome = .failed then settled
          else { settled with auditLog := state.auditLog ++ [row] })
  | _ => none

def step (state : AuditState) : Label → Option AuditState
  | .record input => some (record input state)
  | .start number => state.calls[number]?.bind fun call => start number call state
  | .answerSelect number failed =>
    state.calls[number]?.bind fun call => answerSelect number call failed state
  | .sendInsert number id createdAt =>
    state.calls[number]?.bind fun call => sendInsert sha256Hex number call id createdAt state
  | .answerInsert number outcome =>
    state.calls[number]?.bind fun call => answerInsert number call outcome state

def auditMachine : Machine AuditState Label := ⟨step sha256Hex⟩

def readRows (returned : JsonValue → JsonValue) (homeId : HomeId) (state : AuditState) :
    List (AuditRow JsonNumber) :=
  (rowsOf homeId state.auditLog).map (StoredRow.read returned)

end Hashing

end SupremeOs.Audit
