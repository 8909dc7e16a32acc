import SupremeOs.Audit.HistoryBinding

/-!
# Serialized appends

The appends of a home take turns, so at most one of them has read the log and
not yet been settled.  Nothing is inserted for the home in the meantime, and
the row that it inserts follows the one that it has read.  Whether a query
fails makes no difference for the appends after it.
-/

namespace SupremeOs.Audit

open Support DomainModel Crypto

def homeRows (homeId : HomeId) (auditLog : List StoredRow) : List StoredRow :=
  auditLog.filter fun row => row.homeId = homeId

def StoredRow.hashed (row : StoredRow) : AuditRow JsonNumber := row.read fun metadata => metadata

/-- The rows are linked and numbered from one on. -/
structure LogSound (sha256Hex : String → String) (rows : List StoredRow) : Prop where
  links : (auditChain sha256Hex).Links GENESIS (rows.map StoredRow.hashed)
  seqs : (rows.map fun row => row.seq.value) = List.range' 1 rows.length

section Log

variable {sha256Hex : String → String} {rows : List StoredRow}

theorem lastHash_hashed (rows : List StoredRow) :
    (auditChain sha256Hex).lastHash GENESIS (rows.map StoredRow.hashed) =
      (rows.getLast?.map fun row => row.entryHash).getD GENESIS := by
  rw [HashChain.lastHash, List.getLast?_map, Option.map_map]
  rfl

theorem LogSound.seq_last (sound : LogSound sha256Hex rows) :
    (rows.getLast?.map fun row => row.seq.value).getD 0 = rows.length := by
  rw [← List.getLast?_map, sound.seqs, List.getLast?_range']
  split
  · rename_i none
    simp [none]
  · simp

theorem LogSound.concat (sound : LogSound sha256Hex rows) (input : RecordAuditInput)
    (id createdAt : String)
    (new : (newRow sha256Hex input rows.getLast? id createdAt).seq.value = rows.length + 1) :
    LogSound sha256Hex (rows ++ [newRow sha256Hex input rows.getLast? id createdAt]) := by
  constructor
  · rw [List.map_append, List.map_singleton, HashChain.links_concat, lastHash_hashed]
    exact ⟨sound.links, rfl, rfl⟩
  · rw [List.map_append, sound.seqs, List.map_singleton, new, List.length_append,
      List.length_singleton, List.range'_concat]
    simp [Nat.add_comm]

theorem LogSound.rowsOf_eq {homeId : HomeId} {auditLog : List StoredRow}
    (sound : LogSound sha256Hex (homeRows homeId auditLog)) :
    rowsOf homeId auditLog = homeRows homeId auditLog := by
  have sorted : ((homeRows homeId auditLog).map fun row => row.seq.value).Pairwise (· ≤ ·) := by
    rw [sound.seqs]
    exact List.pairwise_le_range'
  rw [List.pairwise_map] at sorted
  exact List.Pairwise.insertionSort_eq sorted

end Log

def Phase.isWaiting : Phase → Bool
  | .waiting => true
  | _ => false

structure CallsSerial (state : AuditState) : Prop where
  prior : ∀ (number : Nat) (call : Call) (before : Nat), state.calls[number]? = some call →
    call.prior = some before →
    before < number ∧ ∃ earlier : Call, state.calls[before]? = some earlier ∧
      earlier.input.homeId = call.input.homeId
  /-- A call is chained to the last one of its home before it. -/
  chained : ∀ (first second : Nat) (earlier later : Call), first < second →
    state.calls[first]? = some earlier → state.calls[second]? = some later →
    earlier.input.homeId = later.input.homeId → ∃ before, later.prior = some before ∧ first ≤ before
  last : ∀ homeId number, state.chains.get homeId = some number →
    ∃ call : Call, state.calls[number]? = some call ∧ call.input.homeId = homeId
  latest : ∀ (number : Nat) (call : Call), state.calls[number]? = some call →
    ∃ newest, state.chains.get call.input.homeId = some newest ∧ number ≤ newest
  /-- When a call has started, those of its home before it have been settled. -/
  turns : ∀ (first second : Nat) (earlier later : Call), first < second →
    state.calls[first]? = some earlier → state.calls[second]? = some later →
    earlier.input.homeId = later.input.homeId → later.phase.isWaiting = false →
    earlier.phase.isSettled = true

section Turns

variable {state : AuditState} {number : Nat} {call : Call}

theorem CallsSerial.ready (serial : CallsSerial state)
    (found : state.calls[number]? = some call) (prior : priorSettled state call = true)
    {first : Nat} {earlier : Call} (less : first < number)
    (foundEarlier : state.calls[first]? = some earlier)
    (same : earlier.input.homeId = call.input.homeId) : earlier.phase.isSettled = true := by
  rcases serial.chained first number earlier call less foundEarlier found same
    with ⟨before, chained, notAfter⟩
  rcases serial.prior number call before found chained with ⟨_, between, atBefore, sameHome⟩
  simp only [priorSettled, chained, atBefore, Option.any_some] at prior
  rcases Nat.eq_or_lt_of_le notAfter with rfl | less
  · rw [atBefore, Option.some.injEq] at foundEarlier
    exact foundEarlier ▸ prior
  · refine serial.turns first before earlier between less foundEarlier atBefore
      (same.trans sameHome.symm) ?_
    cases phase : between.phase <;> simp_all [Phase.isSettled, Phase.isWaiting]

theorem CallsSerial.setPhase (serial : CallsSerial state)
    (found : state.calls[number]? = some call) (unsettled : call.phase.isSettled = false)
    (ready : ∀ (first : Nat) (earlier : Call), first < number →
      state.calls[first]? = some earlier → earlier.input.homeId = call.input.homeId →
      earlier.phase.isSettled = true) (phase : Phase) :
    CallsSerial (state.setPhase number phase) := by
  have before : ∀ (other : Nat) (after : Call),
      (state.setPhase number phase).calls[other]? = some after →
      ∃ held : Call, state.calls[other]? = some held ∧ after.input = held.input ∧
        after.prior = held.prior ∧ (other ≠ number → after.phase = held.phase) := by
    intro other after atOther
    simp only [AuditState.setPhase, Cells.getElem?_modify] at atOther
    split at atOther
    · rename_i same
      rcases Option.map_eq_some_iff.mp atOther with ⟨held, atHeld, rfl⟩
      exact ⟨held, atHeld, rfl, rfl, fun differs => (differs same.symm).elim⟩
    · exact ⟨after, atOther, rfl, rfl, fun _ => rfl⟩
  have after : ∀ (other : Nat) (held : Call), state.calls[other]? = some held →
      ∃ later : Call, (state.setPhase number phase).calls[other]? = some later ∧
        later.input = held.input := by
    intro other held atOther
    simp only [AuditState.setPhase, Cells.getElem?_modify, atOther]
    split
    · exact ⟨_, rfl, rfl⟩
    · exact ⟨held, rfl, rfl⟩
  constructor
  · intro other later prior atOther chained
    rcases before other later atOther with ⟨held, atHeld, input, priors, _⟩
    rcases serial.prior other held prior atHeld (priors ▸ chained)
      with ⟨less, earlier, atPrior, same⟩
    rcases after prior earlier atPrior with ⟨kept, atKept, keptInput⟩
    exact ⟨less, kept, atKept, by rw [keptInput, input, same]⟩
  · intro first second earlier later less atFirst atSecond same
    rcases before first earlier atFirst with ⟨held, atHeld, input, _, _⟩
    rcases before second later atSecond with ⟨other, atOther, otherInput, priors, _⟩
    rw [priors]
    exact serial.chained first second held other less atHeld atOther
      (by rw [← input, ← otherInput, same])
  · intro homeId newest entry
    rcases serial.last homeId newest entry with ⟨held, atHeld, home⟩
    rcases after newest held atHeld with ⟨kept, atKept, input⟩
    exact ⟨kept, atKept, by rw [input, home]⟩
  · intro other later atOther
    rcases before other later atOther with ⟨held, atHeld, input, _, _⟩
    rw [input]
    exact serial.latest other held atHeld
  · intro first second earlier later less atFirst atSecond same started
    rcases before first earlier atFirst with ⟨held, atHeld, input, _, phases⟩
    rcases before second later atSecond with ⟨other, atOther, otherInput, _, otherPhases⟩
    have homes : held.input.homeId = other.input.homeId := by rw [← input, ← otherInput, same]
    have settledBefore : held.phase.isSettled = true := by
      by_cases changed : second = number
      · subst changed
        rw [found, Option.some.injEq] at atOther
        exact ready first held less atHeld (by rw [atOther, homes])
      · rw [otherPhases changed] at started
        exact serial.turns first second held other less atHeld atOther homes started
    have other : first ≠ number := by
      rintro rfl
      rw [found, Option.some.injEq] at atHeld
      rw [atHeld, settledBefore] at unsettled
      cases unsettled
    rw [phases other]
    exact settledBefore

theorem CallsSerial.record (serial : CallsSerial state) (input : RecordAuditInput) :
    CallsSerial (record input state) := by
  have old : ∀ (number : Nat) (call : Call), state.calls[number]? = some call →
      (Audit.record input state).calls[number]? = some call := by
    intro number call found
    simp only [Audit.record, Cells.getElem?_concat]
    rw [if_neg (Nat.ne_of_lt (Cells.lt_of_getElem? found))]
    exact found
  have cases_new : ∀ (number : Nat) (call : Call),
      (Audit.record input state).calls[number]? = some call →
      state.calls[number]? = some call ∨ number = state.calls.length ∧
        call = ⟨input, state.chains.get input.homeId, .waiting⟩ := by
    intro number call found
    simp only [Audit.record, Cells.getElem?_concat] at found
    split at found
    · rename_i last
      exact .inr ⟨last, (Option.some.inj found).symm⟩
    · exact .inl found
  have chains : ∀ homeId, (Audit.record input state).chains.get homeId =
      if homeId = input.homeId then some state.calls.length else state.chains.get homeId :=
    fun homeId => OrderedMap.get_set _ _ homeId _
  constructor
  · intro number call before found prior
    rcases cases_new number call found with held | ⟨rfl, rfl⟩
    · rcases serial.prior number call before held prior with ⟨less, earlier, atBefore, same⟩
      exact ⟨less, earlier, old before earlier atBefore, same⟩
    · rcases serial.last input.homeId before prior with ⟨earlier, atBefore, same⟩
      exact ⟨Cells.lt_of_getElem? atBefore, earlier, old before earlier atBefore, same⟩
  · intro first second earlier later less atFirst atSecond same
    rcases cases_new second later atSecond with held | ⟨rfl, rfl⟩
    · have below := Cells.lt_of_getElem? held
      rcases cases_new first earlier atFirst with heldFirst | ⟨rfl, _⟩
      · exact serial.chained first second earlier later less heldFirst held same
      · omega
    · rcases cases_new first earlier atFirst with heldFirst | ⟨rfl, _⟩
      · rcases serial.latest first earlier heldFirst with ⟨newest, entry, notAfter⟩
        exact ⟨newest, by rw [← same]; exact entry, notAfter⟩
      · omega
  · intro homeId number entry
    rw [chains] at entry
    split at entry
    · rename_i same
      rw [Option.some.injEq] at entry
      subst entry
      refine ⟨⟨input, state.chains.get input.homeId, .waiting⟩, ?_, same.symm⟩
      simp [Audit.record]
    · rcases serial.last homeId number entry with ⟨call, found, same⟩
      exact ⟨call, old number call found, same⟩
  · intro number call found
    rw [chains]
    rcases cases_new number call found with held | ⟨rfl, rfl⟩
    · split
      · exact ⟨_, rfl, Nat.le_of_lt (Cells.lt_of_getElem? held)⟩
      · exact serial.latest number call held
    · exact ⟨_, if_pos rfl, Nat.le_refl _⟩
  · intro first second earlier later less atFirst atSecond same started
    rcases cases_new second later atSecond with held | ⟨rfl, rfl⟩
    · have below := Cells.lt_of_getElem? held
      rcases cases_new first earlier atFirst with heldFirst | ⟨rfl, _⟩
      · exact serial.turns first second earlier later less heldFirst held same started
      · omega
    · cases started

end Turns

/-- What a call has read of the rows of its home is still so. -/
def Phase.Reads (sha256Hex : String → String) (rows : List StoredRow)
    (input : RecordAuditInput) : Phase → Prop
  | .answered last => last = rows.getLast?
  | .inserting row => ∃ id createdAt, row = newRow sha256Hex input rows.getLast? id createdAt
  | _ => True

structure AuditSound (sha256Hex : String → String) (state : AuditState) : Prop where
  calls : CallsSerial state
  log : ∀ homeId, LogSound sha256Hex (homeRows homeId state.auditLog)
  reads : ∀ (number : Nat) (call : Call), state.calls[number]? = some call →
    call.phase.Reads sha256Hex (homeRows call.input.homeId state.auditLog) call.input

section Steps

variable {sha256Hex : String → String} {state next : AuditState}
variable {number : Nat} {call : Call}

theorem CallsSerial.ready_of_started (serial : CallsSerial state)
    (found : state.calls[number]? = some call) (started : call.phase.isWaiting = false) :
    ∀ (first : Nat) (earlier : Call), first < number → state.calls[first]? = some earlier →
      earlier.input.homeId = call.input.homeId → earlier.phase.isSettled = true :=
  fun first earlier less atFirst same =>
    serial.turns first number earlier call less atFirst found same started

theorem AuditSound.setPhase (sound : AuditSound sha256Hex state)
    (found : state.calls[number]? = some call) (unsettled : call.phase.isSettled = false)
    (ready : ∀ (first : Nat) (earlier : Call), first < number →
      state.calls[first]? = some earlier → earlier.input.homeId = call.input.homeId →
      earlier.phase.isSettled = true) {phase : Phase}
    (reads : phase.Reads sha256Hex (homeRows call.input.homeId state.auditLog) call.input) :
    AuditSound sha256Hex (state.setPhase number phase) := by
  refine ⟨sound.calls.setPhase found unsettled ready phase, sound.log, ?_⟩
  intro other after atOther
  simp only [AuditState.setPhase, Cells.getElem?_modify] at atOther
  split at atOther
  · rename_i same
    subst same
    rw [found] at atOther
    simp only [Option.map_some, Option.some.injEq] at atOther
    subst atOther
    exact reads
  · exact sound.reads other after atOther

theorem CallsSerial.alone (serial : CallsSerial state)
    (found : state.calls[number]? = some call) (started : call.phase.isWaiting = false)
    (unsettled : call.phase.isSettled = false) {other : Nat} {held : Call}
    (atOther : state.calls[other]? = some held)
    (same : held.input.homeId = call.input.homeId) (differs : other ≠ number) :
    held.phase.isWaiting = true ∨ held.phase.isSettled = true := by
  rcases Nat.lt_or_gt_of_ne differs with less | greater
  · exact .inr (serial.turns other number held call less atOther found same started)
  · left
    by_contra active
    rw [Bool.not_eq_true] at active
    have settled := serial.turns number other call held greater found atOther same.symm active
    rw [settled] at unsettled
    cases unsettled

theorem LogSound.seq_newRow {homeId : HomeId} {auditLog : List StoredRow}
    (sound : LogSound sha256Hex (homeRows homeId auditLog)) {input : RecordAuditInput}
    (home : input.homeId = homeId) {id createdAt : String}
    (new : isDuplicate (newRow sha256Hex input (homeRows homeId auditLog).getLast? id createdAt)
      auditLog = false) :
    (newRow sha256Hex input (homeRows homeId auditLog).getLast? id createdAt).seq.value =
      (homeRows homeId auditLog).length + 1 := by
  have last := sound.seq_last
  simp only [newRow, nextSeq]
  split
  · rw [← last]
  · rename_i large
    cases found : (homeRows homeId auditLog).getLast? with
    | none => simp [found] at large
    | some row =>
      have full : row.seq.value = 2 ^ 53 := by
        have safe := row.seq.safe
        simp only [found, Option.map_some, Option.getD_some, Nat.not_lt] at large
        omega
      have member := List.mem_filter.mp (List.mem_of_getLast? found)
      have same : row.seq = nextSeq (some row) := by
        rcases row with ⟨_, _, ⟨value, safe⟩⟩
        simp only at full
        simp [nextSeq, full]
      have duplicate : isDuplicate
          (newRow sha256Hex input (homeRows homeId auditLog).getLast? id createdAt)
          auditLog = true := by
        rw [isDuplicate, List.any_eq_true]
        refine ⟨row, member.1, ?_⟩
        have homes : row.homeId = homeId := by simpa using member.2
        simp [newRow, found, home, homes, ← same]
      rw [new] at duplicate
      cases duplicate

theorem AuditSound.insert (sound : AuditSound sha256Hex state)
    (found : state.calls[number]? = some call) {row : StoredRow}
    (inserting : call.phase = .inserting row) (new : isDuplicate row state.auditLog = false)
    (result : Except String StoredRow) :
    AuditSound sha256Hex
      { state.setPhase number (.settled result) with auditLog := state.auditLog ++ [row] } := by
  have started : call.phase.isWaiting = false := by rw [inserting]; rfl
  have unsettled : call.phase.isSettled = false := by rw [inserting]; rfl
  have reads := sound.reads number call found
  rw [inserting] at reads
  rcases reads with ⟨id, createdAt, rfl⟩
  have home : (newRow sha256Hex call.input
      (homeRows call.input.homeId state.auditLog).getLast? id createdAt).homeId =
        call.input.homeId := rfl
  have settled : AuditSound sha256Hex (state.setPhase number (.settled result)) :=
    sound.setPhase found unsettled (sound.calls.ready_of_started found started) trivial
  generalize shape : newRow sha256Hex call.input
    (homeRows call.input.homeId state.auditLog).getLast? id createdAt = row at *
  have others : ∀ homeId, homeId ≠ call.input.homeId →
      homeRows homeId (state.auditLog ++ [row]) = homeRows homeId state.auditLog := by
    intro homeId differs
    simp [homeRows, home, Ne.symm differs]
  have calls := settled.calls
  refine ⟨⟨calls.prior, calls.chained, calls.last, calls.latest, calls.turns⟩, ?_, ?_⟩
  · intro homeId
    by_cases same : homeId = call.input.homeId
    · subst same
      have rows : homeRows call.input.homeId (state.auditLog ++ [row]) =
          homeRows call.input.homeId state.auditLog ++ [row] := by
        simp [homeRows, home]
      rw [rows, ← shape]
      exact (sound.log _).concat call.input id createdAt
        ((sound.log _).seq_newRow rfl (by rw [shape]; exact new))
    · rw [others homeId same]
      exact sound.log homeId
  · intro other after atOther
    have before := settled.reads other after atOther
    by_cases same : after.input.homeId = call.input.homeId
    · simp only [AuditState.setPhase, Cells.getElem?_modify] at atOther
      split at atOther
      · rcases Option.map_eq_some_iff.mp atOther with ⟨held, _, rfl⟩
        exact trivial
      · rename_i differs
        rcases sound.calls.alone found started unsettled atOther same (Ne.symm differs)
          with waiting | done
        · cases phase : after.phase <;> simp_all [Phase.Reads, Phase.isWaiting]
        · cases phase : after.phase <;> simp_all [Phase.Reads, Phase.isSettled]
    · rw [others _ same]
      exact before

theorem auditSound_step {label : Label} (sound : AuditSound sha256Hex state)
    (taken : step sha256Hex state label = some next) : AuditSound sha256Hex next := by
  cases label with
  | record input =>
    cases taken
    refine ⟨sound.calls.record input, sound.log, ?_⟩
    intro number call found
    simp only [record, Cells.getElem?_concat] at found
    split at found
    · cases found
      exact trivial
    · exact sound.reads number call found
  | start number =>
    rcases Option.bind_eq_some_iff.mp taken with ⟨call, found, taken⟩
    unfold start at taken
    split at taken
    · rename_i waiting
      split at taken
      · rename_i prior
        cases taken
        exact sound.setPhase found (by rw [waiting]; rfl)
          (fun first earlier less => sound.calls.ready found prior less) trivial
      · cases taken
    · cases taken
  | answerSelect number failed =>
    rcases Option.bind_eq_some_iff.mp taken with ⟨call, found, taken⟩
    unfold answerSelect at taken
    split at taken
    · rename_i selecting
      cases taken
      apply sound.setPhase found (by rw [selecting]; rfl)
        (sound.calls.ready_of_started found (by rw [selecting]; rfl))
      cases failed with
      | true => exact trivial
      | false =>
        change lastRow call.input.homeId state.auditLog = _
        rw [lastRow, (sound.log _).rowsOf_eq]
    · cases taken
  | sendInsert number id createdAt =>
    rcases Option.bind_eq_some_iff.mp taken with ⟨call, found, taken⟩
    unfold sendInsert at taken
    split at taken
    · rename_i last answered
      cases taken
      have reads := sound.reads number call found
      rw [answered] at reads
      refine sound.setPhase found (by rw [answered]; rfl)
        (sound.calls.ready_of_started found (by rw [answered]; rfl)) ⟨id, createdAt, ?_⟩
      rw [show last = _ from reads]
    · cases taken
  | answerInsert number outcome =>
    rcases Option.bind_eq_some_iff.mp taken with ⟨call, found, taken⟩
    unfold answerInsert at taken
    split at taken
    · rename_i row inserting
      have settle : ∀ result,
          AuditSound sha256Hex (state.setPhase number (.settled result)) := fun result =>
        sound.setPhase found (by rw [inserting]; rfl)
          (sound.calls.ready_of_started found (by rw [inserting]; rfl)) trivial
      split at taken
      · cases taken
        exact settle _
      · rename_i new
        rw [Bool.not_eq_true] at new
        cases outcome <;> cases taken
        · exact sound.insert found inserting new _
        · exact sound.insert found inserting new _
        · exact settle _
    · cases taken

theorem auditSound_initial : AuditSound sha256Hex initial := by
  refine ⟨⟨?_, ?_, ?_, ?_, ?_⟩, fun homeId => ⟨trivial, rfl⟩, ?_⟩ <;>
    simp [initial]

end Steps

section Reading

variable {sha256Hex : String → String} {returned : JsonValue → JsonValue}

theorem textOrNull_same (value : Option String) : (textOrNull value).Same (textOrNull value) := by
  cases value <;> exact rfl

theorem textOrNull_uniqueKeys (value : Option String) : (textOrNull value).UniqueKeys := by
  cases value <;> exact trivial

theorem body_uniqueKeys (row : AuditRow JsonNumber) : (body row).UniqueKeys :=
  ⟨by simp, trivial, trivial, textOrNull_uniqueKeys _, trivial, trivial,
    textOrNull_uniqueKeys _, row.metadata.uniqueKeys, textOrNull_uniqueKeys _, trivial, trivial⟩

theorem hashedText_read
    (unchanged : ∀ metadata : JsonValue, metadata.json.Same (returned metadata).json)
    (prevHash : String) (row : StoredRow) :
    hashedText prevHash (row.read returned) = hashedText prevHash row.hashed := by
  have same : (body row.hashed).Same (body (row.read returned)) := by
    refine ⟨_, rfl, rfl, ⟨_, .head _, rfl⟩, ⟨_, .tail _ (.head _), rfl⟩,
      ⟨_, .tail _ (.tail _ (.head _)), textOrNull_same _⟩,
      ⟨_, .tail _ (.tail _ (.tail _ (.head _))), rfl⟩,
      ⟨_, .tail _ (.tail _ (.tail _ (.tail _ (.head _)))), rfl⟩,
      ⟨_, .tail _ (.tail _ (.tail _ (.tail _ (.tail _ (.head _))))), textOrNull_same _⟩,
      ⟨_, .tail _ (.tail _ (.tail _ (.tail _ (.tail _ (.tail _ (.head _)))))), unchanged _⟩,
      ⟨_, .tail _ (.tail _ (.tail _ (.tail _ (.tail _ (.tail _ (.tail _ (.head _))))))),
        textOrNull_same _⟩,
      ⟨_, .tail _ (.tail _ (.tail _ (.tail _ (.tail _ (.tail _ (.tail _ (.tail _
        (.head _)))))))), rfl⟩, trivial⟩
  rw [hashedText, hashedText, canonicalJson_eq_of_same (body_uniqueKeys _) (body_uniqueKeys _) same]

theorem links_read (unchanged : ∀ metadata : JsonValue, metadata.json.Same (returned metadata).json)
    {prevHash : String} {rows : List StoredRow} :
    (auditChain sha256Hex).Links prevHash (rows.map (StoredRow.read returned)) ↔
      (auditChain sha256Hex).Links prevHash (rows.map StoredRow.hashed) := by
  induction rows generalizing prevHash with
  | nil => exact Iff.rfl
  | cons row rest ih =>
    have text : (auditChain sha256Hex).text prevHash (row.read returned) =
        (auditChain sha256Hex).text prevHash row.hashed :=
      hashedText_read unchanged prevHash row
    simp only [List.map_cons, HashChain.Links, text]
    exact and_congr Iff.rfl (and_congr Iff.rfl ih)

end Reading

def levelThenRoom : JsonValue :=
  ⟨.object [("level", .number (.ofNat 60)), ("room", .text "hall")],
    by decide, trivial, trivial, trivial⟩

def roomThenLevel : JsonValue :=
  ⟨.object [("room", .text "hall"), ("level", .number (.ofNat 60))],
    by decide, trivial, trivial, trivial⟩

/-- The text that is hashed for the first entry of a home. -/
def sampleText : String :=
  GENESIS ++ "\x7b\"action\":\"control\",\"actorUserId\":null," ++
    "\"createdAt\":\"2026-01-01T00:00:00.000Z\",\"homeId\":\"home\",\"ip\":null," ++
    "\"metadata\":\x7b\"level\":60,\"room\":\"hall\"\x7d," ++
    "\"resourceId\":\"dev\",\"resourceType\":\"device\",\"seq\":1\x7d"

def sampleDigest (text : String) : String :=
  if text = sampleText then "ff0615df2172d516bf7c96d4c412e400be493c42f8deef868d66d0312cc145d6"
  else String.ofList (List.replicate 64 'f')

def sampleRow (metadata : JsonValue) : AuditRow JsonNumber where
  id := "audit_1"
  homeId := "home"
  seq := .ofNat 1
  actorUserId := none
  action := "control"
  resourceType := "device"
  resourceId := some "dev"
  metadata := metadata
  ip := none
  createdAt := "2026-01-01T00:00:00.000Z"
  prevHash := GENESIS
  entryHash := sampleDigest sampleText

end SupremeOs.Audit
