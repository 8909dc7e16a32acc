import SupremeOs.MatterBridge.StateReports

/-!
# What was reported last

Which state an attribute has to show follows from what has happened: the newest
of the states that were read for exposures of the device and of those that were
reported after such a read.
-/

namespace SupremeOs.MatterBridge

open Support DomainModel List

section History

variable (completed : Nat → Bool) (deviceId : String)

/-- A state of the device was read for a turn that has ended well. -/
def readFor : Moment → Bool
  | .read turn other _ => decide (other = deviceId) && completed turn
  | .exposed _ | .reported _ _ _ => false

/-- The newest of the states that were read for exposures and of those reported after one. -/
def mostRecentOf (kind : CapabilityKind) : List Moment → Option Moment
  | [] => none
  | .exposed _ :: older => mostRecentOf kind older
  | .read turn other state :: older =>
    if other = deviceId ∧ completed turn = true ∧ state.map BridgedState.kind = some kind then
      some (.read turn other state)
    else mostRecentOf kind older
  | .reported other state handled :: older =>
    if other = deviceId ∧ state.kind = kind ∧ older.any (readFor completed deviceId) = true then
      some (.reported other state handled)
    else mostRecentOf kind older

end History

def completed (history : List Moment) (turn : Nat) : Bool :=
  decide (.exposed turn ∈ history)

def mostRecent (history : List Moment) (deviceId : String) (kind : CapabilityKind) :
    Option Moment :=
  mostRecentOf (completed history) deviceId kind history

def lastRejected (deviceId : String) (state : BridgedState) : List Moment → Bool
  | [] => false
  | .reported other written (.written rejected) :: older =>
    if other = deviceId ∧ written = state then rejected
    else lastRejected deviceId state older
  | .reported _ _ .ignored :: older | .reported _ _ .skipped :: older
  | .read _ _ _ :: older | .exposed _ :: older => lastRejected deviceId state older

def reportedSince (turn : Nat) (deviceId : String) (kind : CapabilityKind) : List Moment → Bool
  | [] => false
  | .read other _ _ :: older =>
    if other = turn then false else reportedSince turn deviceId kind older
  | .reported other state _ :: older =>
    decide (other = deviceId ∧ state.kind = kind) || reportedSince turn deviceId kind older
  | .exposed _ :: older => reportedSince turn deviceId kind older

def newestReport (deviceId : String) (kind : CapabilityKind) :
    List Moment → Option (BridgedState × Handled)
  | [] => none
  | .reported other state handled :: older =>
    if other = deviceId ∧ state.kind = kind then some (state, handled)
    else newestReport deviceId kind older
  | .read _ _ _ :: older | .exposed _ :: older => newestReport deviceId kind older

def ignoredReport : Moment → Bool
  | .reported _ _ .ignored => true
  | .reported _ _ .skipped | .reported _ _ (.written _) | .read _ _ _ | .exposed _ => false

def Moment.turn : Moment → Option Nat
  | .read turn _ _ | .exposed turn => some turn
  | .reported _ _ _ => none

section History

variable {history : List Moment} {deviceId other : String} {kind : CapabilityKind}
variable {state : BridgedState} {handled : Handled} {turn : Nat} {read : Option BridgedState}

theorem completed_reported :
    completed (.reported other state handled :: history) = completed history := by
  funext turn
  simp [completed]

theorem completed_read : completed (.read turn other read :: history) = completed history := by
  funext turn
  simp [completed]

theorem mostRecent_reported : mostRecent (.reported other state handled :: history) deviceId kind =
    if other = deviceId ∧ state.kind = kind ∧
        history.any (readFor (completed history) deviceId) = true then
      some (.reported other state handled)
    else mostRecent history deviceId kind := by
  rw [mostRecent, mostRecentOf, completed_reported]
  rfl

theorem mostRecent_read (fresh : .exposed turn ∉ history) :
    mostRecent (.read turn other read :: history) deviceId kind =
      mostRecent history deviceId kind := by
  rw [mostRecent, mostRecentOf, completed_read, if_neg]
  · rfl
  · rintro ⟨-, ended, -⟩
    exact fresh (of_decide_eq_true ended)

/-- Only what was read for the turn begins to count when it ends. -/
theorem mostRecentOf_congr {before after : Nat → Bool}
    (same : ∀ turn, (∃ read, Moment.read turn deviceId read ∈ history) → after turn = before turn) :
    mostRecentOf after deviceId kind history = mostRecentOf before deviceId kind history := by
  have older_same {moments : List Moment} (inside : ∀ moment ∈ moments, moment ∈ history) :
      moments.any (readFor after deviceId) = moments.any (readFor before deviceId) := by
    rw [Bool.eq_iff_iff, any_eq_true, any_eq_true]
    refine exists_congr fun moment => and_congr_right fun member => ?_
    cases moment with
    | read turn other read =>
      simp only [readFor, Bool.and_eq_true, decide_eq_true_eq]
      refine and_congr_right fun own => ?_
      subst own
      rw [same turn ⟨read, inside _ member⟩]
    | exposed _ | reported _ _ _ => exact Iff.rfl
  have all (moments : List Moment) (inside : ∀ moment ∈ moments, moment ∈ history) :
      mostRecentOf after deviceId kind moments = mostRecentOf before deviceId kind moments := by
    induction moments with
    | nil => rfl
    | cons moment older ih =>
      have rest := ih fun moment member => inside moment (.tail _ member)
      cases moment with
      | exposed _ => exact rest
      | read turn other read =>
        rw [mostRecentOf, mostRecentOf, rest]
        refine if_congr (and_congr_right fun own => ?_) rfl rfl
        subst own
        rw [same turn ⟨read, inside _ (.head _)⟩]
      | reported other state handled =>
        rw [mostRecentOf, mostRecentOf, rest,
          older_same fun moment member => inside moment (.tail _ member)]
  exact all history fun _ member => member

/-- What the most recent moment can be, and what did not happen after it. -/
inductive Recent (ended : Nat → Bool) (deviceId : String) (kind : CapabilityKind)
    (history : List Moment) : Moment → Prop where
  | read (turn : Nat) (state : BridgedState) (ofKind : state.kind = kind)
      (done : ended turn = true) (inside : .read turn deviceId (some state) ∈ history)
      (last : reportedSince turn deviceId kind history = false) :
      Recent ended deviceId kind history (.read turn deviceId (some state))
  | reported (state : BridgedState) (handled : Handled) (ofKind : state.kind = kind)
      (shown : history.any (readFor ended deviceId) = true)
      (last : newestReport deviceId kind history = some (state, handled)) :
      Recent ended deviceId kind history (.reported deviceId state handled)

variable {ended : Nat → Bool} {moment : Moment}

theorem recent_of_mostRecentOf (found : mostRecentOf ended deviceId kind history = some moment) :
    Recent ended deviceId kind history moment := by
  induction history with
  | nil => cases found
  | cons newest older ih =>
    cases newest with
    | exposed turn =>
      rcases ih found with ⟨turn', state, ofKind, done, inside, last⟩ |
        ⟨state, handled, ofKind, shown, last⟩
      · exact .read turn' state ofKind done (.tail _ inside) last
      · refine .reported state handled ofKind ?_ last
        rw [any_cons, shown, Bool.or_true]
    | read turn other read =>
      rw [mostRecentOf] at found
      split at found
      · rename_i counts
        rcases counts with ⟨rfl, done, ofKind⟩
        cases found
        rcases Option.map_eq_some_iff.mp ofKind with ⟨state, rfl, kinds⟩
        refine .read turn state kinds done (.head _) ?_
        rw [reportedSince, if_pos rfl]
      · rcases ih found with ⟨turn', state, ofKind, done, inside, last⟩ |
          ⟨state, handled, ofKind, shown, last⟩
        · refine .read turn' state ofKind done (.tail _ inside) ?_
          rw [reportedSince]
          split
          · rfl
          · exact last
        · refine .reported state handled ofKind ?_ last
          rw [any_cons, shown, Bool.or_true]
    | reported other state handled =>
      rw [mostRecentOf] at found
      split at found
      · rename_i counts
        rcases counts with ⟨rfl, ofKind, shown⟩
        cases found
        refine .reported state handled ofKind ?_ ?_
        · rw [any_cons, shown, Bool.or_true]
        · rw [newestReport, if_pos ⟨rfl, ofKind⟩]
      · rename_i passed
        rcases ih found with ⟨turn, read, ofKind, done, inside, last⟩ |
          ⟨read, became, ofKind, shown, last⟩
        · have elsewhere : ¬(other = deviceId ∧ state.kind = kind) := by
            rintro ⟨own, same⟩
            refine passed ⟨own, same, any_eq_true.mpr ⟨_, inside, ?_⟩⟩
            rw [readFor, decide_eq_true rfl, done]
            rfl
          refine .read turn read ofKind done (.tail _ inside) ?_
          rw [reportedSince, decide_eq_false elsewhere, last]
          rfl
        · have elsewhere : ¬(other = deviceId ∧ state.kind = kind) :=
            fun own => passed ⟨own.1, own.2, shown⟩
          refine .reported read became ofKind ?_ ?_
          · rw [any_cons, shown, Bool.or_true]
          · rw [newestReport, if_neg elsewhere]
            exact last

theorem mostRecentOf_before {before after : Nat → Bool} {ending : Nat}
    {state : Option BridgedState} (grows : ∀ turn, before turn = true → after turn = true)
    (same : ∀ turn, turn ≠ ending → after turn = before turn)
    (found : mostRecentOf after deviceId kind history = some (.read turn deviceId state))
    (different : turn ≠ ending) :
    mostRecentOf before deviceId kind history = some (.read turn deviceId state) := by
  induction history with
  | nil => cases found
  | cons newest older ih =>
    cases newest with
    | exposed _ => exact ih found
    | read other owner read =>
      rw [mostRecentOf] at found ⊢
      split at found
      · rename_i counts
        rcases counts with ⟨own, done, ofKind⟩
        have turns : other = turn := by
          injection Option.some.inj found
        rw [if_pos ⟨own, (same other (turns ▸ different)) ▸ done, ofKind⟩]
        exact found
      · rename_i passed
        rw [if_neg fun counts => passed ⟨counts.1, grows _ counts.2.1, counts.2.2⟩]
        exact ih found
    | reported owner reported handled =>
      rw [mostRecentOf] at found ⊢
      split at found
      · cases found
      · rename_i passed
        rw [if_neg]
        · exact ih found
        · rintro ⟨own, ofKind, shown⟩
          refine passed ⟨own, ofKind, ?_⟩
          rcases any_eq_true.mp shown with ⟨earlier, member, counts⟩
          refine any_eq_true.mpr ⟨earlier, member, ?_⟩
          cases earlier with
          | read number device _ =>
            rw [readFor, Bool.and_eq_true] at counts ⊢
            exact ⟨counts.1, grows _ counts.2⟩
          | exposed _ | reported _ _ _ => exact counts

theorem completed_exposed (other : Nat) : completed (.exposed turn :: history) other =
    (decide (other = turn) || completed history other) := by
  simp [completed, Bool.decide_or]

theorem mostRecent_exposed_elsewhere (elsewhere : ∀ read, .read turn deviceId read ∉ history) :
    mostRecent (.exposed turn :: history) deviceId kind = mostRecent history deviceId kind := by
  show mostRecentOf (completed (.exposed turn :: history)) deviceId kind history =
    mostRecentOf (completed history) deviceId kind history
  refine mostRecentOf_congr fun other inside => ?_
  rw [completed_exposed, decide_eq_false, Bool.false_or]
  rintro rfl
  rcases inside with ⟨read, member⟩
  exact elsewhere read member

theorem mostRecent_exposed_before {ending : Nat}
    (found : mostRecent (.exposed ending :: history) deviceId kind =
      some (.read turn deviceId read)) (different : turn ≠ ending) :
    mostRecent history deviceId kind = some (.read turn deviceId read) := by
  refine mostRecentOf_before (fun other done => ?_) (fun other differs => ?_) found different
  · rw [completed_exposed, done, Bool.or_true]
  · rw [completed_exposed, decide_eq_false differs, Bool.false_or]

theorem read_of_mostRecent_reported
    (found : mostRecent (.reported other state handled :: history) deviceId kind =
      some (.read turn deviceId read)) :
    mostRecent history deviceId kind = some (.read turn deviceId read) ∧
      ¬(other = deviceId ∧ state.kind = kind) := by
  rw [mostRecent_reported] at found
  split at found
  · cases found
  · rename_i passed
    refine ⟨found, fun own => passed ⟨own.1, own.2, ?_⟩⟩
    cases recent_of_mostRecentOf found with
    | read _ _ _ done inside _ =>
      refine any_eq_true.mpr ⟨_, inside, ?_⟩
      rw [readFor, decide_eq_true rfl, done]
      rfl

end History

end SupremeOs.MatterBridge
