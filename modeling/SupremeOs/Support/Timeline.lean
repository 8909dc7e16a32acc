import Mathlib.Data.List.Sort
import Mathlib.Data.Rat.Floor

/-!
# Daily entries on a timeline

Every day lists entries, each at a minute of the day, in no particular order.  In
their order on the timeline, entries of one minute stand as they are listed.  At
any moment there is one entry that came last and one that comes next.
-/

namespace SupremeOs.Support.Timeline

open List

variable {Entry : Type*} (minute : Entry → ℚ)

def inOrder (entries : List Entry) : List Entry :=
  entries.insertionSort fun left right => minute left ≤ minute right

/-- The entry that a test prefers to all others, the first one being asked about the rest. -/
def pick (test : Entry → Entry → Prop) [DecidableRel test] : List Entry → Option Entry
  | [] => none
  | entry :: rest =>
    match pick test rest with
    | none => some entry
    | some later => if test entry later then some entry else some later

/-- The last entry in the order of the day. -/
def latest : List Entry → Option Entry :=
  pick fun entry later => minute later < minute entry

/-- The first entry in the order of the day. -/
def earliest : List Entry → Option Entry :=
  pick fun entry later => minute entry ≤ minute later

variable {minute} {entries : List Entry} {entry : Entry} {keep : Entry → Bool}

theorem pairwise_inOrder (entries : List Entry) :
    (inOrder minute entries).Pairwise fun left right => minute left ≤ minute right := by
  have total : Std.Total fun left right : Entry => minute left ≤ minute right :=
    ⟨fun left right => le_total (minute left) (minute right)⟩
  have trans : IsTrans Entry fun left right => minute left ≤ minute right :=
    ⟨fun _ _ _ => le_trans⟩
  exact pairwise_insertionSort _ entries

theorem perm_inOrder (entries : List Entry) : (inOrder minute entries).Perm entries :=
  perm_insertionSort _ entries

@[simp]
theorem length_inOrder (entries : List Entry) :
    (inOrder minute entries).length = entries.length :=
  (perm_inOrder entries).length_eq

theorem inOrder_ne_nil (nonempty : entries ≠ []) : inOrder minute entries ≠ [] := by
  rw [← length_pos_iff, length_inOrder]
  exact length_pos_iff.mpr nonempty

theorem inOrder_cons (entry : Entry) (rest : List Entry) :
    inOrder minute (entry :: rest) =
      (inOrder minute rest).orderedInsert (fun left right => minute left ≤ minute right) entry :=
  rfl

variable {sorted : List Entry}

theorem getLast?_orderedInsert
    (ordered : sorted.Pairwise fun left right => minute left ≤ minute right) :
    (sorted.orderedInsert (fun left right => minute left ≤ minute right) entry).getLast? =
      match sorted.getLast? with
      | none => some entry
      | some later => if minute later < minute entry then some entry else some later := by
  induction sorted with
  | nil => rfl
  | cons first rest ih =>
    rw [pairwise_cons] at ordered
    by_cases before : minute entry ≤ minute first
    · rw [orderedInsert_cons_of_le _ rest before, getLast?_cons_cons]
      cases last : (first :: rest).getLast? with
      | none => simp at last
      | some later =>
        have member := mem_of_getLast? last
        have after : minute first ≤ minute later := by
          rcases mem_cons.mp member with rfl | inRest
          · exact le_refl _
          · exact ordered.1 later inRest
        simp only
        rw [if_neg (not_lt.mpr (before.trans after))]
    · rw [orderedInsert_of_not_le _ rest before]
      have later := ih ordered.2
      cases rest with
      | nil => simp [not_le.mp before]
      | cons second others =>
        rw [getLast?_cons_cons, ← later]
        cases inserted : (second :: others).orderedInsert
            (fun left right => minute left ≤ minute right) entry with
        | nil =>
          have length := congrArg List.length inserted
          rw [orderedInsert_length] at length
          cases length
        | cons head tail => rw [getLast?_cons_cons]

theorem getLast?_inOrder (entries : List Entry) :
    (inOrder minute entries).getLast? = latest minute entries := by
  induction entries with
  | nil => rfl
  | cons entry rest ih =>
    rw [inOrder_cons, getLast?_orderedInsert (pairwise_inOrder rest), ih]
    rfl

theorem head?_inOrder (entries : List Entry) :
    (inOrder minute entries).head? = earliest minute entries := by
  induction entries with
  | nil => rfl
  | cons entry rest ih =>
    have step : earliest minute (entry :: rest) = match earliest minute rest with
        | none => some entry
        | some later => if minute entry ≤ minute later then some entry else some later := rfl
    rw [inOrder_cons, step, ← ih]
    cases inOrder minute rest with
    | nil => rfl
    | cons first others =>
      rw [orderedInsert_cons]
      by_cases before : minute entry ≤ minute first <;> simp [before]

theorem filter_orderedInsert
    (ordered : sorted.Pairwise fun left right => minute left ≤ minute right) :
    (sorted.orderedInsert (fun left right => minute left ≤ minute right) entry).filter keep =
      if keep entry then
        (sorted.filter keep).orderedInsert (fun left right => minute left ≤ minute right) entry
      else sorted.filter keep := by
  induction sorted with
  | nil => by_cases kept : keep entry = true <;> simp [kept]
  | cons first rest ih =>
    rw [pairwise_cons] at ordered
    by_cases before : minute entry ≤ minute first
    · rw [orderedInsert_cons_of_le _ rest before, filter_cons]
      split
      · have least : ∀ other ∈ (first :: rest).filter keep, minute entry ≤ minute other := by
          intro other member
          rcases mem_cons.mp (mem_filter.mp member).1 with rfl | inRest
          · exact before
          · exact before.trans (ordered.1 other inRest)
        cases kept : (first :: rest).filter keep with
        | nil => rfl
        | cons head tail =>
          rw [orderedInsert_cons_of_le _ tail (least head (kept ▸ mem_cons_self))]
      · rfl
    · rw [orderedInsert_of_not_le _ rest before, filter_cons, ih ordered.2]
      by_cases keptFirst : keep first = true <;> by_cases kept : keep entry = true <;>
        simp [keptFirst, kept, before]

theorem filter_inOrder (keep : Entry → Bool) (entries : List Entry) :
    (inOrder minute entries).filter keep = inOrder minute (entries.filter keep) := by
  induction entries with
  | nil => rfl
  | cons entry rest ih =>
    rw [inOrder_cons, filter_orderedInsert (pairwise_inOrder rest), ih, filter_cons]
    split
    · rw [inOrder_cons]
    · rfl

theorem filter_append_filter (clock : ℚ)
    (ordered : sorted.Pairwise fun left right => minute left ≤ minute right) :
    sorted.filter (fun entry => minute entry ≤ clock) ++
      sorted.filter (fun entry => clock < minute entry) = sorted := by
  induction sorted with
  | nil => rfl
  | cons first rest ih =>
    rw [pairwise_cons] at ordered
    by_cases past : minute first ≤ clock
    · have kept : (first :: rest).filter (fun entry => minute entry ≤ clock) =
          first :: rest.filter fun entry => minute entry ≤ clock :=
        filter_cons_of_pos (decide_eq_true past)
      have dropped : (first :: rest).filter (fun entry => clock < minute entry) =
          rest.filter fun entry => clock < minute entry :=
        filter_cons_of_neg (by simpa using past)
      rw [kept, dropped, cons_append, ih ordered.2]
    · have ahead : ∀ entry ∈ first :: rest, clock < minute entry := by
        intro entry member
        rcases mem_cons.mp member with rfl | inRest
        · exact not_le.mp past
        · exact (not_le.mp past).trans_le (ordered.1 entry inRest)
      have none : (first :: rest).filter (fun entry => minute entry ≤ clock) = [] :=
        filter_eq_nil_iff.mpr fun entry member => by simpa using ahead entry member
      have all : (first :: rest).filter (fun entry => clock < minute entry) = first :: rest :=
        filter_eq_self.mpr fun entry member => decide_eq_true (ahead entry member)
      rw [none, all, nil_append]

theorem inOrder_eq_append (clock : ℚ) (entries : List Entry) :
    inOrder minute entries = inOrder minute (entries.filter fun entry => minute entry ≤ clock) ++
        inOrder minute (entries.filter fun entry => clock < minute entry) := by
  rw [← filter_inOrder, ← filter_inOrder, filter_append_filter clock (pairwise_inOrder entries)]

theorem latest_eq_none_iff : latest minute entries = none ↔ entries = [] := by
  rw [← getLast?_inOrder, getLast?_eq_none_iff, ← length_eq_zero_iff,
    (perm_inOrder entries).length_eq, length_eq_zero_iff]

theorem earliest_eq_none_iff : earliest minute entries = none ↔ entries = [] := by
  rw [← head?_inOrder, head?_eq_none_iff, ← length_eq_zero_iff,
    (perm_inOrder entries).length_eq, length_eq_zero_iff]

theorem pick_filter {test : Entry → Entry → Prop} [DecidableRel test]
    (trans : ∀ first second third, test first second → test second third → test first third)
    (split : ∀ first second third, test first third → ¬test second third → test first second)
    (found : pick test (entries.filter keep) = some entry) :
    ∃ place : Nat, entries[place]? = some entry ∧ keep entry = true ∧
      ∀ (other : Nat) (that : Entry), entries[other]? = some that → keep that = true →
        other = place ∨ (other < place ∧ ¬test that entry) ∨ (place < other ∧ test entry that) := by
  induction entries generalizing entry with
  | nil => cases found
  | cons first rest ih =>
    rw [filter_cons] at found
    -- What is picked of the others stays, one place further on.
    have moved : (keep first = true → ¬test first entry) →
        pick test (rest.filter keep) = some entry →
        ∃ place : Nat, (first :: rest)[place]? = some entry ∧ keep entry = true ∧
          ∀ (other : Nat) (that : Entry), (first :: rest)[other]? = some that →
            keep that = true → other = place ∨ (other < place ∧ ¬test that entry) ∨
              (place < other ∧ test entry that) := by
      intro worse known
      obtain ⟨place, stands, kept, best⟩ := ih known
      refine ⟨place + 1, by simpa using stands, kept, fun other that found keeps => ?_⟩
      cases other with
      | zero =>
        obtain rfl : first = that := by simpa using found
        exact .inr (.inl ⟨Nat.succ_pos _, worse keeps⟩)
      | succ other =>
        rcases best other that (by simpa using found) keeps with same | earlier | later
        · exact .inl (congrArg Nat.succ same)
        · exact .inr (.inl ⟨Nat.succ_lt_succ earlier.1, earlier.2⟩)
        · exact .inr (.inr ⟨Nat.succ_lt_succ later.1, later.2⟩)
    split at found
    · rename_i kept
      rw [pick] at found
      cases known : pick test (rest.filter keep) with
      | none =>
        rw [known] at found
        cases found
        have empty : rest.filter keep = [] := by
          cases others : rest.filter keep with
          | nil => rfl
          | cons head tail =>
            rw [others, pick] at known
            split at known
            · cases known
            · split at known <;> cases known
        refine ⟨0, rfl, kept, fun other that stands keeps => ?_⟩
        cases other with
        | zero => exact .inl rfl
        | succ other =>
          have member : that ∈ rest.filter keep :=
            mem_filter.mpr ⟨mem_of_getElem? (by simpa using stands), keeps⟩
          rw [empty] at member
          cases member
      | some later =>
        rw [known] at found
        dsimp only at found
        split at found
        · rename_i better
          cases found
          obtain ⟨place, stands, -, best⟩ := ih known
          refine ⟨0, rfl, kept, fun other that found keeps => ?_⟩
          cases other with
          | zero => exact .inl rfl
          | succ other =>
            refine .inr (.inr ⟨Nat.succ_pos _, ?_⟩)
            rcases best other that (by simpa using found) keeps with rfl | before | after
            · have same : rest[other]? = some that := by simpa using found
              rw [stands] at same
              exact Option.some.inj same ▸ better
            · exact split _ _ _ better before.2
            · exact trans _ _ _ better after.2
        · rename_i worse
          cases found
          exact moved (fun _ => worse) known
    · rename_i dropped
      exact moved (fun keeps => absurd keeps dropped) found

theorem latest_filter (found : latest minute (entries.filter keep) = some entry) :
    ∃ place : Nat, entries[place]? = some entry ∧ keep entry = true ∧
      ∀ (other : Nat) (that : Entry), entries[other]? = some that → keep that = true →
        minute that < minute entry ∨ (minute that = minute entry ∧ other ≤ place) := by
  have picked : pick (fun entry later => minute later < minute entry) (entries.filter keep) =
      some entry := found
  have trans : ∀ first second third : Entry, minute second < minute first →
      minute third < minute second → minute third < minute first :=
    fun _ _ _ left right => right.trans left
  have split : ∀ first second third : Entry, minute third < minute first →
      ¬minute third < minute second → minute second < minute first :=
    fun _ _ _ left right => (not_lt.mp right).trans_lt left
  obtain ⟨place, stands, kept, best⟩ := pick_filter trans split picked
  refine ⟨place, stands, kept, fun other that found keeps => ?_⟩
  rcases best other that found keeps with rfl | before | after
  · rw [stands] at found
    exact .inr ⟨by rw [Option.some.inj found], Nat.le_refl _⟩
  · exact (not_lt.mp before.2).lt_or_eq.imp id fun same => ⟨same, before.1.le⟩
  · exact .inl after.2

theorem earliest_filter (found : earliest minute (entries.filter keep) = some entry) :
    ∃ place : Nat, entries[place]? = some entry ∧ keep entry = true ∧
      ∀ (other : Nat) (that : Entry), entries[other]? = some that → keep that = true →
        minute entry < minute that ∨ (minute that = minute entry ∧ place ≤ other) := by
  have picked : pick (fun entry later => minute entry ≤ minute later) (entries.filter keep) =
      some entry := found
  have trans : ∀ first second third : Entry, minute first ≤ minute second →
      minute second ≤ minute third → minute first ≤ minute third :=
    fun _ _ _ => le_trans
  have split : ∀ first second third : Entry, minute first ≤ minute third →
      ¬minute second ≤ minute third → minute first ≤ minute second :=
    fun _ _ _ left right => left.trans (not_le.mp right).le
  obtain ⟨place, stands, kept, best⟩ := pick_filter trans split picked
  refine ⟨place, stands, kept, fun other that found keeps => ?_⟩
  rcases best other that found keeps with rfl | before | after
  · rw [stands] at found
    exact .inr ⟨by rw [Option.some.inj found], Nat.le_refl _⟩
  · exact .inl (not_le.mp before.2)
  · exact after.2.lt_or_eq.imp id fun same => ⟨same.symm, after.1.le⟩

abbrev Ordered (Entry : Type*) := { entries : List Entry // entries ≠ [] }

def checkedInOrder {Error : Type*} (minute : Entry → ℚ) (check : Entry → Option Error)
    (noEntry : Error) (entries : List Entry) : Except Error (Ordered Entry) :=
  if nonempty : entries ≠ [] then
    match entries.findSome? check with
    | some error => .error error
    | none => .ok ⟨inOrder minute entries, inOrder_ne_nil nonempty⟩
  else .error noEntry

section Checks

variable {Error : Type*} {check : Entry → Option Error} {error : Error}

theorem checkedInOrder_eq_ok {sorted : Ordered Entry} :
    checkedInOrder minute check error entries = .ok sorted ↔
      (entries ≠ [] ∧ ∀ entry ∈ entries, check entry = none) ∧
        sorted.val = inOrder minute entries := by
  unfold checkedInOrder
  split
  · rename_i nonempty
    cases found : entries.findSome? check with
    | some error =>
      refine ⟨nofun, fun ⟨⟨_, correct⟩, _⟩ => ?_⟩
      obtain ⟨entry, member, wrong⟩ := exists_of_findSome?_eq_some found
      rw [correct entry member] at wrong
      cases wrong
    | none =>
      rw [findSome?_eq_none_iff] at found
      simp only [Except.ok.injEq, Subtype.ext_iff, eq_comm, nonempty, ne_eq,
        not_false_eq_true, true_and]
      exact ⟨fun same => ⟨found, same⟩, fun ordered => ordered.2⟩
  · rename_i empty
    exact ⟨nofun, fun ⟨correct, _⟩ => absurd correct.1 empty⟩

theorem ite_outside_eq_none {value low high : ℚ} {otherwise : Option Error} :
    (if value < low ∨ high < value then some error else otherwise) = none ↔
      (low ≤ value ∧ value ≤ high) ∧ otherwise = none := by
  rw [← not_lt, ← not_lt, ← not_or]
  by_cases outside : value < low ∨ high < value <;> simp [outside]

end Checks

structure Occurrence (Entry : Type*) where
  day : ℤ
  place : ℕ
  entry : Entry

/-- In minutes since the first day began. -/
def Occurrence.time (minute : Entry → ℚ) (occurrence : Occurrence Entry) : ℚ :=
  occurrence.day * 1440 + minute occurrence.entry

def Occurs (listed : ℤ → List Entry) (occurrence : Occurrence Entry) : Prop :=
  (listed occurrence.day)[occurrence.place]? = some occurrence.entry

/-- One occurrence is not after another one. -/
def Precedes (minute : Entry → ℚ) (left right : Occurrence Entry) : Prop :=
  left.time minute < right.time minute ∨
    (left.time minute = right.time minute ∧ left.place ≤ right.place)

structure IsLast (minute : Entry → ℚ) (listed : ℤ → List Entry) (now : ℚ)
    (occurrence : Occurrence Entry) : Prop where
  occurs : Occurs listed occurrence
  past : occurrence.time minute ≤ now
  last : ∀ other, Occurs listed other → other.time minute ≤ now → Precedes minute other occurrence

structure IsNext (minute : Entry → ℚ) (listed : ℤ → List Entry) (now : ℚ)
    (occurrence : Occurrence Entry) : Prop where
  occurs : Occurs listed occurrence
  ahead : now < occurrence.time minute
  next : ∀ other, Occurs listed other → now < other.time minute → Precedes minute occurrence other

def InDays (minute : Entry → ℚ) (listed : ℤ → List Entry) : Prop :=
  ∀ day, ∀ entry ∈ listed day, 0 ≤ minute entry ∧ minute entry < 1440

section Moments

variable {listed : ℤ → List Entry} {occurrence other : Occurrence Entry} {day : ℤ} {now : ℚ}

theorem day_le {earlier later : ℤ} {first second : ℚ} (start : 0 ≤ first) (finish : second < 1440)
    (before : (earlier : ℚ) * 1440 + first ≤ later * 1440 + second) : earlier ≤ later := by
  by_contra after
  have next : (later : ℚ) + 1 ≤ earlier := by exact_mod_cast not_le.mp after
  linarith

theorem mem_of_occurs (occurs : Occurs listed occurrence) :
    occurrence.entry ∈ listed occurrence.day :=
  mem_of_getElem? occurs

section

variable (within : InDays minute listed)

include within

theorem time_lt_of_day_lt (first : Occurs listed occurrence)
    (second : Occurs listed other) (before : occurrence.day < other.day) :
    occurrence.time minute < other.time minute := by
  have finish := (within _ _ (mem_of_occurs first)).2
  have start := (within _ _ (mem_of_occurs second)).1
  have next : (occurrence.day : ℚ) + 1 ≤ other.day := by exact_mod_cast before
  simp only [Occurrence.time]
  linarith

theorem IsLast.unique (first : IsLast minute listed now occurrence)
    (second : IsLast minute listed now other) : occurrence = other := by
  rcases second.last _ first.occurs first.past with early | ⟨same, place⟩
  · rcases first.last _ second.occurs second.past with late | ⟨same, -⟩
    · exact absurd (early.trans late) (lt_irrefl _)
    · exact absurd same early.ne'
  · rcases first.last _ second.occurs second.past with late | ⟨-, placeToo⟩
    · exact absurd same late.ne'
    · have bounds := within _ _ (mem_of_occurs first.occurs)
      have boundsToo := within _ _ (mem_of_occurs second.occurs)
      have days : occurrence.day = other.day :=
        le_antisymm (day_le bounds.1 boundsToo.2 same.le) (day_le boundsToo.1 bounds.2 same.ge)
      have places := le_antisymm place placeToo
      have occurs : Occurs listed occurrence := first.occurs
      rw [Occurs, days, places, second.occurs] at occurs
      rcases occurrence with ⟨_, _, _⟩
      rcases other with ⟨_, _, _⟩
      simp_all

variable {clock : ℚ}

theorem exists_isLast_today (before : clock < 1440)
    (found : latest minute ((listed day).filter fun entry => minute entry ≤ clock) = some entry) :
    ∃ place, IsLast minute listed (day * 1440 + clock) ⟨day, place, entry⟩ := by
  obtain ⟨place, stands, kept, last⟩ := latest_filter found
  rw [decide_eq_true_eq] at kept
  have occurs : Occurs listed ⟨day, place, entry⟩ := stands
  refine ⟨place, occurs, ?_, fun other occurring past => ?_⟩
  · simp only [Occurrence.time]
    linarith
  · have bounds := within _ _ (mem_of_occurs occurring)
    rcases (day_le bounds.1 before past).lt_or_eq with early | same
    · exact .inl (time_lt_of_day_lt within occurring occurs early)
    · rcases other with ⟨otherDay, otherPlace, that⟩
      dsimp only at same
      subst same
      simp only [Occurrence.time] at past
      have order := last otherPlace that occurring (decide_eq_true (by linarith))
      simp only [Precedes, Occurrence.time]
      exact order.imp (fun less => by linarith) fun equal => ⟨by rw [equal.1], equal.2⟩

theorem exists_isLast_yesterday (midnight : 0 ≤ clock) (before : clock < 1440)
    (none : (listed day).filter (fun entry => minute entry ≤ clock) = [])
    (found : latest minute (listed (day - 1)) = some entry) :
    ∃ place, IsLast minute listed (day * 1440 + clock) ⟨day - 1, place, entry⟩ := by
  have all : latest minute ((listed (day - 1)).filter fun _ => true) = some entry := by
    rwa [filter_true]
  obtain ⟨place, stands, -, last⟩ := latest_filter all
  have occurs : Occurs listed ⟨day - 1, place, entry⟩ := stands
  have own : 0 ≤ minute entry ∧ minute entry < 1440 := within _ _ (mem_of_occurs occurs)
  refine ⟨place, occurs, ?_, fun other occurring past => ?_⟩
  · simp only [Occurrence.time]
    push_cast
    linarith
  · have bounds := within _ _ (mem_of_occurs occurring)
    rcases (day_le bounds.1 before past).lt_or_eq with early | same
    · rcases (Int.le_sub_one_of_lt early).lt_or_eq with earlier | same
      · exact .inl (time_lt_of_day_lt within occurring occurs earlier)
      · rcases other with ⟨otherDay, otherPlace, that⟩
        dsimp only at same
        subst same
        have order := last otherPlace that occurring rfl
        simp only [Precedes, Occurrence.time]
        exact order.imp (fun less => by linarith) fun equal => ⟨by rw [equal.1], equal.2⟩
    · rcases other with ⟨otherDay, otherPlace, that⟩
      dsimp only at same
      subst same
      simp only [Occurrence.time] at past
      have member : that ∈ (listed otherDay).filter fun entry => minute entry ≤ clock :=
        mem_filter.mpr ⟨mem_of_occurs occurring, decide_eq_true (by linarith)⟩
      rw [none] at member
      cases member

theorem exists_isNext_today (midnight : 0 ≤ clock)
    (found : earliest minute ((listed day).filter fun entry => clock < minute entry) = some entry) :
    ∃ place, IsNext minute listed (day * 1440 + clock) ⟨day, place, entry⟩ := by
  obtain ⟨place, stands, kept, least⟩ := earliest_filter found
  rw [decide_eq_true_eq] at kept
  have occurs : Occurs listed ⟨day, place, entry⟩ := stands
  refine ⟨place, occurs, ?_, fun other occurring ahead => ?_⟩
  · simp only [Occurrence.time]
    linarith
  · have bounds := within _ _ (mem_of_occurs occurring)
    rcases (day_le midnight bounds.2 ahead.le).lt_or_eq with late | same
    · exact .inl (time_lt_of_day_lt within occurs occurring late)
    · rcases other with ⟨otherDay, otherPlace, that⟩
      dsimp only at same
      subst same
      simp only [Occurrence.time] at ahead
      have order := least otherPlace that occurring (decide_eq_true (by linarith))
      simp only [Precedes, Occurrence.time]
      exact order.imp (fun less => by linarith) fun equal => ⟨by rw [equal.1], equal.2⟩

/-- After the last entry of today, the first one of tomorrow comes next. -/
theorem exists_isNext_tomorrow (midnight : 0 ≤ clock) (before : clock < 1440)
    (none : (listed day).filter (fun entry => clock < minute entry) = [])
    (found : earliest minute (listed (day + 1)) = some entry) :
    ∃ place, IsNext minute listed (day * 1440 + clock) ⟨day + 1, place, entry⟩ := by
  have all : earliest minute ((listed (day + 1)).filter fun _ => true) = some entry := by
    rwa [filter_true]
  obtain ⟨place, stands, -, least⟩ := earliest_filter all
  have occurs : Occurs listed ⟨day + 1, place, entry⟩ := stands
  have own : 0 ≤ minute entry ∧ minute entry < 1440 := within _ _ (mem_of_occurs occurs)
  refine ⟨place, occurs, ?_, fun other occurring ahead => ?_⟩
  · simp only [Occurrence.time]
    push_cast
    linarith
  · have bounds := within _ _ (mem_of_occurs occurring)
    rcases (day_le midnight bounds.2 ahead.le).lt_or_eq with late | same
    · rcases (Int.add_one_le_of_lt late).lt_or_eq with later | same
      · exact .inl (time_lt_of_day_lt within occurs occurring later)
      · rcases other with ⟨otherDay, otherPlace, that⟩
        dsimp only at same
        subst same
        have order := least otherPlace that occurring rfl
        simp only [Precedes, Occurrence.time]
        exact order.imp (fun less => by linarith) fun equal => ⟨by rw [equal.1], equal.2⟩
    · rcases other with ⟨otherDay, otherPlace, that⟩
      dsimp only at same
      subst same
      simp only [Occurrence.time] at ahead
      have member : that ∈ (listed day).filter fun entry => clock < minute entry :=
        mem_filter.mpr ⟨mem_of_occurs occurring, decide_eq_true (by linarith)⟩
      rw [none] at member
      cases member

end

end Moments

end SupremeOs.Support.Timeline
