import Mathlib.Data.Finset.Card

/-!
# Alarms

A bell has alarms that ring at certain minutes or after a period, and it is asked
minute by minute.  The first alarm that is due rings, and only it remembers the
minute.  The bell may be asked again for a minute that it was asked for before.

An alarm for certain minutes does not ring twice in a row for one minute.  Another
one that is due in the same minute does, and so does the alarm itself if it rang
for a later minute since.
-/

namespace SupremeOs.Support

universe u

section Turns

variable {Item : Type u} {holds : List Item → Item → Prop} {items : List Item} {item : Item}

def EachTurn (holds : List Item → Item → Prop) (items : List Item) : Prop :=
  ∀ before item after, items = before ++ item :: after → holds before item

@[simp]
theorem eachTurn_nil : EachTurn holds [] := by
  intro before item after split
  exact absurd split.symm (List.append_ne_nil_of_right_ne_nil before (List.cons_ne_nil item after))

theorem eachTurn_concat : EachTurn holds (items ++ [item]) ↔ EachTurn holds items ∧
    holds items item := by
  constructor
  · intro each
    refine ⟨fun before other after split => ?_, each items item [] rfl⟩
    exact each before other (after ++ [item]) (by rw [split, List.append_assoc, List.cons_append])
  · rintro ⟨each, last⟩ before other after split
    rcases List.eq_nil_or_concat after with rfl | ⟨others, final, rfl⟩
    · obtain ⟨rfl, single⟩ := List.append_inj' split rfl
      obtain rfl := (List.cons.inj single).1
      exact last
    · rw [List.concat_eq_append, ← List.cons_append, ← List.append_assoc] at split
      exact each before other others (List.append_inj' split rfl).1

theorem EachTurn.imp {implied : List Item → Item → Prop} (each : EachTurn holds items)
    (implies : ∀ before item, holds before item → implied before item) : EachTurn implied items :=
  fun before item after split => implies before item (each before item after split)

end Turns

inductive Alarm where
  /-- At certain minutes, not twice in a row at the same one. -/
  | clock (rings : Int → Bool)
  /-- Whenever a number of minutes has passed. -/
  | every (period : Nat)
  | silent

def Alarm.due (alarm : Alarm) (last : Option Int) (minute : Int) : Bool :=
  match alarm, last with
  | .clock rings, last => rings minute && decide (last ≠ some minute)
  | .every _, none => true
  | .every period, some last => decide ((period : Int) ≤ minute - last)
  | .silent, _ => false

/-- The minute at which each alarm last rang. -/
abbrev AlarmMemory := Nat → Option Int

def IsDue (alarms : List Alarm) (memory : AlarmMemory) (minute : Int) (index : Nat) : Prop :=
  ∃ alarm, alarms[index]? = some alarm ∧ alarm.due (memory index) minute = true

def firstDue (alarms : List Alarm) (memory : AlarmMemory) (minute : Int) : Option Nat :=
  (List.range alarms.length).find? fun index =>
    alarms[index]?.any fun alarm => alarm.due (memory index) minute

def ring (alarms : List Alarm) (minute : Int) (memory : AlarmMemory) : AlarmMemory :=
  match firstDue alarms memory minute with
  | none => memory
  | some index => Function.update memory index (some minute)

def memoryAfter (alarms : List Alarm) (minutes : List Int) : AlarmMemory :=
  minutes.foldl (fun memory minute => ring alarms minute memory) fun _ => none

section Ringing

variable {alarms : List Alarm} {memory : AlarmMemory} {minute : Int} {index : Nat}
variable {minutes : List Int}

theorem any_due_iff : (alarms[index]?.any fun alarm => alarm.due (memory index) minute) = true ↔
    IsDue alarms memory minute index := by
  rw [Option.any_eq_true]
  exact Iff.rfl

theorem IsDue.lt_length (due : IsDue alarms memory minute index) : index < alarms.length := by
  obtain ⟨alarm, found, _⟩ := due
  exact (List.getElem?_eq_some_iff.mp found).1

theorem firstDue_eq_none :
    firstDue alarms memory minute = none ↔ ∀ index, ¬IsDue alarms memory minute index := by
  rw [firstDue, List.find?_eq_none]
  constructor
  · intro none index due
    exact none index (List.mem_range.mpr due.lt_length) (any_due_iff.mpr due)
  · intro none index _ due
    exact none index (any_due_iff.mp due)

theorem firstDue_eq_some : firstDue alarms memory minute = some index ↔
    IsDue alarms memory minute index ∧ ∀ other < index, ¬IsDue alarms memory minute other := by
  rw [firstDue, List.find?_range_eq_some, any_due_iff, List.mem_range]
  constructor
  · rintro ⟨due, _, first⟩
    refine ⟨due, fun other less isDue => ?_⟩
    have idle := first other less
    rw [any_due_iff.mpr isDue] at idle
    cases idle
  · rintro ⟨due, first⟩
    refine ⟨due, due.lt_length, fun other less => ?_⟩
    rw [Bool.not_eq_true', Bool.eq_false_iff, Ne, any_due_iff]
    exact first other less

theorem ring_apply (alarms : List Alarm) (minute : Int) (memory : AlarmMemory) (index : Nat) :
    ring alarms minute memory index =
      if firstDue alarms memory minute = some index then some minute else memory index := by
  unfold ring
  cases found : firstDue alarms memory minute with
  | none => rw [if_neg (nofun)]
  | some other =>
    dsimp only
    rw [Function.update_apply]
    by_cases same : index = other
    · rw [if_pos same, if_pos (congrArg some same.symm)]
    · rw [if_neg same, if_neg fun equal => same (Option.some.inj equal).symm]

@[simp]
theorem memoryAfter_nil : memoryAfter alarms [] = fun _ => none := rfl

theorem memoryAfter_concat :
    memoryAfter alarms (minutes ++ [minute]) = ring alarms minute (memoryAfter alarms minutes) := by
  rw [memoryAfter, List.foldl_append]
  rfl

theorem mem_of_memoryAfter {last : Int} (remembered : memoryAfter alarms minutes
    index = some last) :
    last ∈ minutes := by
  induction minutes using List.reverseRecOn with
  | nil => cases remembered
  | append_singleton minutes minute ih =>
    rw [memoryAfter_concat, ring_apply] at remembered
    split at remembered
    · rw [← Option.some.inj remembered]
      exact List.mem_append_right _ (List.mem_singleton_self _)
    · exact List.mem_append_left _ (ih remembered)

theorem isDue_clock {rings : Int → Bool} (found : alarms[index]? = some (.clock rings))
    (now : rings minute = true) (fresh : minute ∉ minutes) :
    IsDue alarms (memoryAfter alarms minutes) minute index := by
  refine ⟨_, found, ?_⟩
  rw [Alarm.due, now, Bool.true_and, decide_eq_true_eq]
  exact fun same => fresh (mem_of_memoryAfter same)

theorem le_of_firstDue_every {period : Nat} {last : Int}
    (found : alarms[index]? = some (.every period)) (remembered : memory index = some last)
    (rings : firstDue alarms memory minute = some index) : last + period ≤ minute := by
  obtain ⟨alarm, same, due⟩ := (firstDue_eq_some.mp rings).1
  cases found.symm.trans same
  rw [remembered, Alarm.due, decide_eq_true_eq] at due
  omega

theorem every_remembers {period : Nat} {last : Int} (found : alarms[index]? = some (.every period))
    (remembered : memory index = some last) :
    ∃ later, ring alarms minute memory index = some later ∧ last ≤ later := by
  rw [ring_apply]
  split
  · rename_i rings
    have apart := le_of_firstDue_every found remembered rings
    exact ⟨minute, rfl, by omega⟩
  · exact ⟨last, remembered, le_refl last⟩

theorem every_remembers_run {period : Nat} {last : Int}
    (found : alarms[index]? = some (.every period))
    (remembered : memoryAfter alarms minutes index = some last) (others : List Int) :
    ∃ later, memoryAfter alarms (minutes ++ others) index = some later ∧ last ≤ later := by
  induction others using List.reverseRecOn with
  | nil => exact ⟨last, by rw [List.append_nil, remembered], le_refl last⟩
  | append_singleton others minute ih =>
    obtain ⟨later, remembers, order⟩ := ih
    obtain ⟨latest, rings, onward⟩ := @every_remembers _ _ minute _ _ _ found remembers
    refine ⟨latest, ?_, order.trans onward⟩
    rw [← List.append_assoc, memoryAfter_concat, rings]

end Ringing

/-- The minute after the latest one, or one that was asked for before. -/
def Turn (minutes : List Int) (minute : Int) : Prop :=
  minutes = [] ∨ minute ∈ minutes ∨
    ∃ latest ∈ minutes, (∀ other ∈ minutes, other ≤ latest) ∧ minute = latest + 1

def Steady (minutes : List Int) : Prop := EachTurn Turn minutes

theorem Turn.lt {minutes : List Int} {minute other : Int} (turn : Turn minutes minute)
    (fresh : minute ∉ minutes) (member : other ∈ minutes) : other < minute := by
  rcases turn with rfl | again | ⟨latest, _, top, rfl⟩
  · cases member
  · exact absurd again fresh
  · have below := top other member
    omega

section Periodic

variable {period : Nat} {minutes : List Int} {minute : Int}

theorem card_concat (minutes : List Int) (minute : Int) : (minutes ++ [minute]).toFinset.card =
    if minute ∈ minutes then minutes.toFinset.card else minutes.toFinset.card + 1 := by
  have added : (minutes ++ [minute]).toFinset = insert minute minutes.toFinset := by
    ext other
    rw [List.mem_toFinset, Finset.mem_insert, List.mem_toFinset, List.mem_append,
      List.mem_singleton, or_comm]
  rw [added, Finset.card_insert_eq_ite]
  simp

theorem mod_succ {period : Nat} (positive : 0 < period) (count : Nat) :
    (count + 1) % period = if count % period + 1 = period then 0 else count % period + 1 := by
  have below := Nat.mod_lt count positive
  have parts : count + 1 = count % period + 1 + period * (count / period) := by
    have whole := Nat.mod_add_div count period
    omega
  rw [parts, Nat.add_mul_mod_self_left]
  split
  · rename_i full
    rw [full, Nat.mod_self]
  · exact Nat.mod_eq_of_lt (by omega)

def RangAgo (period : Nat) (minutes : List Int) (memory : AlarmMemory) : Prop :=
  ∃ latest ∈ minutes, (∀ other ∈ minutes, other ≤ latest) ∧ ∃ last, memory 0 = some last ∧
    latest = last + ((minutes.toFinset.card - 1) % period : Nat)

theorem firstDue_every (period : Nat) {memory : AlarmMemory} {last : Int}
    (remembered : memory 0 = some last) :
    firstDue [.every period] memory minute = some 0 ↔ last + period ≤ minute := by
  rw [firstDue_eq_some]
  constructor
  · rintro ⟨⟨alarm, found, due⟩, _⟩
    cases found
    rw [remembered, Alarm.due, decide_eq_true_eq] at due
    omega
  · intro apart
    refine ⟨⟨_, rfl, ?_⟩, fun other less => absurd less (Nat.not_lt_zero other)⟩
    rw [remembered, Alarm.due, decide_eq_true_eq]
    omega

theorem firstDue_every_cases (period : Nat) (memory : AlarmMemory) (minute : Int) :
    firstDue [.every period] memory minute = none ∨
      firstDue [.every period] memory minute = some 0 := by
  cases found : firstDue [.every period] memory minute with
  | none => exact .inl rfl
  | some index =>
    have below := (firstDue_eq_some.mp found).1.lt_length
    rw [List.length_singleton, Nat.lt_one_iff] at below
    exact .inr (congrArg some below)

/-- The only alarm, with a period, rings whenever that many new minutes have passed. -/
theorem firstDue_every_iff (positive : 0 < period) (turn : Turn minutes minute)
    (ago : minutes ≠ [] → RangAgo period minutes (memoryAfter [.every period] minutes)) :
    firstDue [.every period] (memoryAfter [.every period] minutes) minute = some 0 ↔
      minute ∉ minutes ∧ period ∣ minutes.toFinset.card := by
  by_cases first : minutes = []
  · subst first
    refine iff_of_true ?_ ⟨List.not_mem_nil, Nat.dvd_zero _⟩
    exact firstDue_eq_some.mpr ⟨⟨_, rfl, rfl⟩, fun other less => absurd less
      (Nat.not_lt_zero other)⟩
  · obtain ⟨latest, member, top, last, remembered, since⟩ := ago first
    have counted : 0 < minutes.toFinset.card :=
      Finset.card_pos.mpr ⟨latest, List.mem_toFinset.mpr member⟩
    have below := Nat.mod_lt (minutes.toFinset.card - 1) positive
    have next := mod_succ positive (minutes.toFinset.card - 1)
    rw [Nat.sub_add_cancel counted] at next
    rw [firstDue_every period remembered, Nat.dvd_iff_mod_eq_zero, next]
    rcases turn with rfl | again | ⟨other, otherMember, otherTop, rfl⟩
    · exact absurd rfl first
    · have order := top minute again
      refine iff_of_false (by omega) fun fresh => fresh.1 again
    · obtain rfl : other = latest := le_antisymm (top other otherMember) (otherTop latest member)
      have fresh : other + 1 ∉ minutes := fun present => by
        have order := top _ present
        omega
      rw [and_iff_right fresh]
      split <;> omega

theorem rangAgo_concat (positive : 0 < period) (turn : Turn minutes minute)
    (ago : minutes ≠ [] → RangAgo period minutes (memoryAfter [.every period] minutes)) :
    RangAgo period (minutes ++ [minute]) (memoryAfter [.every period] (minutes ++ [minute])) := by
  have rings := firstDue_every_iff positive turn ago
  rw [memoryAfter_concat, RangAgo, ring_apply, card_concat]
  by_cases first : minutes = []
  · subst first
    rw [if_pos (rings.mpr ⟨List.not_mem_nil, Nat.dvd_zero _⟩)]
    exact ⟨minute, List.mem_singleton_self _, by simp, minute, rfl, by simp⟩
  · obtain ⟨latest, member, top, last, remembered, since⟩ := ago first
    have counted : 0 < minutes.toFinset.card :=
      Finset.card_pos.mpr ⟨latest, List.mem_toFinset.mpr member⟩
    have next := mod_succ positive (minutes.toFinset.card - 1)
    rw [Nat.sub_add_cancel counted] at next
    by_cases again : minute ∈ minutes
    · rw [if_neg fun rang => (rings.mp rang).1 again, if_pos again]
      refine ⟨latest, List.mem_append_left _ member, ?_, last, remembered, since⟩
      intro other present
      rcases List.mem_append.mp present with before | now
      · exact top other before
      · exact List.mem_singleton.mp now ▸ top minute again
    · obtain rfl : minute = latest + 1 := by
        rcases turn with rfl | seen | ⟨other, otherMember, otherTop, rfl⟩
        · exact absurd rfl first
        · exact absurd seen again
        · rw [le_antisymm (top other otherMember) (otherTop latest member)]
      rw [if_neg again, Nat.add_sub_cancel, next]
      refine ⟨latest + 1, List.mem_append_right _ (List.mem_singleton_self _), ?_, ?_⟩
      · intro other present
        rcases List.mem_append.mp present with before | now
        · have order := top other before
          omega
        · exact (List.mem_singleton.mp now).le
      · by_cases divides : period ∣ minutes.toFinset.card
        · rw [if_pos (rings.mpr ⟨again, divides⟩)]
          refine ⟨latest + 1, rfl, ?_⟩
          rw [Nat.dvd_iff_mod_eq_zero, next] at divides
          rw [divides]
          omega
        · rw [if_neg fun rang => divides (rings.mp rang).2]
          refine ⟨last, remembered, ?_⟩
          rw [Nat.dvd_iff_mod_eq_zero, next] at divides
          split at divides
          · exact absurd rfl divides
          · rename_i short
            rw [if_neg short]
            omega

theorem rangAgo (positive : 0 < period) (steady : Steady minutes) (first : minutes ≠ []) :
    RangAgo period minutes (memoryAfter [.every period] minutes) := by
  induction minutes using List.reverseRecOn with
  | nil => exact absurd rfl first
  | append_singleton minutes minute ih =>
    obtain ⟨before, turn⟩ := eachTurn_concat.mp steady
    exact rangAgo_concat positive turn (ih before)

/--
In steady minutes the only alarm, with a period, rings for the first new minute
and then for every so many ones.
-/
theorem every_rings_iff (positive : 0 < period) (steady : Steady minutes)
    (turn : Turn minutes minute) :
    firstDue [.every period] (memoryAfter [.every period] minutes) minute ≠ none ↔
      minute ∉ minutes ∧ period ∣ minutes.toFinset.card := by
  rw [← firstDue_every_iff positive turn (rangAgo positive steady)]
  rcases firstDue_every_cases period (memoryAfter [.every period] minutes) minute with
    none | rings
  · simp [none, not_true_eq_false]
  · simp [rings]

end Periodic

section Again

variable {alarms : List Alarm} {memory : AlarmMemory} {minute : Int} {index : Nat}
variable {minutes : List Int}

def RingsFor (alarms : List Alarm) (minute : Int) (index : Nat) : Prop :=
  ∃ rings, alarms[index]? = some (.clock rings) ∧ rings minute = true

/-- It is the first one for that minute. -/
def Leads (alarms : List Alarm) (minute : Int) (index : Nat) : Prop :=
  RingsFor alarms minute index ∧ ∀ other < index, ¬RingsFor alarms minute other

def Settled (alarms : List Alarm) (minutes : List Int) (minute : Int) : Prop :=
  ∀ index, RingsFor alarms minute index →
    Leads alarms minute index ∧ ∀ later ∈ minutes, minute < later → ¬Leads alarms later index

def OnlyClocks (alarms : List Alarm) : Prop := ∀ alarm ∈ alarms, ∃ rings, alarm = .clock rings

/-- The alarms remember the last minute that they were the first ones for. -/
def RemembersLeads (alarms : List Alarm) (minutes : List Int) (memory : AlarmMemory) : Prop :=
  ∀ index minute, memory index = some minute ↔ minute ∈ minutes ∧ Leads alarms minute index ∧
    ∀ later ∈ minutes, Leads alarms later index → later ≤ minute

theorem isDue_iff_ringsFor (only : OnlyClocks alarms) : IsDue alarms memory minute index ↔
    RingsFor alarms minute index ∧ memory index ≠ some minute := by
  constructor
  · rintro ⟨alarm, found, due⟩
    obtain ⟨rings, rfl⟩ := only alarm (List.mem_of_getElem? found)
    rw [Alarm.due, Bool.and_eq_true, decide_eq_true_eq] at due
    exact ⟨⟨rings, found, due.1⟩, due.2⟩
  · rintro ⟨⟨rings, found, now⟩, differs⟩
    refine ⟨_, found, ?_⟩
    rw [Alarm.due, now, Bool.true_and, decide_eq_true_eq]
    exact differs

theorem firstDue_again_iff (only : OnlyClocks alarms)
    (remembers : RemembersLeads alarms minutes memory) (again : minute ∈ minutes) :
    firstDue alarms memory minute = none ↔ Settled alarms minutes minute := by
  rw [firstDue_eq_none]
  constructor
  · intro idle index rings
    have marked : memory index = some minute := by
      by_contra differs
      exact idle index ((isDue_iff_ringsFor only).mpr ⟨rings, differs⟩)
    obtain ⟨_, leads, latest⟩ := (remembers index minute).mp marked
    exact ⟨leads, fun later member after leadsLater =>
      absurd (latest later member leadsLater) (not_le.mpr after)⟩
  · intro settled index due
    obtain ⟨rings, differs⟩ := (isDue_iff_ringsFor only).mp due
    obtain ⟨leads, last⟩ := settled index rings
    refine differs ((remembers index minute).mpr ⟨again, leads, fun later member leadsLater => ?_⟩)
    exact not_lt.mp fun after => last later member after leadsLater

theorem remembersLeads_again (remembers : RemembersLeads alarms minutes memory)
    (again : minute ∈ minutes) (idle : firstDue alarms memory minute = none) :
    RemembersLeads alarms (minutes ++ [minute]) (ring alarms minute memory) := by
  have same : ∀ other, other ∈ minutes ++ [minute] ↔ other ∈ minutes := by
    intro other
    rw [List.mem_append, List.mem_singleton, or_iff_left_iff_imp]
    rintro rfl
    exact again
  intro index other
  rw [ring_apply, idle, if_neg nofun, remembers index other]
  simp only [same]

theorem remembersLeads_fresh (only : OnlyClocks alarms)
    (remembers : RemembersLeads alarms minutes memory) (later : ∀ other ∈ minutes, other < minute) :
    RemembersLeads alarms (minutes ++ [minute]) (ring alarms minute memory) := by
  have due : ∀ index, IsDue alarms memory minute index ↔ RingsFor alarms minute index := by
    intro index
    rw [isDue_iff_ringsFor only]
    refine and_iff_left fun marked => ?_
    exact lt_irrefl _ (later minute ((remembers index minute).mp marked).1)
  have leads : ∀ index, firstDue alarms memory minute = some index ↔ Leads alarms minute index := by
    intro index
    simp only [firstDue_eq_some, due, Leads]
  intro index other
  rw [ring_apply, List.mem_append, List.mem_singleton]
  simp only [List.mem_append, List.mem_singleton]
  by_cases now : Leads alarms minute index
  · rw [if_pos ((leads index).mpr now)]
    constructor
    · intro same
      cases same
      refine ⟨.inr rfl, now, ?_⟩
      rintro another (before | rfl) _
      · exact (later another before).le
      · exact le_refl _
    · rintro ⟨before | rfl, _, latest⟩
      · exact absurd (latest minute (.inr rfl) now) (not_le.mpr (later other before))
      · rfl
  · rw [if_neg fun rings => now ((leads index).mp rings), remembers index other]
    constructor
    · rintro ⟨before, leadsOther, latest⟩
      refine ⟨.inl before, leadsOther, ?_⟩
      rintro another (earlier | rfl) leadsAnother
      · exact latest another earlier leadsAnother
      · exact absurd leadsAnother now
    · rintro ⟨before | rfl, leadsOther, latest⟩
      · exact ⟨before, leadsOther, fun another earlier => latest another (.inl earlier)⟩
      · exact absurd leadsOther now

/-- No minute that was asked for before makes an alarm ring. -/
def Silent (alarms : List Alarm) (minutes : List Int) (minute : Int) : Prop :=
  minute ∈ minutes → firstDue alarms (memoryAfter alarms minutes) minute = none

theorem silent_and_remembersLeads (only : OnlyClocks alarms) (steady : Steady minutes) :
    (EachTurn (Silent alarms) minutes ↔
        EachTurn (fun before minute => minute ∈ before → Settled alarms before minute) minutes) ∧
      (EachTurn (Silent alarms) minutes →
        RemembersLeads alarms minutes (memoryAfter alarms minutes)) := by
  induction minutes using List.reverseRecOn with
  | nil =>
    refine ⟨iff_of_true eachTurn_nil eachTurn_nil, fun _ index minute => ?_⟩
    simp
  | append_singleton minutes minute ih =>
    obtain ⟨before, turn⟩ := eachTurn_concat.mp steady
    obtain ⟨same, remembers⟩ := ih before
    refine ⟨?_, ?_⟩
    · rw [eachTurn_concat, eachTurn_concat, ← same]
      refine and_congr_right fun silent => imp_congr_right fun again => ?_
      exact firstDue_again_iff only (remembers silent) again
    · intro silent
      obtain ⟨earlier, now⟩ := eachTurn_concat.mp silent
      rw [memoryAfter_concat]
      by_cases again : minute ∈ minutes
      · exact remembersLeads_again (remembers earlier) again (now again)
      · exact remembersLeads_fresh only (remembers earlier) fun other => turn.lt again

theorem silent_iff_settled (only : OnlyClocks alarms) (steady : Steady minutes) :
    EachTurn (Silent alarms) minutes ↔
      EachTurn (fun before minute => minute ∈ before → Settled alarms before minute) minutes :=
  (silent_and_remembersLeads only steady).1

end Again

end SupremeOs.Support
