import SupremeOs.Gateway.ResponsesSurvive

/-!
# The contract against spam

While ticks and responses run one after another and nothing fails, what the user
has answered and what has been done already should stand against notifying
again and against switching off by itself.

The passes that clean the states up forget it when a device is on that has no
suggestion, for whatever reason.
-/

namespace SupremeOs.Gateway

open Support DomainModel Intelligence List

namespace SieEvent

def isAutomatic : SieEvent → Bool
  | notified _ _ _ | switchedOff _ _ | announced _ _ => true
  | seenOff _ | responded _ _ _ => false

def moment : SieEvent → Nat
  | responded _ _ moment | notified _ moment _ | switchedOff _ moment | announced _ moment => moment
  | seenOff _ => 0

/-- What is remembered of a device does not stand against what happens to it. -/
def Permits : SieEvent → SieEvent → Prop
  | responded _ .turnOff _, _ | responded _ .keepOn _, _ | responded _ .alwaysIgnore _, _ => False
  | responded _ .ignoreToday moment, act => startOfNextUtcDay moment ≤ act.moment
  | notified _ last _, notified _ now gap => gap.lessOrEqual (.finite (now - last : Int)) = true
  | switchedOff _ _, switchedOff _ _ | announced _ _, announced _ _ => False
  | notified _ _ _, _ | switchedOff _ _, _ | announced _ _, _ => True
  | responded _ .enableAutoPilot _, _ | seenOff _, _ => True

end SieEvent

/-- Nothing happens by itself that what is to be remembered of the device stands against. -/
def AntiSpam (history : List SieEvent) : Prop :=
  ∀ earlier act later, history = earlier ++ act :: later → act.isAutomatic = true →
    ∀ past ∈ outstanding earlier, past.deviceId = act.deviceId → past.Permits act

/-- A tick drops nothing that is to be remembered, and no moment is zero. -/
def dropsNothing (sie : Sie) : SieRequest × Nat → Prop
  | (.tick input, _) =>
    sie.now ≠ 0 ∧ Undropped (sie.observed input sie.now) (suggestionsOf sie.onSince input sie.now)
  | (.respond _ _, _) => sie.now ≠ 0
  | (.wait _, _) => True

instance (sie : Sie) : ∀ label, Decidable (dropsNothing sie label) := by
  intro label
  unfold dropsNothing
  split <;> infer_instance

section Permits

variable {suggestion : Suggestion} {state : Option SuggestionState} {settings : AutoPilotSettings}
variable {now : Nat} {past act : SieEvent}

theorem SieEvent.RecordedIn.permits {state : SuggestionState} (recorded : past.RecordedIn state)
    (free : Unanswered state act.moment)
    (notices : ∀ deviceId moment gap, past = .notified deviceId moment gap → past.Permits act) :
    past.Permits act := by
  cases past with
  | seenOff deviceId => trivial
  | responded deviceId action moment =>
    cases action with
    | turnOff => exact Bool.false_ne_true (free.executed.symm.trans recorded)
    | keepOn => exact Bool.false_ne_true (free.keptOn.symm.trans recorded)
    | alwaysIgnore => exact Bool.false_ne_true (free.alwaysIgnore.symm.trans recorded)
    | ignoreToday =>
      rcases recorded with ⟨end', found, later⟩
      exact later.trans (free.ignored end' found)
    | enableAutoPilot => trivial
  | notified deviceId moment gap => exact notices deviceId moment gap rfl
  | switchedOff | announced => exact absurd (free.executed.symm.trans recorded) Bool.false_ne_true

theorem permits_of_execute (executes : decideAutoPilot suggestion state settings now = .execute)
    (recorded : past.RecordedIn (state.getD (.fresh suggestion.key))) (deviceId : DeviceId) :
    past.Permits (.switchedOff deviceId now) ∧ past.Permits (.announced deviceId now) := by
  have free : Unanswered (state.getD (.fresh suggestion.key)) now :=
    unanswered_of_decision fun reason suppressed => by
      rw [executes] at suppressed
      cases suppressed
  constructor
  · exact recorded.permits free fun _ _ _ same => same ▸ trivial
  · exact recorded.permits free fun _ _ _ same => same ▸ trivial

theorem gap_mono {gap : JsNumber} {last moment : Nat} (before : moment ≤ last)
    (passed : gap.lessOrEqual (.finite (now - last : Int)) = true) :
    gap.lessOrEqual (.finite (now - moment : Int)) = true := by
  have longer : ((now - last : Int) : ℚ) ≤ ((now - moment : Int) : ℚ) := by
    exact_mod_cast Int.sub_le_sub_left (Int.ofNat_le.mpr before) now
  cases gap with
  | finite value =>
    have short : value ≤ ((now - last : Int) : ℚ) := by
      simpa [JsNumber.lessOrEqual, JsNumber.less, JsNumber.strictEquals, le_iff_lt_or_eq]
        using passed
    simpa [JsNumber.lessOrEqual, JsNumber.less, JsNumber.strictEquals, le_iff_lt_or_eq]
      using short.trans longer
  | notANumber | negativeInfinity | positiveInfinity => exact passed

theorem permits_of_notify {kind : NoticeKind}
    (notifies : decideAutoPilot suggestion state settings now = .notify kind)
    (recorded : past.RecordedIn (state.getD (.fresh suggestion.key))) (deviceId : DeviceId) :
    past.Permits (.notified deviceId now settings.reminderMs) := by
  have free : Unanswered (state.getD (.fresh suggestion.key)) now :=
    unanswered_of_decision fun reason suppressed => by
      rw [notifies] at suppressed
      cases suppressed
  refine recorded.permits free ?_
  rintro other moment gap rfl
  rcases recorded with ⟨before, last, lastly, later⟩
  exact gap_mono later (gap_of_notify notifies before lastly)

end Permits

section Histories

variable {history : List SieEvent}

theorem antiSpam_nil : AntiSpam [] := by
  intro earlier act later split
  simp at split

theorem AntiSpam.concat (holds : AntiSpam history) {event : SieEvent}
    (permitted : event.isAutomatic = true →
      ∀ past ∈ outstanding history, past.deviceId = event.deviceId → past.Permits event) :
    AntiSpam (history ++ [event]) := by
  intro earlier act later split automatic
  rcases concat_eq_append_cons.mp split with ⟨rfl, rfl, _⟩ | ⟨before, _, rfl⟩
  · exact permitted automatic
  · exact holds earlier act before rfl automatic

theorem AntiSpam.append (holds : AntiSpam history) {extra : List SieEvent}
    (asked : ∀ event ∈ extra, event.isAutomatic = false) : AntiSpam (history ++ extra) := by
  induction extra using List.reverseRecOn with
  | nil => rwa [append_nil]
  | append_singleton extra last ih =>
    rw [← append_assoc]
    refine (ih fun event member => asked event (mem_append_left _ member)).concat ?_
    intro automatic
    rw [asked last (by simp)] at automatic
    cases automatic

end Histories

def TickStep.Permitted (history : List SieEvent) (run : TickRun) : TickStep → Prop
  | .command suggestion =>
    ∀ past ∈ outstanding history, past.deviceId = suggestion.deviceId →
      past.Permits (.switchedOff suggestion.deviceId run.tick.now) ∧
        past.Permits (.announced suggestion.deviceId run.tick.now)
  | .announce suggestion =>
    ∀ past ∈ outstanding history, past.deviceId = suggestion.deviceId →
      past.Permits (.announced suggestion.deviceId run.tick.now)
  | .notify suggestion _ =>
    ∀ past ∈ outstanding history, past.deviceId = suggestion.deviceId →
      past.Permits (.notified suggestion.deviceId run.tick.now run.tick.settings.reminderMs)
  | .recordOff _ | .record | .write => True

/-- What is known of a call when no other call is in flight. -/
def SieCall.Alone (sie : Sie) : SieCall → Prop
  | .reading now input =>
    now = sie.now ∧ Undropped (sie.observed input now) (suggestionsOf sie.onSince input now)
  | .evaluating tick | .readingStates tick =>
    tick.now = sie.now ∧ tick.writes = sie.writes ∧ Undropped sie tick.suggestions
  | .applying run step =>
    run.tick.now = sie.now ∧ run.tick.writes = sie.writes ∧ step.Permitted sie.history run
  | .responding _ _ now => now = sie.now
  | .carryingOut response _ => response.now = sie.now ∧ response.writes = sie.writes

structure SpamSound (config : Config Sie SieCall) : Prop where
  recording : SieSound config
  past : ∀ event ∈ outstanding config.shared.history, event.moment ≤ config.shared.now
  antiSpam : AntiSpam config.shared.history
  alone : ∀ call ∈ config.pending, call.Alone config.shared

section Steps

variable {sie next : Sie} {call : SieCall} {more : List SieCall} {run : TickRun}

/-- What a tick does next is permitted if its states record what is to be remembered. -/
theorem TickRun.permitted_proceed {rest : List Suggestion}
    (within : ∀ suggestion ∈ rest, suggestion ∈ run.tick.suggestions)
    (keys : ∀ suggestion ∈ rest, suggestion.key = .energyIdle suggestion.deviceId)
    (now : run.tick.now = sie.now) (writes : run.tick.writes = sie.writes)
    (recorded : ∀ past ∈ outstanding sie.history, past.RecordedBy (dropIdle run.live run.states)) :
    (run.proceed rest).Alone sie := by
  induction rest with
  | nil => exact ⟨now, writes, trivial⟩
  | cons suggestion rest ih =>
    have own := within suggestion (.head _)
    have known : ∀ past ∈ outstanding sie.history, past.deviceId = suggestion.deviceId →
        past.RecordedIn ((run.states.get suggestion.key).getD (.fresh suggestion.key)) := by
      intro past owing same
      have said := recorded past owing
      have key : past.key = suggestion.key := by
        rw [keys suggestion (.head _), SieEvent.key, same]
      rw [SieEvent.RecordedBy, key, stateOf_dropIdle (.inl (TickRun.mem_live own))] at said
      exact said
    rw [TickRun.proceed]
    split
    · exact ih (fun other member => within other (.tail _ member))
        fun other member => keys other (.tail _ member)
    · rename_i executes
      refine ⟨now, writes, ?_⟩
      split
      · intro past owing same
        exact (permits_of_execute executes (known past owing same) _).2
      · intro past owing same
        exact permits_of_execute executes (known past owing same) _
    · rename_i kind notifies
      refine ⟨now, writes, ?_⟩
      intro past owing same
      exact permits_of_notify notifies (known past owing same) _

theorem SpamSound.orderly (sound : SpamSound ⟨sie, [call]⟩) : call.Orderly sie .done := by
  have alone := sound.alone call (.head _)
  cases call with
  | reading | evaluating => trivial
  | readingStates tick => exact fun _ => alone.2.2
  | applying run step =>
    cases step with
    | command | announce =>
      nofun
    | notify suggestion kind =>
      refine ⟨by simp, fun event owing => ?_⟩
      have early : event.moment ≤ run.tick.now := alone.1 ▸ sound.past event owing
      cases event with
      | notified deviceId moment gap =>
        simp [SieEvent.isLaterNotice, show moment ≤ run.tick.now from early]
      | seenOff | responded | switchedOff | announced => rfl
    | recordOff | record => trivial
    | write => exact ⟨by simp, fun _ => alone.2.1⟩
  | responding key action now =>
    intro _ _ deviceId _ event owing
    have early : event.moment ≤ now := alone ▸ sound.past event owing
    cases event with
    | responded other response moment =>
      cases response with
      | ignoreToday => simp [SieEvent.isLaterIgnore, show moment ≤ now from early]
      | turnOff | keepOn | alwaysIgnore | enableAutoPilot => rfl
    | seenOff | notified | switchedOff | announced => rfl
  | carryingOut response step =>
    cases step with
    | write => exact fun _ => alone.2
    | command | getRate | getSettings | setSettings | record => trivial

theorem SpamSound.carries {step : TickStep} (sound : SpamSound ⟨sie, [.applying run step]⟩) :
    ∀ past ∈ outstanding sie.history, past.RecordedBy (step.outcome run) := by
  intro past owing
  have alone := sound.alone (.applying run step) (.head _)
  exact sound.recording.writeBack.single (congrArg some alone.2.1) rfl owing

theorem SpamSound.past_concat (sound : SpamSound ⟨sie, [call]⟩) {event : SieEvent}
    (now : event.moment = sie.now) :
    ∀ past ∈ outstanding (sie.history ++ [event]), past.moment ≤ sie.now := by
  intro past owing
  rcases mem_outstanding_append owing with old | new
  · exact sound.past past old
  · rw [mem_singleton.mp new, now]

theorem SpamSound.applying {step : TickStep} (sound : SpamSound ⟨sie, [.applying run step]⟩)
    (recording : SieSound ⟨next, more⟩) (resumed : run.resume sie step .done = some (next, more)) :
    SpamSound ⟨next, more⟩ := by
  rcases sound.alone (.applying run step) (.head _) with ⟨now, writes, permitted⟩
  rcases sound.recording.proper (.applying run step) (.head _) with ⟨proper, about⟩
  have keys : ∀ suggestion ∈ run.rest, suggestion.key = .energyIdle suggestion.deviceId :=
    fun suggestion member => proper.tick.keys suggestion (proper.rest suggestion member)
  cases step with
  | command suggestion =>
    cases resumed
    refine ⟨recording, sound.past_concat now, ?_, ?_⟩
    · exact sound.antiSpam.concat fun _ past owing same => (permitted past owing same).1
    · intro call member
      obtain rfl := mem_singleton.mp member
      refine ⟨now, writes, fun past owing same => ?_⟩
      rcases mem_outstanding_append owing with old | new
      · exact (permitted past old same).2
      · obtain rfl := mem_singleton.mp new
        trivial
  | announce suggestion =>
    cases resumed
    refine ⟨recording, sound.past_concat now, ?_, ?_⟩
    · exact sound.antiSpam.concat fun _ => permitted
    · intro call member
      obtain rfl := mem_singleton.mp member
      exact ⟨now, writes, trivial⟩
  | recordOff suggestion =>
    cases resumed
    refine ⟨recording, sound.past, sound.antiSpam, ?_⟩
    intro call member
    obtain rfl := mem_singleton.mp member
    exact TickRun.permitted_proceed proper.rest keys now writes sound.carries
  | notify suggestion kind =>
    cases resumed
    refine ⟨recording, sound.past_concat now, ?_, ?_⟩
    · exact sound.antiSpam.concat fun _ => permitted
    · intro call member
      obtain rfl := mem_singleton.mp member
      exact ⟨now, writes, trivial⟩
  | record =>
    cases resumed
    refine ⟨recording, sound.past, sound.antiSpam, ?_⟩
    intro call member
    obtain rfl := mem_singleton.mp member
    exact TickRun.permitted_proceed proper.rest keys now writes sound.carries
  | write =>
    cases resumed
    exact ⟨recording, sound.past, sound.antiSpam, by simp⟩

theorem SpamSound.carryingOut {response : ResponseRun} {step : ResponseStep}
    (sound : SpamSound ⟨sie, [.carryingOut response step]⟩) (recording : SieSound ⟨next, more⟩)
    (resumed : response.resume sie step .done = some (next, more)) : SpamSound ⟨next, more⟩ := by
  have alone := sound.alone (.carryingOut response step) (.head _)
  cases step with
  | command | getRate | getSettings | setSettings | record =>
    cases resumed
    refine ⟨recording, sound.past, sound.antiSpam, ?_⟩
    intro call member
    obtain rfl := mem_singleton.mp member
    exact alone
  | write =>
    cases resumed
    have answered : ∀ event ∈ response.event,
        event.isAutomatic = false ∧ event.moment = response.now := by
      intro event member
      rcases mem_map.mp member with ⟨deviceId, _, rfl⟩
      exact ⟨rfl, rfl⟩
    refine ⟨recording, ?_, sound.antiSpam.append fun event member => (answered event member).1,
      by simp⟩
    intro event owing
    rcases mem_outstanding_append owing with old | new
    · exact sound.past event old
    · exact ((answered event new).2.trans alone.1).le

theorem spamSound_resume (sound : SpamSound ⟨sie, [call]⟩)
    (resumed : sie.resume call .done = some (next, more)) : SpamSound ⟨next, more⟩ := by
  have taken : sieProgram.machine.step ⟨sie, [call]⟩ (.resume 0 .done) = some ⟨next, more⟩ :=
    Program.step_resume_eq_some.mpr ⟨[], call, [], next, more, rfl, rfl, resumed, by simp⟩
  have inOrder : orderly ⟨sie, [call]⟩ (.resume 0 .done) := by
    intro other found
    cases found
    exact sound.orderly
  have recording : SieSound ⟨next, more⟩ :=
    sieSound_step _ _ _ sound.recording inOrder taken
  have alone := sound.alone call (.head _)
  cases call with
  | reading now input =>
    have atOnce : now = sie.now := alone.1
    subst atOnce
    cases resumed
    refine ⟨recording, ?_, ?_, ?_⟩
    · exact fun event owing => sound.past event (mem_outstanding_observed owing)
    · refine sound.antiSpam.append fun event member => ?_
      rcases mem_map.mp member with ⟨deviceId, _, rfl⟩
      rfl
    · intro call member
      obtain rfl := mem_singleton.mp member
      exact ⟨rfl, rfl, alone.2⟩
  | evaluating tick =>
    cases resumed
    refine ⟨recording, sound.past, sound.antiSpam, ?_⟩
    intro call member
    obtain rfl := mem_singleton.mp member
    exact alone
  | readingStates tick =>
    rcases alone with ⟨now, writes, kept⟩
    have proper : tick.Proper :=
      sound.recording.proper (.readingStates tick) (.head _)
    cases resumed
    refine ⟨recording, sound.past, sound.antiSpam, ?_⟩
    intro call member
    obtain rfl := mem_singleton.mp member
    refine TickRun.permitted_proceed (fun _ member => member) proper.keys now writes ?_
    exact fun past owing => kept.recordedBy owing (sound.recording.writeBack.idle rfl owing)
  | applying run step => exact sound.applying recording resumed
  | responding key action now =>
    cases resumed
    refine ⟨recording, sound.past, sound.antiSpam, ?_⟩
    intro call member
    obtain rfl := mem_singleton.mp member
    exact ⟨alone, rfl⟩
  | carryingOut response step => exact sound.carryingOut recording resumed

end Steps

theorem single_sieProgram : sieProgram.Single := by
  constructor
  · intro sie request
    cases request <;> simp [sieProgram, Sie.start]
  · intro sie call reply outcome resumed
    cases call with
    | reading | evaluating | readingStates | responding =>
      cases reply <;> cases resumed <;> simp
    | applying run step => cases step <;> cases reply <;> cases resumed <;> simp
    | carryingOut response step => cases step <;> cases reply <;> cases resumed <;> simp

theorem spamSound_start {sie : Sie} {request : SieRequest} {count : Nat}
    (sound : SpamSound (Program.idle sie)) (met : dropsNothing sie (request, count)) :
    SpamSound ⟨(sieProgram.start sie request).1, (sieProgram.start sie request).2⟩ := by
  have taken : sieProgram.machine.step (Program.idle sie) (.call request) =
      some ⟨(sieProgram.start sie request).1, (sieProgram.start sie request).2⟩ := rfl
  have recording (inOrder : orderly (Program.idle sie) (.call request)) :=
    sieSound_step _ _ _ sound.recording inOrder taken
  cases request with
  | tick input =>
    refine ⟨recording met.1, sound.past, sound.antiSpam, ?_⟩
    intro call member
    obtain rfl := mem_singleton.mp member
    exact ⟨rfl, met.2⟩
  | respond key action =>
    refine ⟨recording met, sound.past, sound.antiSpam, ?_⟩
    intro call member
    obtain rfl := mem_singleton.mp member
    exact rfl
  | wait milliseconds =>
    refine ⟨recording trivial, ?_, sound.antiSpam, by simp [sieProgram, Sie.start]⟩
    exact fun event owing => Nat.le_add_right_of_le (sound.past event owing)

theorem spamSound_step : ∀ sie label next, SpamSound (Program.idle sie) → dropsNothing sie label →
    (sieProgram.sequential .done).step sie label = some next → SpamSound (Program.idle next) := by
  rintro sie ⟨request, count⟩ next sound met step
  exact Program.invariant_of_sequential single_sieProgram (spamSound_start sound met)
    (fun _ _ _ sound resumed => spamSound_resume sound resumed) step

theorem spamSound_initial (now : Nat) (states : SuggestionStates) :
    SpamSound (Program.idle (.initial now states)) := by
  refine ⟨sieSound_initial now states, ?_, antiSpam_nil, by simp [Program.idle]⟩
  intro event owing
  cases owing

/-- Nobody is bothered against their answer in every run in which ticks drop nothing. -/
theorem anti_spam (now : Nat) (states : SuggestionStates) (labels : List (SieRequest × Nat))
    (guarded : (sieProgram.sequential .done).Guarded dropsNothing (.initial now states) labels) :
    (sieProgram.sequential .done).Throughout (fun sie => AntiSpam sie.history)
      (.initial now states) labels :=
  (Machine.throughout_of_guarded spamSound_step (spamSound_initial now states) guarded).mono
    fun _ sound => sound.antiSpam

/-- The user of the lamp is notified, reminded, and then keeps the lamp on. -/
theorem kept_lamp_stays_on :
    (sieProgram.sequential .done).Throughout (fun sie => AntiSpam sie.history) (.initial 1 .empty)
      [(.tick (lampLeftOn []), 4), (.wait 1200000, 0), (.tick (lampLeftOn []), 6),
        (.wait 1200000, 0), (.tick (lampLeftOn []), 4), (.wait 600000, 0),
        (.tick (lampLeftOn []), 6), (.respond (.energyIdle "lamp") .keepOn, 3),
        (.wait 7200000, 0), (.tick (lampLeftOn []), 4)] :=
  anti_spam 1 .empty _ (by decide +kernel)

/-- The user keeps the lamp on, comes home and leaves again. -/
def keptUntilReturn : List (SieRequest × Nat) :=
  [(.tick (lampLeftOn []), 4), (.wait 1200000, 0), (.tick (lampLeftOn []), 6),
    (.respond (.energyIdle "lamp") .keepOn, 3), (.tick (lampLeftOn ["ann"]), 4),
    (.tick (lampLeftOn []), 6)]

theorem keptUntilReturn_runs :
    ((sieProgram.sequential .done).run (.initial 1 .empty) keptUntilReturn).isSome = true := by
  decide +kernel

/-- The user is notified again, although the lamp has been on all the time. -/
theorem kept_lamp_is_forgotten : ¬ ∀ labels : List (SieRequest × Nat),
      (sieProgram.sequential .done).Throughout (fun sie => AntiSpam sie.history)
        (.initial 1 .empty) labels := by
  intro holds
  have last := Machine.property_of_throughout (holds keptUntilReturn)
    (Option.some_get keptUntilReturn_runs).symm
  exact last
    [.notified "lamp" 1200001 (.finite 1800000), .responded "lamp" .keepOn 1200001]
    (.notified "lamp" 1200001 (.finite 1800000)) [] (by decide +kernel) rfl
    (.responded "lamp" .keepOn 1200001) (by decide +kernel) rfl

end SupremeOs.Gateway
