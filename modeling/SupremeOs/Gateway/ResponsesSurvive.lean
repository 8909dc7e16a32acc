import SupremeOs.Gateway.SuggestionMemory
import SupremeOs.Support.WriteBack

/-!
# Responses survive a tick

When nothing is in flight, the stored states should say every response that has
resolved and every notification that has been sent, unless the device has been
seen off since.

Ticks and responses write back all states that they have read.  What has been
written in between is lost; so is what a tick has done that ends in an error,
and what is remembered of a device for which a tick has no suggestion.
-/

namespace SupremeOs.Gateway

open Support DomainModel Intelligence List

/-- What is to be remembered is recorded when nothing is in flight. -/
structure ResponsesSurvive (config : Config Sie SieCall) : Prop where
  recorded : config.pending = [] →
    ∀ event ∈ outstanding config.shared.history, event.RecordedBy config.shared.states

/--
Each device of which something is to be remembered while it is on has been seen
on, and has a suggestion or a durable state.
-/
def Undropped (sie : Sie) (suggestions : List Suggestion) : Prop :=
  ∀ event ∈ outstanding sie.history, event.isEpisodic = true →
    sie.onSince.has event.deviceId = true ∧ (event.key ∈ suggestions.map Suggestion.key ∨
        (stateOf sie.states event.key).isDurable = true)

instance (sie : Sie) (suggestions : List Suggestion) : Decidable (Undropped sie suggestions) :=
  inferInstanceAs (Decidable (∀ event ∈ outstanding sie.history, _))

/-- A tick gives up only before it has done anything, and writes only over what it has read. -/
def TickStep.Orderly (sie : Sie) (run : TickRun) (reply : SieReply) : TickStep → Prop
  | .command _ | .announce _ => reply = .rejected → run.acts = []
  | .notify suggestion _ =>
    (reply = .rejected → run.acts = []) ∧ ∀ event ∈ outstanding sie.history,
        event.isLaterNotice suggestion.deviceId run.tick.now = false
  | .recordOff _ | .record => True
  | .write => (reply = .rejected → run.acts = []) ∧ (reply = .done → run.tick.writes = sie.writes)

instance (sie : Sie) (run : TickRun) (reply : SieReply) :
    ∀ step, Decidable (TickStep.Orderly sie run reply step) := by
  intro step
  unfold TickStep.Orderly
  split <;> infer_instance

/-- A response that is written when it resolves. -/
def ResponseStep.Orderly (sie : Sie) (response : ResponseRun) (reply : SieReply) :
    ResponseStep → Prop
  | .write => reply = .done → response.writes = sie.writes
  | .command | .getRate | .getSettings | .setSettings | .record => True

instance (sie : Sie) (response : ResponseRun) (reply : SieReply) :
    ∀ step, Decidable (ResponseStep.Orderly sie response reply step) := by
  intro step
  unfold ResponseStep.Orderly
  split <;> infer_instance

/-- No later response has put the suggestion off for a later day. -/
def IgnoresInTime (sie : Sie) (key : SuggestionKey) (action : SuggestionAction) (now : Nat) :
    Prop :=
  action = .ignoreToday → ∀ deviceId ∈ key.device, ∀ event ∈ outstanding sie.history,
    event.isLaterIgnore deviceId now = false

instance (sie : Sie) (key : SuggestionKey) (action : SuggestionAction) (now : Nat) :
    Decidable (IgnoresInTime sie key action now) := inferInstanceAs (Decidable (_ → _))

/-- What a call has to meet when it goes on. -/
def SieCall.Orderly (sie : Sie) (reply : SieReply) : SieCall → Prop
  | .reading _ _ | .evaluating _ => True
  | .readingStates tick => reply = .done → Undropped sie tick.suggestions
  | .applying run step => step.Orderly sie run reply
  | .responding key action now => reply = .done → IgnoresInTime sie key action now
  | .carryingOut response step => step.Orderly sie response reply

instance (sie : Sie) (reply : SieReply) : ∀ call, Decidable (SieCall.Orderly sie reply call) := by
  intro call
  unfold SieCall.Orderly
  split <;> infer_instance

/-- Calls start late enough to tell their moment from none, and go on in order. -/
def orderly (config : Config Sie SieCall) : Schedule SieRequest SieReply → Prop
  | .call (.tick _) | .call (.respond _ _) => config.shared.now ≠ 0
  | .call (.wait _) => True
  | .resume index reply => ∀ call ∈ config.pending[index]?, call.Orderly config.shared reply

instance (config : Config Sie SieCall) : ∀ label, Decidable (orderly config label) := by
  intro label
  unfold orderly
  split <;> infer_instance

/-- The states as the tick would write them if nothing followed. -/
def TickStep.outcome (run : TickRun) : TickStep → SuggestionStates
  | .command _ | .notify _ _ | .record => dropIdle run.live run.states
  | .announce suggestion | .recordOff suggestion =>
    dropIdle run.live (run.executed suggestion).states
  | .write => run.states

/-- Ticks and responses as calls that write their copies of the states back. -/
def sieView : WriteBack SieCall SuggestionStates SieEvent where
  version
    | .evaluating tick | .readingStates tick => some tick.writes
    | .applying run _ => some run.tick.writes
    | .carryingOut response _ => some response.writes
    | .reading _ _ | .responding _ _ _ => none
  copy
    | .applying run step => some (step.outcome run)
    | .carryingOut response _ => some response.states
    | .reading _ _ | .evaluating _ | .readingStates _ | .responding _ _ _ => none
  acts
    | .applying run _ => run.acts
    | .reading _ _ | .evaluating _ | .readingStates _ | .responding _ _ _ | .carryingOut _ _ => []

def TickStep.suggestion : TickStep → Option Suggestion
  | .command suggestion | .announce suggestion | .recordOff suggestion | .notify suggestion _ =>
    some suggestion
  | .record | .write => none

structure Evaluated.Proper (tick : Evaluated) : Prop where
  late : tick.now ≠ 0
  keys : ∀ suggestion ∈ tick.suggestions, suggestion.key = .energyIdle suggestion.deviceId

structure TickRun.Proper (run : TickRun) : Prop where
  tick : run.tick.Proper
  rest : ∀ suggestion ∈ run.rest, suggestion ∈ run.tick.suggestions
  acts : ∀ event ∈ run.acts, event.isLaterNotice event.deviceId run.tick.now = false

/-- What is known of a call, whatever else is in flight. -/
def SieCall.Proper : SieCall → Prop
  | .reading now _ | .responding _ _ now => now ≠ 0
  | .evaluating tick | .readingStates tick => tick.Proper
  | .applying run step =>
    run.Proper ∧ ∀ suggestion ∈ step.suggestion, suggestion ∈ run.tick.suggestions
  | .carryingOut response _ => ∀ event ∈ response.event, event.RecordedBy response.states

structure SieSound (config : Config Sie SieCall) : Prop where
  proper : ∀ call ∈ config.pending, call.Proper
  writeBack : sieView.Sound SieEvent.RecordedBy (· ∈ outstanding config.shared.history)
    config.shared.states config.shared.writes config.pending

section Steps

variable {sie : Sie} {run : TickRun} {suggestion : Suggestion} {event : SieEvent}

variable {key : SuggestionKey} {now : Nat} {more : List SieCall} {next : Sie}
    {live : List SuggestionKey} {states : SuggestionStates} {state : SuggestionState}
    {call : SieCall} {step : TickStep}

theorem recordedBy_set_ne (differs : event.key ≠ key)
    (recorded : event.RecordedBy (dropIdle live states)) :
    event.RecordedBy (dropIdle live (states.set key state)) := by
  rw [SieEvent.RecordedBy, stateOf, dropIdle, OrderedMap.get_filter, OrderedMap.get_set,
    if_neg differs]
  rw [SieEvent.RecordedBy, stateOf, dropIdle, OrderedMap.get_filter] at recorded
  exact recorded

theorem recordedBy_set (same : event.key = key) (isLive : key ∈ live)
    (recorded : event.RecordedIn state) :
    event.RecordedBy (dropIdle live (states.set key state)) := by
  subst same
  rw [SieEvent.RecordedBy, stateOf_dropIdle (.inl isLive), stateOf_set, if_pos rfl]
  exact recorded

theorem recordedBy_set_of_keeps (isLive : key ∈ live)
    (recorded : event.RecordedBy (dropIdle live states))
    (keeps : event.key = key → event.RecordedIn (stateOf states key) → event.RecordedIn state) :
    event.RecordedBy (dropIdle live (states.set key state)) := by
  by_cases same : event.key = key
  · rw [SieEvent.RecordedBy, same, stateOf_dropIdle (.inl isLive)] at recorded
    exact recordedBy_set same isLive (keeps same recorded)
  · exact recordedBy_set_ne same recorded

theorem TickRun.mem_live (member : suggestion ∈ run.tick.suggestions) :
    suggestion.key ∈ run.live := mem_map_of_mem member

theorem recordedBy_executed (late : run.tick.now ≠ 0) (member : suggestion ∈ run.tick.suggestions)
    (recorded : event.RecordedBy (dropIdle run.live run.states)) :
    event.RecordedBy (dropIdle run.live (run.executed suggestion).states) :=
  recordedBy_set_of_keeps (TickRun.mem_live member) recorded fun _ said => said.executed late

theorem recordedBy_notified (member : suggestion ∈ run.tick.suggestions)
    (keyed : suggestion.key = .energyIdle suggestion.deviceId)
    (inTime : event.isLaterNotice suggestion.deviceId run.tick.now = false)
    (recorded : event.RecordedBy (dropIdle run.live run.states)) :
    event.RecordedBy (dropIdle run.live (run.notified suggestion).states) := by
  refine recordedBy_set_of_keeps (TickRun.mem_live member) recorded fun same said => ?_
  have device : event.deviceId = suggestion.deviceId := by
    rw [keyed] at same
    exact SuggestionKey.energyIdle.inj same
  rw [← device] at inTime
  exact said.notified inTime

theorem TickRun.proceed_cases {rest : List Suggestion} (late : run.tick.now ≠ 0)
    (within : ∀ suggestion ∈ rest, suggestion ∈ run.tick.suggestions) :
    ∃ next step, run.proceed rest = .applying next step ∧ next.tick = run.tick ∧
      next.acts = run.acts ∧ (∀ suggestion ∈ next.rest, suggestion ∈ run.tick.suggestions) ∧
      (∀ suggestion ∈ step.suggestion, suggestion ∈ run.tick.suggestions) ∧
      ∀ event : SieEvent, event.RecordedBy (dropIdle run.live run.states) →
        event.RecordedBy (step.outcome next) := by
  induction rest with
  | nil =>
    exact ⟨_, .write, rfl, rfl, rfl, by simp, by simp [TickStep.suggestion],
      fun event recorded => recorded⟩
  | cons suggestion rest ih =>
    have later : ∀ suggestion ∈ rest, suggestion ∈ run.tick.suggestions :=
      fun other member => within other (.tail _ member)
    have own := within suggestion (.head _)
    rw [TickRun.proceed]
    split
    · exact ih later
    · refine ⟨_, _, rfl, rfl, rfl, later, ?_, ?_⟩
      · intro other member
        split at member
        all_goals
          cases member
          exact own
      · intro event recorded
        split
        · exact recordedBy_executed late own recorded
        · exact recorded
    · refine ⟨_, _, rfl, rfl, rfl, later, ?_, fun event recorded => recorded⟩
      intro other member
      cases member
      exact own

theorem key_of_mem_suggestionsOf {onSince : OrderedMap DeviceId Nat} {input : SieInput}
    (member : suggestion ∈ suggestionsOf onSince input now) :
    suggestion.key = .energyIdle suggestion.deviceId := by
  simp only [suggestionsOf, evaluateEnergyIntelligence, mem_map] at member
  rcases member with ⟨evaluation, _, rfl⟩
  rfl

theorem mem_outstanding_observed {input : SieInput}
    (member : event ∈ outstanding (sie.observed input now).history) :
    event ∈ outstanding sie.history := by
  have acts : event.off = none := by
    rcases mem_outstanding_iff.mp member with ⟨_, _, _, acts, _⟩
    exact acts
  rcases mem_outstanding_append member with old | seen
  · exact old
  · rcases mem_map.mp seen with ⟨deviceId, _, rfl⟩
    cases acts

variable {before after : List SieCall}

theorem properAll_advance (proper : ∀ other ∈ before ++ call :: after, other.Proper)
    (recent : ∀ other ∈ more, other.Proper) :
    ∀ other ∈ before ++ more ++ after, other.Proper := by
  intro other member
  simp only [mem_append, mem_cons] at member proper
  rcases member with (left | middle) | right
  · exact proper other (.inl left)
  · exact recent other middle
  · exact proper other (.inr (.inr right))

theorem SieSound.pass (sound : SieSound ⟨sie, before ++ call :: after⟩)
    (history : ∀ event ∈ outstanding next.history, event ∈ outstanding sie.history)
    (states : next.states = sie.states) (writes : next.writes = sie.writes)
    (idle : sieView.acts call = []) (proper : ∀ other ∈ more, other.Proper)
    (versions : ∀ other ∈ more, ∀ version ∈ sieView.version other, version ≤ sie.writes)
    (copies : ∀ other ∈ more, sieView.copy other = none) :
    SieSound ⟨next, before ++ more ++ after⟩ := by
  refine ⟨properAll_advance sound.proper proper, ?_⟩
  simp only [states, writes]
  refine sound.writeBack.advance ?_ ?_ versions ?_ ?_
  · exact fun event owing => .inl (history event owing)
  · simp [idle]
  · intro other member copy carries
    simp [copies other member] at carries
  · intro other member _ copy carries
    simp [copies other member] at carries

theorem SieSound.apply {step' : TickStep} {run' : TickRun}
    {events : List SieEvent} (sound : SieSound ⟨sie, before ++ .applying run step :: after⟩)
    (history : next.history = sie.history ++ events)
    (states : next.states = sie.states) (writes : next.writes = sie.writes)
    (tick : run'.tick = run.tick) (acts : run'.acts = run.acts ++ events)
    (proper : (SieCall.applying run' step').Proper)
    (records : ∀ event ∈ events, event.RecordedBy (step'.outcome run'))
    (keeps : ∀ event, event ∈ run.acts ∨ event ∈ outstanding sie.history →
      event.RecordedBy (step.outcome run) → event.RecordedBy (step'.outcome run')) :
    SieSound ⟨next, before ++ [.applying run' step'] ++ after⟩ := by
  have here : SieCall.applying run step ∈ before ++ .applying run step :: after := by simp
  have acted : ∀ event, event ∈ run'.acts → sieView.Held [.applying run' step'] event :=
    fun event member => ⟨_, mem_singleton_self _, member⟩
  refine ⟨properAll_advance sound.proper (by simpa using proper), ?_⟩
  simp only [states, writes, history]
  refine sound.writeBack.advance ?_ ?_ ?_ ?_ ?_
  · intro event owing
    refine (mem_outstanding_append owing).imp_right fun new => acted event ?_
    rw [acts]
    exact mem_append_right _ new
  · intro event member
    refine acted event ?_
    rw [acts]
    exact mem_append_left _ member
  · intro other member version found
    obtain rfl := mem_singleton.mp member
    refine sound.writeBack.versions _ here version ?_
    rw [Option.mem_def] at found ⊢
    rw [← found]
    simp [sieView, tick]
  · intro other member copy carries event done
    obtain rfl := mem_singleton.mp member
    cases carries
    have done : event ∈ run.acts ++ events := acts ▸ done
    rcases mem_append.mp done with old | new
    · exact keeps event (.inl old) (sound.writeBack.own _ here _ rfl event old)
    · exact records event new
  · intro other member fresh copy carries event owing
    obtain rfl := mem_singleton.mp member
    cases carries
    have fresh : sieView.version (.applying run step) = some sie.writes := by
      rw [← fresh]
      simp [sieView, tick]
    exact (sound.writeBack.copies _ here fresh _ rfl event owing).imp_right
      (keeps event (.inr owing))

theorem SieSound.giveUp (sound : SieSound ⟨sie, before ++ call :: after⟩)
    (idle : sieView.acts call = []) : SieSound ⟨sie, before ++ [] ++ after⟩ :=
  sound.pass (fun _ owing => owing) rfl rfl idle (by simp) (by simp) (by simp)

theorem SieSound.proceed {run' : TickRun}
    (sound : SieSound ⟨sie, before ++ .applying run step :: after⟩)
    (proper : run'.Proper) (tick : run'.tick = run.tick) (acts : run'.acts = run.acts)
    (keeps : ∀ event : SieEvent, event.RecordedBy (step.outcome run) →
      event.RecordedBy (dropIdle run'.live run'.states)) :
    SieSound ⟨sie, before ++ [run'.proceed run'.rest] ++ after⟩ := by
  rcases run'.proceed_cases proper.tick.late proper.rest with
    ⟨next, onward, goesOn, sameTick, sameActs, rest, about, records⟩
  rw [goesOn]
  have nothing : sie.history = sie.history ++ [] := (append_nil _).symm
  refine sound.apply nothing rfl rfl (sameTick.trans tick) ?_ ?_ (by simp) ?_
  · rw [sameActs, acts, append_nil]
  · refine ⟨⟨sameTick ▸ proper.tick, ?_, ?_⟩, ?_⟩
    · rw [sameTick]
      exact rest
    · rw [sameActs, sameTick]
      exact proper.acts
    · rw [sameTick]
      exact about
  · exact fun event _ recorded => records event (keeps event recorded)

theorem TickRun.Proper.act (proper : run.Proper) {event : SieEvent}
    (inTime : event.isLaterNotice event.deviceId run.tick.now = false) :
    (run.act event).Proper := by
  refine ⟨proper.tick, proper.rest, ?_⟩
  intro other member
  rcases mem_append.mp member with old | new
  · exact proper.acts other old
  · obtain rfl := mem_singleton.mp new
    exact inTime

theorem recordedBy_executed_self (proper : run.Proper)
    (own : suggestion ∈ run.tick.suggestions) (moment : Nat) :
    (SieEvent.switchedOff suggestion.deviceId moment).RecordedBy
      (dropIdle run.live (run.executed suggestion).states) := by
  refine recordedBy_set (proper.tick.keys suggestion own).symm (TickRun.mem_live own) ?_
  simp [SieEvent.RecordedIn, SuggestionState.isExecuted, proper.tick.late]

theorem recordedBy_notified_self (proper : run.Proper)
    (own : suggestion ∈ run.tick.suggestions) (gap : JsNumber) :
    (SieEvent.notified suggestion.deviceId run.tick.now gap).RecordedBy
      (dropIdle run.live (run.notified suggestion).states) := by
  refine recordedBy_set (proper.tick.keys suggestion own).symm (TickRun.mem_live own) ?_
  exact ⟨by simp, run.tick.now, rfl, le_refl _⟩

theorem outcome_act_notified (event : SieEvent) :
    TickStep.record.outcome ((run.act event).notified suggestion) =
      dropIdle run.live (run.notified suggestion).states := rfl

theorem SieEvent.isLaterNotice_of_own {deviceId : DeviceId}
    (own : event.isLaterNotice event.deviceId now = false) :
    event.isLaterNotice deviceId now = false := by
  cases event with
  | notified other moment gap =>
    have before : moment ≤ now := by simpa [isLaterNotice, SieEvent.deviceId] using own
    simp [isLaterNotice, before]
  | seenOff | responded | switchedOff | announced => rfl

theorem SieSound.applying {reply : SieReply}
    (sound : SieSound ⟨sie, before ++ .applying run step :: after⟩)
    (met : step.Orderly sie run reply) (resumed : run.resume sie step reply = some (next, more)) :
    SieSound ⟨next, before ++ more ++ after⟩ := by
  have here : SieCall.applying run step ∈ before ++ .applying run step :: after := by simp
  rcases sound.proper _ here with ⟨proper, about⟩
  cases step with
  | command suggestion =>
    have own := about suggestion rfl
    cases reply with
    | done =>
      cases resumed
      refine sound.apply rfl rfl rfl rfl rfl ⟨proper.act rfl, about⟩ ?_ ?_
      · intro event member
        obtain rfl := mem_singleton.mp member
        exact recordedBy_executed_self proper own run.tick.now
      · exact fun event _ recorded => recordedBy_executed proper.tick.late own recorded
    | rejected =>
      cases resumed
      exact sound.giveUp (met rfl)
  | announce suggestion =>
    have own := about suggestion rfl
    cases reply with
    | done =>
      cases resumed
      refine sound.apply rfl rfl rfl rfl rfl ⟨proper.act rfl, about⟩ ?_ ?_
      · intro event member
        obtain rfl := mem_singleton.mp member
        exact recordedBy_executed_self proper own run.tick.now
      · exact fun event _ recorded => recorded
    | rejected =>
      cases resumed
      exact sound.giveUp (met rfl)
  | recordOff suggestion =>
    cases resumed
    have proper : (run.executed suggestion).Proper := ⟨proper.tick, proper.rest, proper.acts⟩
    exact sound.proceed proper rfl rfl fun event recorded => recorded
  | notify suggestion kind =>
    have own := about suggestion rfl
    cases reply with
    | done =>
      cases resumed
      have acted : (run.act (.notified suggestion.deviceId run.tick.now
          run.tick.settings.reminderMs)).Proper :=
        proper.act (by simp [SieEvent.isLaterNotice])
      refine sound.apply rfl rfl rfl rfl rfl
        ⟨⟨acted.tick, acted.rest, acted.acts⟩, by simp [TickStep.suggestion]⟩ ?_ ?_
      · intro event member
        rw [outcome_act_notified, mem_singleton.mp member]
        exact recordedBy_notified_self proper own _
      · intro event known recorded
        rw [outcome_act_notified]
        refine recordedBy_notified own (proper.tick.keys suggestion own) ?_ recorded
        exact known.elim (fun acted => SieEvent.isLaterNotice_of_own (proper.acts event acted))
          (met.2 event)
    | rejected =>
      cases resumed
      exact sound.giveUp (met.1 rfl)
  | record =>
    cases resumed
    exact sound.proceed proper rfl rfl fun event recorded => recorded
  | write =>
    cases reply with
    | done =>
      cases resumed
      have fresh : sieView.version (.applying run .write) = some sie.writes :=
        congrArg some (met.2 rfl)
      have written : sieView.Sound SieEvent.RecordedBy (· ∈ outstanding sie.history)
          run.states (sie.writes + 1) (before ++ after) :=
        sound.writeBack.finish fresh rfl fun event owing => .inl owing
      refine ⟨properAll_advance sound.proper (by simp), ?_⟩
      rw [append_nil]
      exact written
    | rejected =>
      cases resumed
      exact sound.giveUp (met.1 rfl)

theorem Undropped.recordedBy {suggestions : List Suggestion} (kept : Undropped sie suggestions)
    (owing : event ∈ outstanding sie.history) (recorded : event.RecordedBy sie.states) :
    event.RecordedBy
      (dropIdle (suggestions.map Suggestion.key) (endEpisodes sie.onSince sie.states)) := by
  have stays := recorded.endEpisodes fun episodic => (kept event owing episodic).1
  refine stays.dropIdle fun episodic => ?_
  rcases kept event owing episodic with ⟨isOn, lasts⟩
  have goesOn : hasEnded sie.onSince event.key = false := by
    simp [hasEnded, SieEvent.key, SuggestionKey.device, isOn]
  rw [stateOf_endEpisodes goesOn]
  exact lasts

theorem SieSound.readStates {tick : Evaluated}
    (sound : SieSound ⟨sie, before ++ .readingStates tick :: after⟩)
    (met : Undropped sie tick.suggestions) :
    SieSound ⟨sie, before ++ [TickRun.proceed ⟨tick, tick.suggestions,
      endEpisodes sie.onSince sie.states, []⟩ tick.suggestions] ++ after⟩ := by
  have here : SieCall.readingStates tick ∈ before ++ .readingStates tick :: after := by simp
  have proper : tick.Proper := sound.proper _ here
  rcases @TickRun.proceed_cases ⟨tick, tick.suggestions, endEpisodes sie.onSince sie.states, []⟩
    tick.suggestions proper.late (fun _ member => member) with
    ⟨next, step, goesOn, sameTick, sameActs, rest, about, records⟩
  have idle : next.acts = [] := sameActs
  rw [goesOn]
  refine ⟨properAll_advance sound.proper ?_, sound.writeBack.advance ?_ ?_ ?_ ?_ ?_⟩
  · intro other member
    obtain rfl := mem_singleton.mp member
    refine ⟨⟨sameTick ▸ proper, ?_, ?_⟩, ?_⟩
    · rw [sameTick]
      exact rest
    · simp [idle]
    · rw [sameTick]
      exact about
  · exact fun event owing => .inl owing
  · simp [sieView]
  · intro other member version found
    obtain rfl := mem_singleton.mp member
    refine sound.writeBack.versions _ here version ?_
    rw [Option.mem_def] at found ⊢
    rw [← found]
    simp [sieView, sameTick]
  · intro other member copy _ event done
    obtain rfl := mem_singleton.mp member
    simp [sieView, idle] at done
  · intro other member _ copy carries event owing
    obtain rfl := mem_singleton.mp member
    cases carries
    exact (sound.writeBack.stored event owing).imp_right fun recorded =>
      records event (met.recordedBy owing recorded)

theorem SieSound.readResponse {action : SuggestionAction} {step : ResponseStep}
    (sound : SieSound ⟨sie, before ++ .responding key action now :: after⟩)
    (met : IgnoresInTime sie key action now) :
    SieSound ⟨sie, before ++ [.carryingOut (.read sie key action now) step] ++ after⟩ := by
  have here : SieCall.responding key action now ∈
      before ++ .responding key action now :: after := by simp
  have late : now ≠ 0 := sound.proper _ here
  refine ⟨properAll_advance sound.proper ?_, sound.writeBack.advance ?_ ?_ ?_ ?_ ?_⟩
  · intro other member
    obtain rfl := mem_singleton.mp member
    intro event responded
    cases key with
    | energyIdle deviceId =>
      obtain rfl := mem_singleton.mp responded
      have same : (SieEvent.responded deviceId action now).key = .energyIdle deviceId := rfl
      rw [SieEvent.RecordedBy, ResponseRun.read, stateOf_set, if_pos same]
      exact SieEvent.recordedIn_applyResponse deviceId action late
    | other text => cases responded
  · exact fun event owing => .inl owing
  · simp [sieView]
  · intro other member version found
    obtain rfl := mem_singleton.mp member
    cases found
    exact Nat.le_refl _
  · intro other member copy _ event done
    obtain rfl := mem_singleton.mp member
    cases done
  · intro other member _ copy carries event owing
    obtain rfl := mem_singleton.mp member
    cases carries
    refine (sound.writeBack.stored event owing).imp_right fun recorded => ?_
    rw [SieEvent.RecordedBy, ResponseRun.read, stateOf_set]
    split
    · rename_i same
      rw [SieEvent.RecordedBy, same] at recorded
      refine recorded.applyResponse late fun ignores => ?_
      refine met ignores event.deviceId ?_ event owing
      rw [← same]
      rfl
    · exact recorded

theorem SieSound.carryingOut {response : ResponseRun} {step : ResponseStep} {reply : SieReply}
    (sound : SieSound ⟨sie, before ++ .carryingOut response step :: after⟩)
    (met : step.Orderly sie response reply)
    (resumed : response.resume sie step reply = some (next, more)) :
    SieSound ⟨next, before ++ more ++ after⟩ := by
  have here : SieCall.carryingOut response step ∈
      before ++ .carryingOut response step :: after := by simp
  have goOn (step' : ResponseStep) :
      SieSound ⟨sie, before ++ [.carryingOut response step'] ++ after⟩ := by
    refine ⟨properAll_advance sound.proper ?_, sound.writeBack.advance ?_ ?_ ?_ ?_ ?_⟩
    · intro other member
      obtain rfl := mem_singleton.mp member
      exact sound.proper (.carryingOut response step) here
    · exact fun event owing => .inl owing
    · simp [sieView]
    · intro other member
      obtain rfl := mem_singleton.mp member
      exact sound.writeBack.versions (.carryingOut response step) here
    · intro other member
      obtain rfl := mem_singleton.mp member
      exact sound.writeBack.own (.carryingOut response step) here
    · intro other member
      obtain rfl := mem_singleton.mp member
      exact sound.writeBack.copies (.carryingOut response step) here
  have giveUp : SieSound ⟨sie, before ++ [] ++ after⟩ := sound.giveUp rfl
  cases step with
  | command | getRate | getSettings | setSettings =>
    cases reply <;> cases resumed
    · exact goOn _
    · exact giveUp
  | record =>
    cases resumed
    exact goOn _
  | write =>
    cases reply with
    | done =>
      cases resumed
      have fresh : sieView.version (.carryingOut response .write) = some sie.writes :=
        congrArg some (met rfl)
      have responded := sound.proper _ here
      have written : sieView.Sound SieEvent.RecordedBy
          (· ∈ outstanding (sie.history ++ response.event)) response.states (sie.writes + 1)
          (before ++ after) := by
        refine sound.writeBack.finish fresh rfl fun event owing => ?_
        exact (mem_outstanding_append owing).imp_right (responded event)
      refine ⟨properAll_advance sound.proper (by simp), ?_⟩
      rw [append_nil]
      exact written
    | rejected =>
      cases resumed
      exact giveUp

end Steps

theorem sieSound_step : ∀ config label next, SieSound config → orderly config label →
    sieProgram.machine.step config label = some next → SieSound next := by
  intro config label next sound met step
  cases label with
  | call request =>
    obtain rfl := Program.step_call_eq_some.mp step
    cases request with
    | tick input | respond key action =>
      refine ⟨?_, sound.writeBack.start (by simp [sieProgram, Sie.start, sieView])
        (by simp [sieProgram, Sie.start, sieView])⟩
      intro call member
      rcases mem_append.mp member with old | new
      · exact sound.proper call old
      · obtain rfl := mem_singleton.mp new
        exact met
    | wait milliseconds =>
      simpa [sieProgram, Sie.start] using ⟨sound.proper, sound.writeBack⟩
  | resume index reply =>
    rcases Program.step_resume_eq_some.mp step with
      ⟨before, call, after, shared, more, split, rfl, resumed, rfl⟩
    have met : call.Orderly config.shared reply := met call (Program.getElem?_pending split)
    cases config with
    | mk sie pending =>
    obtain rfl : pending = before ++ call :: after := split
    have here : call ∈ before ++ call :: after := by simp
    cases call with
    | reading now input =>
      cases reply with
      | done =>
        cases resumed
        refine sound.pass (fun event owing => mem_outstanding_observed owing) rfl rfl rfl
          ?_ ?_ ?_
        · intro other member
          obtain rfl := mem_singleton.mp member
          exact ⟨sound.proper _ here, fun _ made => key_of_mem_suggestionsOf made⟩
        · simp [sieView]
        · simp [sieView]
      | rejected =>
        cases resumed
        exact sound.giveUp rfl
    | evaluating tick =>
      cases reply with
      | done =>
        cases resumed
        refine sound.pass (fun event owing => owing) rfl rfl rfl ?_ ?_ ?_
        · intro other member
          obtain rfl := mem_singleton.mp member
          exact sound.proper (.evaluating tick) here
        · intro other member
          obtain rfl := mem_singleton.mp member
          exact sound.writeBack.versions (.evaluating tick) here
        · simp [sieView]
      | rejected => cases resumed
    | readingStates tick =>
      cases reply with
      | done =>
        cases resumed
        exact sound.readStates (met rfl)
      | rejected =>
        cases resumed
        exact sound.giveUp rfl
    | applying run tickStep => exact sound.applying met resumed
    | responding key action now =>
      cases reply with
      | done =>
        cases resumed
        exact sound.readResponse (met rfl)
      | rejected =>
        cases resumed
        exact sound.giveUp rfl
    | carryingOut response responseStep => exact sound.carryingOut met resumed

theorem sieSound_initial (now : Nat) (states : SuggestionStates) :
    SieSound (Program.idle (.initial now states)) := by
  refine ⟨by simp [Program.idle], (WriteBack.Sound.initial states 0).weaken ?_⟩
  intro event owing
  cases owing

/-- Responses and notifications are recorded in every run whose calls go on in order. -/
theorem responses_survive (now : Nat) (states : SuggestionStates)
    (labels : List (Schedule SieRequest SieReply))
    (guarded : sieProgram.machine.Guarded orderly (Program.idle (.initial now states)) labels) :
    sieProgram.machine.Throughout ResponsesSurvive (Program.idle (.initial now states)) labels := by
  apply (Machine.throughout_of_guarded sieSound_step (sieSound_initial now states) guarded).mono
  rintro ⟨sie, pending⟩ sound
  refine ⟨?_⟩
  rintro rfl event owing
  exact sound.writeBack.settled owing

/-- A lamp without a room is on while users are online. -/
def lampLeftOn (online : List String) : SieInput where
  zones := []
  online := online
  devices := [⟨"lamp", none, true, some (.finite 40), none⟩]
  settings := ⟨.notifyOnly, none, none⟩

/-- The lamp is seen, its user is notified twenty minutes later and then keeps it on. -/
theorem kept_lamp_is_recorded :
    sieProgram.machine.Throughout ResponsesSurvive (Program.idle (.initial 1 .empty))
      (.call (.tick (lampLeftOn [])) :: List.replicate 4 (.resume 0 .done) ++
        [.call (.wait 1200000), .call (.tick (lampLeftOn []))] ++
        List.replicate 6 (.resume 0 .done) ++
        [.call (.respond (.energyIdle "lamp") .keepOn)] ++ List.replicate 3 (.resume 0 .done) ++
        .call (.tick (lampLeftOn [])) :: List.replicate 4 (.resume 0 .done)) :=
  responses_survive 1 .empty _ (by decide +kernel)

/-- The user keeps the lamp on while the tick still awaits its notification. -/
def keptOnMeanwhile : List (Schedule SieRequest SieReply) :=
  .call (.tick (lampLeftOn [])) :: List.replicate 4 (.resume 0 .done) ++
    [.call (.wait 1200000), .call (.tick (lampLeftOn []))] ++ List.replicate 3 (.resume 0 .done) ++
    [.call (.respond (.energyIdle "lamp") .keepOn)] ++ List.replicate 3 (.resume 1 .done) ++
    List.replicate 3 (.resume 0 .done)

theorem keptOnMeanwhile_runs :
    (sieProgram.machine.run (Program.idle (.initial 1 .empty)) keptOnMeanwhile).isSome = true := by
  decide +kernel

/-- The tick writes over the response. -/
theorem response_during_tick_is_lost : ¬ ∀ labels : List (Schedule SieRequest SieReply),
      sieProgram.machine.Throughout ResponsesSurvive (Program.idle (.initial 1 .empty)) labels := by
  intro survive
  have last := Machine.property_of_throughout (survive keptOnMeanwhile)
    (Option.some_get keptOnMeanwhile_runs).symm
  have kept : (stateOf (Option.get _ keptOnMeanwhile_runs).shared.states
      (.energyIdle "lamp")).keptOnEpisode = true :=
    last.recorded (by decide +kernel) (.responded "lamp" .keepOn 1200001) (by decide +kernel)
  revert kept
  decide +kernel

end SupremeOs.Gateway
