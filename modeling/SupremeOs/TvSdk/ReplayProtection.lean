import Mathlib.Data.List.Nodup
import SupremeOs.Support.Histories
import SupremeOs.TvSdk.TvAgentSessionRegistry

/-!
# Replay protection of the television agents

No message should be accepted twice, the numbers accepted under a binding
should increase, and nothing should be accepted between the end of a binding
and the next one.  An agent is bound with a session that it has not had before.

A binding starts with the lowest number again, and a message that names no
session belongs to every one.  Such a message is accepted again under a later
binding, unless a higher number has been accepted there.  A number that is not
a number is neither above nor below another one.
-/

namespace SupremeOs.TvSdk

open Support DomainModel List OrderedMap Option

variable {Content : Type}

def RegistryEvent.acceptedMessage : RegistryEvent Content → Option (AgentMessage Content)
  | .accepted message _ => some message
  | .bound _ _ _ | .revoked _ | .unbound _ => none

def RegistryEvent.acceptedUnder (binding : Nat) : RegistryEvent Content → Option JsNumber
  | .accepted message other => if other = binding then some message.sequence else none
  | .bound _ _ _ | .revoked _ | .unbound _ => none

def acceptedMessages (history : List (RegistryEvent Content)) : List (AgentMessage Content) :=
  history.filterMap RegistryEvent.acceptedMessage

def acceptedUnder (binding : Nat) (history : List (RegistryEvent Content)) : List JsNumber :=
  history.filterMap (RegistryEvent.acceptedUnder binding)

structure ReplaySafe (registry : TvAgentSessionRegistry Content) : Prop where
  /-- No message is accepted twice, under the same binding or under a later one. -/
  once : (acceptedMessages registry.history).Nodup
  increasing : ∀ binding, (acceptedUnder binding registry.history).Pairwise fun earlier later =>
    earlier.less later = true
  /-- Nothing of an agent is accepted from the end of its binding to the next one. -/
  closed : ∀ earlier ends between message binding later,
    registry.history = (earlier ++ ends :: between) ++ .accepted message binding :: later →
    ends = .revoked message.agentId ∨ ends = .unbound message.agentId →
    ∃ sessionId next, .bound message.agentId sessionId next ∈ between

def RegistryEvent.sessionOf (agentId : String) : RegistryEvent Content → Option String
  | .bound other sessionId _ => if other = agentId then some sessionId else none
  | .revoked _ | .unbound _ | .accepted _ _ => none

/-- An agent is bound with a session it has not had before. -/
def bindsFresh (registry : TvAgentSessionRegistry Content) : RegistryCall Content → Prop
  | .bind agentId _ sessionId =>
    sessionId ∉ registry.history.filterMap (RegistryEvent.sessionOf agentId)
  | .revoke _ | .unbind _ | .authorize _ => True

instance (registry : TvAgentSessionRegistry Content) : ∀ call, Decidable (bindsFresh registry call) := by
  intro call
  unfold bindsFresh
  split <;> infer_instance

/--
Of the messages that pass the other checks, one that names no session and was
accepted under another binding has a number that is not above the last accepted
one; and after the first accepted number of the binding, no number is missing.
-/
def replayGuard (registry : TvAgentSessionRegistry Content) : RegistryCall Content → Prop
  | .authorize message =>
    ∀ bound, registry.identify message = .ok bound → (message.sessionId = none →
        (∃ binding, binding ≠ bound.binding ∧ .accepted message binding ∈ registry.history) →
        message.sequence.lessOrEqual bound.lastAcceptedSequence = true) ∧
      (acceptedUnder bound.binding registry.history ≠ [] →
        message.sequence ≠ .notANumber ∧ bound.lastAcceptedSequence ≠ .notANumber)
  | .bind _ _ _ | .revoke _ | .unbind _ => True

/-- Whether an event ends the binding of an agent or begins a new one. -/
def RegistryEvent.closes (agentId : String) : RegistryEvent Content → Option Bool
  | .bound other _ _ => if other = agentId then some false else none
  | .revoked other | .unbound other => if other = agentId then some true else none
  | .accepted _ _ => none

structure RegistrySound (registry : TvAgentSessionRegistry Content) : Prop where
  numbered : ∀ agentId sessionId binding, .bound agentId sessionId binding ∈ registry.history →
    binding < registry.binds
  owner : ∀ agentId sessionId other session binding,
    .bound agentId sessionId binding ∈ registry.history →
    .bound other session binding ∈ registry.history → agentId = other
  fresh : ∀ agentId sessionId binding other,
    .bound agentId sessionId binding ∈ registry.history →
    .bound agentId sessionId other ∈ registry.history → binding = other
  current : ∀ agentId bound, registry.agents.get agentId = some bound →
    .bound agentId bound.sessionId bound.binding ∈ registry.history
  /-- What is accepted names the session of its binding or none. -/
  accepted : ∀ message binding, .accepted message binding ∈ registry.history →
    ∃ sessionId, .bound message.agentId sessionId binding ∈ registry.history ∧
      ∀ named ∈ message.sessionId, named = sessionId
  last : ∀ agentId bound, registry.agents.get agentId = some bound → bound.lastAcceptedSequence =
      (acceptedUnder bound.binding registry.history).getLast?.getD (.finite (-1))
  closed : ∀ agentId bound, latest (RegistryEvent.closes agentId) registry.history = true →
    registry.agents.get agentId = some bound → bound.revoked = true

theorem registrySound_initial :
    RegistrySound (TvAgentSessionRegistry.initial : TvAgentSessionRegistry Content) where
  numbered := fun _ _ _ member => absurd member not_mem_nil
  owner := fun _ _ _ _ _ member => absurd member not_mem_nil
  fresh := fun _ _ _ _ member => absurd member not_mem_nil
  current := fun agentId bound known => by
    simp [TvAgentSessionRegistry.initial] at known
  accepted := fun _ _ member => absurd member not_mem_nil
  last := fun agentId bound known => by
    simp [TvAgentSessionRegistry.initial] at known
  closed := fun _ _ on => Bool.noConfusion on

theorem acceptedUnder_concat (binding : Nat) (history : List (RegistryEvent Content))
    (event : RegistryEvent Content) :
    acceptedUnder binding (history ++ [event]) =
      acceptedUnder binding history ++ (event.acceptedUnder binding).toList := by
  simp only [acceptedUnder, filterMap_append]
  cases same : event.acceptedUnder binding <;> simp [same]

theorem acceptedMessages_concat (history : List (RegistryEvent Content))
    (event : RegistryEvent Content) :
    acceptedMessages (history ++ [event]) =
      acceptedMessages history ++ event.acceptedMessage.toList := by
  simp only [acceptedMessages, filterMap_append]
  cases same : event.acceptedMessage <;> simp [same]

variable {registry : TvAgentSessionRegistry Content} {history : List (RegistryEvent Content)}
    {message : AgentMessage Content} {call : RegistryCall Content}

theorem mem_acceptedMessages :
    message ∈ acceptedMessages history ↔ ∃ binding, .accepted message binding ∈ history := by
  simp only [acceptedMessages, mem_filterMap]
  constructor
  · rintro ⟨event, member, same⟩
    cases event with
    | accepted other binding =>
      cases same
      exact ⟨binding, member⟩
    | bound agentId sessionId binding | revoked agentId | unbound agentId =>
      simp [RegistryEvent.acceptedMessage] at same
  · rintro ⟨binding, member⟩
    exact ⟨_, member, rfl⟩

theorem mem_acceptedUnder {binding : Nat} (member : .accepted message binding ∈ history) :
    message.sequence ∈ acceptedUnder binding history :=
  mem_filterMap.mpr ⟨_, member, by simp [RegistryEvent.acceptedUnder]⟩

theorem RegistrySound.acceptedUnder_binds
    (sound : RegistrySound registry) : acceptedUnder registry.binds registry.history = [] := by
  rw [acceptedUnder, filterMap_eq_nil_iff]
  intro event member
  cases event with
  | accepted message binding =>
    rcases sound.accepted message binding member with ⟨sessionId, bound, _⟩
    have earlier := sound.numbered _ _ _ bound
    exact if_neg (Nat.ne_of_lt earlier)
  | bound agentId sessionId binding | revoked agentId | unbound agentId => rfl

section Calls

variable {registry : TvAgentSessionRegistry Content}

section

variable (sound : RegistrySound registry)

include sound

theorem RegistrySound.ends {event : RegistryEvent Content} {agents : OrderedMap String BoundAgent}
    (noBinding : ∀ agentId sessionId binding, event ≠ .bound agentId sessionId binding)
    (noMessage : ∀ message binding, event ≠ .accepted message binding)
    (stands : ∀ agentId bound, agents.get agentId = some bound →
      ∃ before, registry.agents.get agentId = some before ∧
        bound.sessionId = before.sessionId ∧ bound.binding = before.binding ∧
        bound.lastAcceptedSequence = before.lastAcceptedSequence ∧
        (bound.revoked = false → before.revoked = false ∧ event.closes agentId ≠ some true)) :
    RegistrySound { registry with
      agents := agents, history := registry.history ++ [event] } := by
  have bound_iff : ∀ agentId sessionId binding,
      .bound agentId sessionId binding ∈ registry.history ++ [event] ↔
        .bound agentId sessionId binding ∈ registry.history := by
    intro agentId sessionId binding
    simp [(noBinding agentId sessionId binding).symm]
  have accepted_iff : ∀ message binding,
      .accepted message binding ∈ registry.history ++ [event] ↔
        .accepted message binding ∈ registry.history := by
    intro message binding
    simp [(noMessage message binding).symm]
  refine ⟨?_, ?_, ?_, ?_, ?_, ?_, ?_⟩
  · intro agentId sessionId binding member
    exact sound.numbered _ _ _ ((bound_iff _ _ _).mp member)
  · intro agentId sessionId other session binding member otherMember
    exact sound.owner _ _ _ _ _ ((bound_iff _ _ _).mp member)
      ((bound_iff _ _ _).mp otherMember)
  · intro agentId sessionId binding other member otherMember
    exact sound.fresh _ _ _ _ ((bound_iff _ _ _).mp member) ((bound_iff _ _ _).mp otherMember)
  · intro agentId bound known
    rcases stands agentId bound known with ⟨before, was, session, number, _⟩
    rw [session, number]
    exact (bound_iff _ _ _).mpr (sound.current agentId before was)
  · intro message binding member
    rcases sound.accepted _ _ ((accepted_iff _ _).mp member) with ⟨sessionId, bound, names⟩
    exact ⟨sessionId, (bound_iff _ _ _).mpr bound, names⟩
  · intro agentId bound known
    rcases stands agentId bound known with ⟨before, was, _, number, last, _⟩
    have none : event.acceptedUnder before.binding = none := by
      cases event with
      | accepted message binding => exact absurd rfl (noMessage message binding)
      | bound agentId sessionId binding | revoked agentId | unbound agentId => rfl
    rw [last, number, acceptedUnder_concat, none, toList_none, append_nil]
    exact sound.last agentId before was
  · intro agentId bound closed known
    rcases stands agentId bound known with ⟨before, was, _, _, _, live⟩
    by_contra notRevoked
    rcases live (eq_false_of_ne_true notRevoked) with ⟨open_, notClosed⟩
    rw [latest_concat] at closed
    have earlier : latest (RegistryEvent.closes agentId) registry.history = true := by
      cases marked : event.closes agentId with
      | none => simpa [marked] using closed
      | some value =>
        cases value with
        | true => exact absurd marked notClosed
        | false => simp [marked] at closed
    have revoked := sound.closed agentId before earlier was
    exact absurd (open_.symm.trans revoked) Bool.false_ne_true

theorem RegistrySound.revoke (agentId : String) :
    RegistrySound (registry.revoke agentId) := by
  apply sound.ends
  · simp
  · simp
  · intro other bound known
    cases found : registry.agents.get agentId with
    | none =>
      rw [found] at known
      have differs : agentId ≠ other := by
        rintro rfl
        simp [found] at known
      refine ⟨bound, known, rfl, rfl, rfl, fun live => ⟨live, ?_⟩⟩
      simp [RegistryEvent.closes, differs]
    | some before =>
      simp only [found, get_set] at known
      by_cases same : other = agentId
      · rw [if_pos same] at known
        cases known
        exact ⟨before, same ▸ found, rfl, rfl, rfl, fun live => Bool.noConfusion live⟩
      · rw [if_neg same] at known
        refine ⟨bound, known, rfl, rfl, rfl, fun live => ⟨live, ?_⟩⟩
        simp [RegistryEvent.closes, Ne.symm same]

theorem RegistrySound.unbind (agentId : String) :
    RegistrySound (registry.unbind agentId) := by
  apply sound.ends
  · simp
  · simp
  · intro other bound known
    rw [OrderedMap.get_delete] at known
    by_cases same : other = agentId
    · simp [same] at known
    · rw [if_neg same] at known
      refine ⟨bound, known, rfl, rfl, rfl, fun live => ⟨live, ?_⟩⟩
      simp [RegistryEvent.closes, Ne.symm same]

theorem RegistrySound.bind {agentId sessionId : String}
    (deviceId : String) (fresh : bindsFresh registry (.bind agentId deviceId sessionId)) :
    RegistrySound (registry.bind agentId deviceId sessionId) := by
  unfold TvAgentSessionRegistry.bind
  split
  · exact sound
  have unused : ∀ binding, .bound agentId sessionId binding ∉ registry.history :=
    fun binding member => fresh (mem_filterMap.mpr ⟨_, member, if_pos rfl⟩)
  have bound_iff : ∀ other session binding,
      .bound other session binding ∈ registry.history ++ [.bound agentId sessionId registry.binds] ↔
        .bound other session binding ∈ registry.history ∨
          other = agentId ∧ session = sessionId ∧ binding = registry.binds := by
    intro other session binding
    simp
  refine ⟨?_, ?_, ?_, ?_, ?_, ?_, ?_⟩
  · intro other session binding member
    rcases (bound_iff _ _ _).mp member with old | ⟨_, _, rfl⟩
    · exact Nat.lt_succ_of_lt (sound.numbered _ _ _ old)
    · exact Nat.lt_succ_self _
  · intro other session second secondSession binding member secondMember
    rcases (bound_iff _ _ _).mp member with old | ⟨rfl, _, rfl⟩ <;>
      rcases (bound_iff _ _ _).mp secondMember with secondOld | ⟨rfl, _, same⟩
    · exact sound.owner _ _ _ _ _ old secondOld
    · exact absurd same (Nat.ne_of_lt (sound.numbered _ _ _ old))
    · exact absurd rfl (Nat.ne_of_lt (sound.numbered _ _ _ secondOld))
    · rfl
  · intro other session binding second member secondMember
    rcases (bound_iff _ _ _).mp member with old | ⟨rfl, rfl, rfl⟩ <;>
      rcases (bound_iff _ _ _).mp secondMember with secondOld | ⟨sameAgent, sameSession, rfl⟩
    · exact sound.fresh _ _ _ _ old secondOld
    · subst sameAgent sameSession
      exact absurd old (unused _)
    · exact absurd secondOld (unused _)
    · rfl
  · exact forall_get_set ((bound_iff _ _ _).mpr (.inr ⟨rfl, rfl, rfl⟩))
      fun other bound _ known => (bound_iff _ _ _).mpr (.inl (sound.current other bound known))
  · intro message binding member
    have old : .accepted message binding ∈ registry.history := by simpa using member
    rcases sound.accepted _ _ old with ⟨session, bound, names⟩
    exact ⟨session, (bound_iff _ _ _).mpr (.inl bound), names⟩
  · simp only [acceptedUnder_concat, RegistryEvent.acceptedUnder, toList_none, append_nil]
    refine forall_get_set ?_ fun other bound _ known => sound.last other bound known
    rw [sound.acceptedUnder_binds]
    rfl
  · intro other bound closed known
    rw [get_set] at known
    rw [latest_concat] at closed
    by_cases same : other = agentId
    · simp [RegistryEvent.closes, same] at closed
    · rw [if_neg same] at known
      exact sound.closed _ _ (by simpa [RegistryEvent.closes, Ne.symm same] using closed) known

theorem RegistrySound.accept {message : AgentMessage Content}
    {bound : BoundAgent} (identified : registry.identify message = .ok bound) :
    RegistrySound { registry with
      agents := registry.agents.set message.agentId
        { bound with lastAcceptedSequence := message.sequence }
      history := registry.history ++ [.accepted message bound.binding] } := by
  rcases TvAgentSessionRegistry.identify_eq_ok identified with ⟨known, live, names⟩
  have bound_iff : ∀ other session binding,
      .bound other session binding ∈ registry.history ++ [.accepted message bound.binding] ↔
        .bound other session binding ∈ registry.history := by
    intro other session binding
    simp
  refine ⟨?_, ?_, ?_, ?_, ?_, ?_, ?_⟩
  · intro other session binding member
    exact sound.numbered _ _ _ ((bound_iff _ _ _).mp member)
  · intro other session second secondSession binding member secondMember
    exact sound.owner _ _ _ _ _ ((bound_iff _ _ _).mp member) ((bound_iff _ _ _).mp secondMember)
  · intro other session binding second member secondMember
    exact sound.fresh _ _ _ _ ((bound_iff _ _ _).mp member) ((bound_iff _ _ _).mp secondMember)
  · exact forall_get_set
      ((bound_iff _ _ _).mpr (sound.current message.agentId bound known))
      fun other held _ found => (bound_iff _ _ _).mpr (sound.current other held found)
  · intro other binding member
    rcases mem_append.mp member with old | new
    · rcases sound.accepted _ _ old with ⟨session, was, named⟩
      exact ⟨session, (bound_iff _ _ _).mpr was, named⟩
    · obtain ⟨rfl, rfl⟩ : other = message ∧ binding = bound.binding := by simpa using new
      exact ⟨bound.sessionId, (bound_iff _ _ _).mpr (sound.current _ _ known), names⟩
  · simp only [acceptedUnder_concat]
    refine forall_get_set (by simp [RegistryEvent.acceptedUnder]) ?_
    intro other held differs found
    have apart : bound.binding ≠ held.binding := by
      intro equal
      have own := sound.current _ _ known
      rw [equal] at own
      exact differs (sound.owner _ _ _ _ _ (sound.current _ _ found) own)
    simp only [RegistryEvent.acceptedUnder, if_neg apart, toList_none, append_nil]
    exact sound.last _ _ found
  · intro other held closed found
    rw [get_set] at found
    have before : latest (RegistryEvent.closes other) registry.history = true := by
      rwa [latest_concat_of_none rfl] at closed
    by_cases same : other = message.agentId
    · subst same
      have revoked := sound.closed _ _ before known
      exact absurd (live.symm.trans revoked) Bool.false_ne_true
    · rw [if_neg same] at found
      exact sound.closed _ _ before found

end

end Calls

theorem eq_or_less_of_getLast? {numbers : List JsNumber} {number last : JsNumber}
    (increasing : numbers.Pairwise fun earlier later => earlier.less later = true)
    (ends : numbers.getLast? = some last) (member : number ∈ numbers) :
    number = last ∨ number.less last = true := by
  rcases getLast?_eq_some_iff.mp ends with ⟨before, rfl⟩
  rcases mem_append.mp member with earlier | final
  · exact .inr ((pairwise_append.mp increasing).2.2 _ earlier _ (.head _))
  · exact .inl (mem_singleton.mp final)

theorem numbers_of_less {left right : JsNumber} (below : left.less right = true) :
    left ≠ .notANumber ∧ right ≠ .notANumber := by
  cases left <;> cases right <;> simp_all [JsNumber.less]

theorem numbers_of_lessOrEqual {left right : JsNumber} (below : left.lessOrEqual right = true) :
    left ≠ .notANumber ∧ right ≠ .notANumber := by
  simp only [JsNumber.lessOrEqual, Bool.or_eq_true, JsNumber.strictEquals,
    decide_eq_true_eq] at below
  rcases below with less | ⟨number, rfl⟩
  · exact numbers_of_less less
  · exact ⟨number, number⟩

section Exact

variable {registry : TvAgentSessionRegistry Content} {message : AgentMessage Content}
  {bound : BoundAgent}

theorem RegistrySound.ends_at (sound : RegistrySound registry)
    (identified : registry.identify message = .ok bound)
    (some_accepted : acceptedUnder bound.binding registry.history ≠ []) :
    (acceptedUnder bound.binding registry.history).getLast? = some bound.lastAcceptedSequence := by
  have last := sound.last _ _ (TvAgentSessionRegistry.identify_eq_ok identified).1
  rw [getLast?_eq_some_getLast some_accepted] at last ⊢
  rw [last, getD_some]

theorem RegistrySound.not_accepted (sound : RegistrySound registry)
    (safe : ReplaySafe registry) (identified : registry.identify message = .ok bound)
    (above : message.sequence.lessOrEqual bound.lastAcceptedSequence = false)
    (met : replayGuard registry (.authorize message)) :
    message ∉ acceptedMessages registry.history := by
  intro member
  rcases mem_acceptedMessages.mp member with ⟨binding, before⟩
  rcases TvAgentSessionRegistry.identify_eq_ok identified with ⟨known, _, names⟩
  by_cases same : binding = bound.binding
  · subst same
    have listed := mem_acceptedUnder before
    have nonempty := ne_nil_of_mem listed
    have number := (met bound identified).2 nonempty
    have below : message.sequence.lessOrEqual bound.lastAcceptedSequence = true := by
      rcases eq_or_less_of_getLast? (safe.increasing _) (sound.ends_at identified nonempty)
        listed with equal | less
      · simp [JsNumber.lessOrEqual, JsNumber.strictEquals, equal, number.2]
      · simp [JsNumber.lessOrEqual, less]
    exact absurd (above.symm.trans below) Bool.false_ne_true
  · cases named : message.sessionId with
    | none =>
      have below := (met bound identified).1 named ⟨binding, same, before⟩
      exact absurd (above.symm.trans below) Bool.false_ne_true
    | some session =>
      rcases sound.accepted _ _ before with ⟨earlierSession, made, earlierNames⟩
      have sameSession : earlierSession = bound.sessionId :=
        (earlierNames session named).symm.trans (names session named)
      subst sameSession
      exact same (sound.fresh _ _ _ _ made (sound.current _ _ known))

theorem RegistrySound.accept_safe_iff (sound : RegistrySound registry)
    (safe : ReplaySafe registry) (identified : registry.identify message = .ok bound)
    (above : message.sequence.lessOrEqual bound.lastAcceptedSequence = false) :
    ReplaySafe { registry with
        agents := registry.agents.set message.agentId
          { bound with lastAcceptedSequence := message.sequence }
        history := registry.history ++ [.accepted message bound.binding] } ↔
      replayGuard registry (.authorize message) := by
  rcases TvAgentSessionRegistry.identify_eq_ok identified with ⟨known, live, _⟩
  constructor
  · intro after other otherIdentified
    obtain rfl : bound = other := Except.ok.inj (identified.symm.trans otherIdentified)
    constructor
    · rintro _ ⟨binding, _, before⟩
      have once := after.once
      rw [acceptedMessages_concat] at once
      exact absurd rfl ((nodup_append.mp once).2.2 message
        (mem_acceptedMessages.mpr ⟨binding, before⟩) message (.head _))
    · intro nonempty
      have increasing := after.increasing bound.binding
      have ends := mem_of_getLast? (sound.ends_at identified nonempty)
      rw [acceptedUnder_concat] at increasing
      have less := (pairwise_append.mp increasing).2.2 _ ends message.sequence
        (by simp [RegistryEvent.acceptedUnder])
      exact (numbers_of_less less).symm
  · intro met
    refine ⟨?_, ?_, ?_⟩
    · rw [acceptedMessages_concat]
      refine nodup_append.mpr ⟨safe.once, nodup_singleton _, ?_⟩
      intro earlier listed later final
      rw [mem_singleton.mp final]
      rintro rfl
      exact sound.not_accepted safe identified above met listed
    · intro binding
      rw [acceptedUnder_concat]
      refine pairwise_append.mpr ⟨safe.increasing binding, ?_, ?_⟩
      · cases (RegistryEvent.accepted message bound.binding).acceptedUnder binding <;> simp
      · intro earlier listed later final
        simp only [RegistryEvent.acceptedUnder] at final
        split at final
        · rename_i same
          obtain rfl := mem_singleton.mp final
          subst same
          have nonempty := ne_nil_of_mem listed
          have number := (met bound identified).2 nonempty
          have less := JsNumber.less_of_not_lessOrEqual number.1 number.2 above
          rcases eq_or_less_of_getLast? (safe.increasing _) (sound.ends_at identified nonempty)
            listed with rfl | below
          · exact less
          · exact JsNumber.less_trans below less
        · exact absurd final not_mem_nil
    · intro earlier ends between other binding later split closes
      rcases concat_eq_append_cons.mp split with ⟨same, final, rfl⟩ | ⟨before, rfl, same⟩
      · obtain ⟨rfl, rfl⟩ := RegistryEvent.accepted.inj final
        by_contra unbound
        have closed : latest (RegistryEvent.closes message.agentId) registry.history = true := by
          refine latest_iff.mpr ⟨earlier, ends, between, same, ?_, ?_⟩
          · rcases closes with rfl | rfl <;> exact if_pos rfl
          · intro event member opens
            cases event with
            | bound agentId sessionId next =>
              by_cases own : agentId = message.agentId
              · exact unbound ⟨sessionId, next, own ▸ member⟩
              · simp [RegistryEvent.closes, own] at opens
            | revoked agentId | unbound agentId =>
              simp [RegistryEvent.closes] at opens
            | accepted _ _ => simp [RegistryEvent.closes] at opens
        exact absurd (live.symm.trans (sound.closed _ _ closed known)) Bool.false_ne_true
      · exact safe.closed earlier ends between other binding before same closes

end Exact

theorem ReplaySafe.concat (safe : ReplaySafe registry)
    {event : RegistryEvent Content} {agents : OrderedMap String BoundAgent} {binds : Nat}
    (noMessage : ∀ message binding, event ≠ .accepted message binding) :
    ReplaySafe ⟨agents, binds, registry.history ++ [event]⟩ := by
  have nothing : event.acceptedMessage = none := by
    cases event with
    | accepted message binding => exact absurd rfl (noMessage message binding)
    | bound agentId sessionId binding | revoked agentId | unbound agentId => rfl
  have nothingUnder : ∀ binding, event.acceptedUnder binding = none := by
    cases event with
    | accepted message binding => exact absurd rfl (noMessage message binding)
    | bound agentId sessionId binding | revoked agentId | unbound agentId => exact fun _ => rfl
  refine ⟨?_, ?_, ?_⟩
  · rw [acceptedMessages_concat, nothing, toList_none, append_nil]
    exact safe.once
  · intro binding
    rw [acceptedUnder_concat, nothingUnder, toList_none, append_nil]
    exact safe.increasing binding
  · intro earlier ends between message binding later split closes
    rcases concat_eq_append_cons.mp split with ⟨_, final, _⟩ | ⟨before, rfl, same⟩
    · exact absurd final (noMessage message binding)
    · exact safe.closed earlier ends between message binding before same closes

/-- One call keeps what is known, and is safe exactly if it meets the guard. -/
theorem registrySound_step {next : TvAgentSessionRegistry Content}
    (sound : RegistrySound registry) (safe : ReplaySafe registry)
    (unused : bindsFresh registry call) (step : agentRegistry.step registry call = some next) :
    RegistrySound next ∧ (ReplaySafe next ↔ replayGuard registry call) := by
  cases call with
  | bind agentId deviceId sessionId =>
    cases step
    refine ⟨sound.bind deviceId unused, iff_of_true ?_ trivial⟩
    unfold TvAgentSessionRegistry.bind
    split
    · exact safe
    · exact safe.concat (by simp)
  | revoke agentId =>
    cases step
    exact ⟨sound.revoke agentId, iff_of_true (safe.concat (by simp)) trivial⟩
  | unbind agentId =>
    cases step
    exact ⟨sound.unbind agentId, iff_of_true (safe.concat (by simp)) trivial⟩
  | authorize message =>
    cases step
    unfold TvAgentSessionRegistry.authorize
    split
    · rename_i rejection refused
      refine ⟨sound, iff_of_true safe ?_⟩
      intro bound identified
      simp [refused] at identified
    · rename_i bound identified
      split
      · rename_i below
        refine ⟨sound, iff_of_true safe ?_⟩
        intro other otherIdentified
        obtain rfl : bound = other := Except.ok.inj (identified.symm.trans otherIdentified)
        exact ⟨fun _ _ => below, fun _ => numbers_of_lessOrEqual below⟩
      · rename_i notBelow
        exact ⟨sound.accept identified,
          sound.accept_safe_iff safe identified (eq_false_of_ne_true notBelow)⟩

/-- A rejected message changes nothing. -/
def rejectsQuietly (registry : TvAgentSessionRegistry Content) (call : RegistryCall Content)
    (next : TvAgentSessionRegistry Content) : Prop :=
  ∀ message rejection, call = .authorize message →
    (registry.authorize message).2 = .error rejection → next = registry

theorem rejectsQuietly_step {next : TvAgentSessionRegistry Content}
    (step : agentRegistry.step registry call = some next) :
    rejectsQuietly registry call next := by
  rintro message rejection rfl rejected
  cases step
  unfold TvAgentSessionRegistry.authorize at rejected ⊢
  split
  · rfl
  · rename_i bound identified
    simp only [identified] at rejected
    split
    · rfl
    · rename_i above
      simp [above] at rejected

/-- Rejected messages change nothing in any run, and runs in which agents are bound with fresh
sessions are safe from replays exactly if they meet the guard. -/
theorem replay_protection_iff (calls : List (RegistryCall Content))
    (unused : agentRegistry.Guarded bindsFresh
      (TvAgentSessionRegistry.initial : TvAgentSessionRegistry Content) calls) :
    agentRegistry.EachStep rejectsQuietly TvAgentSessionRegistry.initial calls ∧
      (agentRegistry.Throughout ReplaySafe TvAgentSessionRegistry.initial calls ↔
        agentRegistry.Guarded replayGuard TvAgentSessionRegistry.initial calls) := by
  constructor
  · exact Machine.eachStep_of_step (fun _ _ _ _ _ => trivial)
      (fun _ _ _ _ step => rejectsQuietly_step step) trivial
  · apply Machine.throughout_iff_guarded_of_assumed RegistrySound bindsFresh
    · intro registry call next sound safe fresh step
      exact (registrySound_step sound safe fresh step).2
    · intro registry call next sound safe fresh _ step
      exact (registrySound_step sound safe fresh step).1
    · exact registrySound_initial
    · refine ⟨nodup_nil, fun _ => List.Pairwise.nil, ?_⟩
      intro earlier ends between message binding later split
      simp [TvAgentSessionRegistry.initial] at split
    · exact unused

/-- An agent that is bound, heard, revoked and bound again with a new session. -/
theorem replays_after_revocation : let message : AgentMessage Unit :=
      ⟨"agent", "device", some "first", some (.finite 0), ()⟩
    let calls : List (RegistryCall Unit) :=
      [.bind "agent" "device" "first", .authorize message, .authorize message,
        .revoke "agent", .authorize message, .bind "agent" "device" "second",
        .authorize message]
    agentRegistry.EachStep rejectsQuietly TvAgentSessionRegistry.initial calls ∧
      (agentRegistry.Throughout ReplaySafe TvAgentSessionRegistry.initial calls ↔
        agentRegistry.Guarded replayGuard TvAgentSessionRegistry.initial calls) :=
  replay_protection_iff _ (by decide +kernel)

/-- A message that names no session is accepted again after the agent has been bound again. -/
theorem message_without_session_is_replayed : ¬ ∀ calls : List (RegistryCall Unit),
      agentRegistry.Guarded bindsFresh
        (TvAgentSessionRegistry.initial : TvAgentSessionRegistry Unit) calls →
      agentRegistry.Throughout ReplaySafe TvAgentSessionRegistry.initial calls := by
  intro safe
  have throughout := safe
    [.bind "agent" "device" "first",
      .authorize ⟨"agent", "device", none, some (.finite 0), ()⟩,
      .bind "agent" "device" "second",
      .authorize ⟨"agent", "device", none, some (.finite 0), ()⟩] (by decide +kernel)
  have last := Machine.property_of_throughout throughout rfl
  have twice := last.once
  revert twice
  decide +kernel

end SupremeOs.TvSdk
