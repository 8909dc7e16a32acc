import SupremeOs.KeypadFramework.MappingEngine

/-!
# Every press fires its mappings

In every run in which no condition fails to be read, the executions of one
mapping do not overlap, they start in the order of their events, and an event
leads to one execution of every mapping that matches it.  A rejected read
breaks the chain of its mapping for good, because the rejected promise stays
the last one of the mapping.

The order of events is kept by two facts.  The chains serialize the firings of
a mapping; and of two handlers for the same input the earlier event's is never
behind in the list of mappings.
-/

namespace SupremeOs.KeypadFramework

open Support DomainModel List Option

namespace MappingEngine

/-- An execution awaits the state that a condition reads. -/
def awaitsRead : LinkStatus Phase KeypadMappingRun → Bool
  | .running (.reading _ _ _) => true
  | _ => false

def ReadsAnswered (engine : MappingEngine) : Label → Prop
  | .advance number (.rejected _) =>
    ∀ link ∈ engine.chains.promise number, awaitsRead link.status = false
  | _ => True

instance (engine : MappingEngine) : (label : Label) → Decidable (ReadsAnswered engine label) := by
  intro label
  unfold ReadsAnswered
  split <;> infer_instance

/-- The mapping of a promise is being executed. -/
def Runs (engine : MappingEngine) (number : Nat) (mappingId : String) : Prop :=
  ∃ link phase, engine.chains.promise number = some link ∧
    link.task.mappingId = mappingId ∧ link.status = .running phase

structure FiresOnce (loaded : LoadedMappings) (persists : Bool) (engine : MappingEngine) :
    Prop where
  /-- Executions of one mapping do not overlap. -/
  exclusive : ∀ first second mappingId, engine.Runs first mappingId →
    engine.Runs second mappingId → first = second
  /-- They start in the order of their events, so there is at most one for each. -/
  ordered : engine.executions.Pairwise fun earlier later =>
    earlier.mappingId = later.mappingId → earlier.seq < later.seq
  /-- There is one only for an event that matches the mapping. -/
  due : ∀ execution ∈ engine.executions, ∃ mapping ∈ loaded.mappings,
    mapping.id = execution.mappingId ∧ ∃ event, engine.events[execution.seq]? = some event ∧
        matchesEvent mapping event = true
  /-- When every handler is done, there is one for each such event. -/
  complete : engine.handlers = [] → ∀ seq event, engine.events[seq]? = some event →
    ∀ mapping ∈ loaded.mappings, matchesEvent mapping event = true →
      ⟨mapping.id, seq⟩ ∈ engine.executions
  /-- As long as a handler is pending, something can go on. -/
  live : engine.handlers ≠ [] → ∃ label next, (∀ event, label ≠ .input event) ∧
    engine.ReadsAnswered label ∧ step loaded persists engine label = some next

/-- The task of a promise goes on; nothing else changes but the memory of a behavior. -/
def Proceeds (number : Nat) (engine next : MappingEngine) : Prop :=
  ∃ status : LinkStatus Phase KeypadMappingRun, status ≠ .waiting ∧
    (∀ message, status ≠ .rejected message) ∧ next.chains = engine.chains.setStatus number status ∧
    next.handlers = engine.handlers ∧ next.events = engine.events ∧
    next.executions = engine.executions

theorem record_proceeds (number : Nat) (run : KeypadMappingRun) (engine : MappingEngine) :
    Proceeds number engine (engine.record number run) :=
  ⟨.resolved run, by simp, by simp, rfl, rfl, rfl, rfl⟩

theorem running_proceeds (number : Nat) (phase : Phase) (engine : MappingEngine) :
    Proceeds number engine (engine.setStatus number (.running phase)) :=
  ⟨.running phase, by simp, by simp, rfl, rfl, rfl, rfl⟩

theorem runActions_proceeds (number : Nat) (firing : Firing)
    (done : List KeypadMappingRunAction) (actions : List AutomationAction)
    (engine : MappingEngine) :
    Proceeds number engine (runActions number firing done actions engine) := by
  cases actions with
  | nil => exact record_proceeds number _ engine
  | cons action rest => exact running_proceeds number _ engine

theorem applyBehaviorState_proceeds (persists : Bool) (number : Nat) (firing : Firing)
    (next : KeypadMappingBehaviorState) (toRun : List AutomationAction) (engine : MappingEngine) :
    Proceeds number engine (applyBehaviorState persists number firing next toRun engine) := by
  cases persists with
  | true => exact running_proceeds number (.persisting toRun) engine
  | false => exact runActions_proceeds number firing [] toRun _

theorem resolveActionsToRun_proceeds (persists : Bool) (number : Nat) (firing : Firing)
    (engine : MappingEngine) :
    Proceeds number engine (resolveActionsToRun persists number firing engine) := by
  simp only [resolveActionsToRun]
  split
  · exact runActions_proceeds number firing [] _ engine
  · split
    · exact runActions_proceeds number firing [] [] engine
    · exact applyBehaviorState_proceeds persists number firing _ _ engine
  · split
    · exact record_proceeds number _ engine
    · exact running_proceeds number _ engine

theorem evaluateConditions_proceeds (persists : Bool) (number : Nat) (firing : Firing)
    (now : HubDate) (conditions : List AutomationCondition) (engine : MappingEngine) :
    Proceeds number engine
      (evaluateConditions persists number firing now conditions engine) := by
  induction conditions with
  | nil => exact resolveActionsToRun_proceeds persists number firing engine
  | cons condition rest ih =>
    cases condition with
    | deviceState test => exact running_proceeds number _ engine
    | timeWindow window =>
      simp only [evaluateConditions]
      split
      · exact ih
      · exact record_proceeds number _ engine

variable {engine : MappingEngine} {number : Nat} {link : Link Firing Phase KeypadMappingRun}
    {firings : FiringsView} {events : List KeypadInputEvent} {handler : Handler} {persists : Bool}
    {chains : Chains Firing String Phase KeypadMappingRun}

theorem advance_proceeds {firing : Firing} {next : MappingEngine} {phase : Phase} {reply : Reply}
    (answered : ∀ message, reply = .rejected message → awaitsRead (.running phase) = false)
    (advanced : advance persists number firing engine phase reply = some next) :
    Proceeds number engine next := by
  cases phase with
  | reading now test rest =>
    cases reply with
    | state found =>
      cases found with
      | none =>
        cases advanced
        exact record_proceeds number _ engine
      | some state =>
        cases advanced
        split
        · exact evaluateConditions_proceeds persists number firing now rest engine
        · exact record_proceeds number _ engine
    | rejected message => cases answered message rfl
    | _ => cases advanced
  | resolving deviceId =>
    cases reply with
    | resolved command remembered =>
      cases remembered with
      | none =>
        cases advanced
        exact runActions_proceeds number firing [] _ engine
      | some state =>
        cases advanced
        exact applyBehaviorState_proceeds persists number firing state _ engine
    | rejected message =>
      cases advanced
      exact record_proceeds number _ engine
    | _ => cases advanced
  | persisting toRun =>
    cases reply with
    | done =>
      cases advanced
      exact runActions_proceeds number firing [] toRun engine
    | rejected message =>
      cases advanced
      exact record_proceeds number _ engine
    | _ => cases advanced
  | acting action rest done =>
    cases reply with
    | done =>
      cases advanced
      exact runActions_proceeds number firing _ rest engine
    | rejected message =>
      cases advanced
      exact record_proceeds number _ engine
    | _ => cases advanced

theorem exists_advance (persists : Bool) (number : Nat) (firing : Firing)
    (engine : MappingEngine) (phase : Phase) :
    ∃ reply next, (∀ message, reply ≠ .rejected message) ∧
      advance persists number firing engine phase reply = some next := by
  cases phase with
  | reading now test rest => exact ⟨.state none, _, by simp, rfl⟩
  | resolving deviceId => exact ⟨.resolved ⟨.onoff, OrderedMap.empty⟩ none, _, by simp, rfl⟩
  | persisting toRun => exact ⟨.done, _, by simp, rfl⟩
  | acting action rest done => exact ⟨.done, _, by simp, rfl⟩

theorem fireFrom_cases (seq : Nat) (event : KeypadInputEvent) (start : Nat)
    (mappings : List KeypadMapping) (engine : MappingEngine) :
    ((∀ index mapping, start ≤ index → mappings[index]? = some mapping →
        matchesEvent mapping event = false) ∧
      fireFrom seq event start (mappings.drop start) engine = engine) ∨
    ∃ index mapping, start ≤ index ∧ mappings[index]? = some mapping ∧
      matchesEvent mapping event = true ∧
      (∀ other skipped, start ≤ other → other < index → mappings[other]? = some skipped →
        matchesEvent skipped event = false) ∧
      fireFrom seq event start (mappings.drop start) engine =
        engine.fire seq event index mapping := by
  induction remaining : mappings.drop start generalizing start with
  | nil =>
    left
    refine ⟨?_, rfl⟩
    intro index mapping after found
    have bound := (List.getElem?_eq_some_iff.mp found).1
    have short := drop_eq_nil_iff.mp remaining
    omega
  | cons mapping rest ih =>
    have here : mappings[start]? = some mapping := by
      rw [← head?_drop, remaining]
      rfl
    have onward : mappings.drop (start + 1) = rest := by
      rw [← tail_drop, remaining]
      rfl
    by_cases hit : matchesEvent mapping event = true
    · right
      refine ⟨start, mapping, Nat.le_refl start, here, hit, ?_, ?_⟩
      · intro other skipped after before
        omega
      · simp only [fireFrom, hit, if_true]
    · have missed : matchesEvent mapping event = false := Bool.eq_false_of_not_eq_true hit
      have go : fireFrom seq event start (mapping :: rest) engine =
          fireFrom seq event (start + 1) rest engine := by
        simp [fireFrom, missed]
      rw [go]
      rcases ih (start + 1) onward with ⟨none, same⟩ |
        ⟨index, found, after, foundAt, hits, first, fired⟩
      · left
        refine ⟨?_, same⟩
        intro index other after found
        rcases Nat.eq_or_lt_of_le after with equal | less
        · subst equal
          rw [here, some.injEq] at found
          exact found ▸ missed
        · exact none index other less found
      · right
        refine ⟨index, found, by omega, foundAt, hits, ?_, fired⟩
        intro other skipped notBefore less foundOther
        rcases Nat.eq_or_lt_of_le notBefore with equal | past
        · subst equal
          rw [here, some.injEq] at foundOther
          exact foundOther ▸ missed
        · exact first other skipped past less foundOther

/-- The firings so far by the numbers of their promises, and whether they are awaited. -/
abbrev FiringsView := Nat → Option (Firing × Bool)

def view (chains : Chains Firing String Phase KeypadMappingRun) : FiringsView :=
  fun number => (chains.promise number).map fun link => (link.task, link.awaited)

structure Walks (loaded : LoadedMappings) (firings : FiringsView) (handlers : List Handler)
    (events : List KeypadInputEvent) (due : Nat → Nat → Prop) : Prop where
  /-- A firing is for an event that matches its mapping. -/
  placed : ∀ number firing awaited, firings number = some (firing, awaited) →
    loaded.mappings[firing.index]? = some firing.mapping ∧
      ∃ event, events[firing.seq]? = some event ∧ matchesEvent firing.mapping event = true
  /-- The firings of a mapping are in the order of their events. -/
  ordered : ∀ first second earlier later before after, first < second →
    firings first = some (earlier, before) → firings second = some (later, after) →
    earlier.mappingId = later.mappingId → earlier.seq < later.seq
  handler : ∀ handler ∈ handlers, events[handler.seq]? = some handler.event ∧
    ∃ firing, firings handler.firing = some (firing, true) ∧
      firing.seq = handler.seq ∧ firing.index = handler.index
  unique : (handlers.map Handler.firing).Nodup
  /-- No later event has fired a mapping that a handler has yet to come to. -/
  ahead : ∀ handler ∈ handlers, ∀ number firing awaited,
    firings number = some (firing, awaited) → handler.index < firing.index →
    matchesEvent firing.mapping handler.event = true → firing.seq < handler.seq
  /-- A mapping that matches an event was fired, or a handler has yet to come to it. -/
  covered : ∀ seq event, events[seq]? = some event → ∀ index mapping,
    loaded.mappings[index]? = some mapping → matchesEvent mapping event = true →
      (∃ number awaited, firings number = some (⟨index, mapping, seq⟩, awaited)) ∨
        (∃ handler ∈ handlers, handler.seq = seq ∧ handler.index < index) ∨ due seq index
  awaitedBy : ∀ number firing, firings number = some (firing, true) →
    ∃ handler ∈ handlers, handler.firing = number

/-- No handler is between its mappings. -/
abbrev Settled : Nat → Nat → Prop := fun _ _ => False

/-- The handler of an event is about to go on from a place in the list. -/
abbrev From (seq start : Nat) : Nat → Nat → Prop :=
  fun other index => other = seq ∧ start ≤ index

theorem Walks.close {loaded : LoadedMappings} {handlers : List Handler} {seq start : Nat}
    {event : KeypadInputEvent} (walks : Walks loaded firings handlers events (From seq start))
    (current : events[seq]? = some event)
    (none : ∀ index mapping, start ≤ index → loaded.mappings[index]? = some mapping →
      matchesEvent mapping event = false) :
    Walks loaded firings handlers events Settled :=
  { walks with
    covered := by
      intro other input found index mapping place hits
      rcases walks.covered other input found index mapping place hits with
        fired | pending | ⟨rfl, after⟩
      · exact .inl fired
      · exact .inr (.inl pending)
      · rw [current, some.injEq] at found
        subst found
        rw [none index mapping after place] at hits
        exact Bool.noConfusion hits }

theorem Walks.fire {loaded : LoadedMappings} {after : FiringsView}
    {handlers : List Handler} {seq start : Nat}
    {event : KeypadInputEvent} {index : Nat} {mapping : KeypadMapping}
    (walks : Walks loaded firings handlers events (From seq start))
    (current : events[seq]? = some event)
    (fresh : ∀ other firing awaited, firings other = some (firing, awaited) → other < number)
    (extended : ∀ other firing awaited, after other = some (firing, awaited) ↔
      firings other = some (firing, awaited) ∨
        other = number ∧ firing = ⟨index, mapping, seq⟩ ∧ awaited = true)
    (place : loaded.mappings[index]? = some mapping)
    (hits : matchesEvent mapping event = true) (reached : start ≤ index)
    (first : ∀ other skipped, start ≤ other → other < index →
      loaded.mappings[other]? = some skipped → matchesEvent skipped event = false)
    (own : ∀ other firing awaited, firings other = some (firing, awaited) →
      start ≤ firing.index → matchesEvent firing.mapping event = true → firing.seq < seq)
    (behind : ∀ handler ∈ handlers, handler.index < index →
      matchesEvent mapping handler.event = true → seq < handler.seq) :
    Walks loaded after (handlers ++ [⟨seq, event, number, index⟩]) events Settled where
  placed other firing awaited found := by
    rcases (extended other firing awaited).mp found with old | ⟨_, rfl, _⟩
    · exact walks.placed other firing awaited old
    · exact ⟨place, event, current, hits⟩
  ordered low high earlier later before later' less foundLow foundHigh same := by
    rcases (extended high later later').mp foundHigh with oldHigh | ⟨rfl, rfl, _⟩
    · rcases (extended low earlier before).mp foundLow with oldLow | ⟨rfl, _, _⟩
      · exact walks.ordered low high earlier later before later' less oldLow oldHigh same
      · have bound := fresh high later later' oldHigh
        omega
    · rcases (extended low earlier before).mp foundLow with oldLow | ⟨rfl, _, _⟩
      · have placed := (walks.placed low earlier before oldLow).1
        have equal := loaded.index_eq placed place same
        rw [equal, place, some.injEq] at placed
        exact own low earlier before oldLow (equal ▸ reached) (placed ▸ hits)
      · omega
  handler handler member := by
    rcases mem_append.mp member with old | new
    · rcases walks.handler handler old with ⟨input, firing, found, rest⟩
      exact ⟨input, firing, (extended _ _ _).mpr (.inl found), rest⟩
    · rw [mem_singleton] at new
      subst new
      exact ⟨current, _, (extended _ _ _).mpr (.inr ⟨rfl, rfl, rfl⟩), rfl, rfl⟩
  unique := by
    rw [map_append, nodup_append]
    refine ⟨walks.unique, by simp, ?_⟩
    intro old oldMember new newMember equal
    rcases mem_map.mp oldMember with ⟨handler, member, rfl⟩
    rcases walks.handler handler member with ⟨_, firing, found, _⟩
    have bound := fresh _ _ _ found
    simp only [map_cons, map_nil, mem_singleton] at newMember
    omega
  ahead handler member other firing awaited found before matched := by
    rcases (extended other firing awaited).mp found with old | ⟨rfl, rfl, rfl⟩
    · rcases mem_append.mp member with oldHandler | new
      · exact walks.ahead handler oldHandler other firing awaited old before matched
      · rw [mem_singleton] at new
        subst new
        exact own other firing awaited old (by simp only at before; omega) matched
    · rcases mem_append.mp member with oldHandler | new
      · exact behind handler oldHandler before matched
      · rw [mem_singleton] at new
        subst new
        exact (Nat.lt_irrefl _ before).elim
  covered other input found place' mapping' foundPlace matched := by
    rcases walks.covered other input found place' mapping' foundPlace matched with
      ⟨fired, awaited, stored⟩ | ⟨handler, member, same, before⟩ | ⟨rfl, notBefore⟩
    · exact .inl ⟨fired, awaited, (extended _ _ _).mpr (.inl stored)⟩
    · exact .inr (.inl ⟨handler, mem_append_left _ member, same, before⟩)
    · rw [current, some.injEq] at found
      subst found
      rcases Nat.lt_trichotomy place' index with less | rfl | greater
      · rw [first place' mapping' notBefore less foundPlace] at matched
        exact Bool.noConfusion matched
      · rw [place, some.injEq] at foundPlace
        subst foundPlace
        exact .inl ⟨number, true, (extended _ _ _).mpr (.inr ⟨rfl, rfl, rfl⟩)⟩
      · exact .inr (.inl ⟨_, mem_append_right _ (mem_singleton.mpr rfl), rfl,
          greater⟩)
  awaitedBy other firing found := by
    rcases (extended other firing true).mp found with old | ⟨rfl, _, _⟩
    · rcases walks.awaitedBy other firing old with ⟨handler, member, same⟩
      exact ⟨handler, mem_append_left _ member, same⟩
    · exact ⟨_, mem_append_right _ (mem_singleton.mpr rfl), rfl⟩

theorem Walks.input {loaded : LoadedMappings} {firings : FiringsView}
    {handlers : List Handler} {events : List KeypadInputEvent}
    (walks : Walks loaded firings handlers events Settled) (event : KeypadInputEvent) :
    Walks loaded firings handlers (events ++ [event]) (From events.length 0) := by
  have kept : ∀ (seq : Nat) (input : KeypadInputEvent), events[seq]? = some input →
      (events ++ [event])[seq]? = some input := by
    intro seq input found
    rw [getElem?_append_left (List.getElem?_eq_some_iff.mp found).1]
    exact found
  refine ⟨?_, walks.ordered, ?_, walks.unique, walks.ahead, ?_, walks.awaitedBy⟩
  · intro number firing awaited found
    rcases walks.placed number firing awaited found with ⟨place, input, current, hits⟩
    exact ⟨place, input, kept _ _ current, hits⟩
  · intro handler member
    rcases walks.handler handler member with ⟨current, rest⟩
    exact ⟨kept _ _ current, rest⟩
  · intro seq input found index mapping place hits
    rcases Nat.lt_or_ge seq events.length with old | new
    · rw [getElem?_append_left old] at found
      rcases walks.covered seq input found index mapping place hits with
        fired | pending | impossible
      · exact .inl fired
      · exact .inr (.inl pending)
      · exact impossible.elim
    · have bound := (List.getElem?_eq_some_iff.mp found).1
      rw [length_append, length_singleton] at bound
      exact .inr (.inr ⟨by omega, Nat.zero_le index⟩)

theorem Walks.apart {loaded : LoadedMappings} {left right : List Handler}
    (walks : Walks loaded firings (left ++ handler :: right) events Settled) :
    ((left ++ right).map Handler.firing).Nodup ∧
      ∀ other ∈ left ++ right, handler.firing ≠ other.firing := by
  have unique := (perm_middle.map Handler.firing).nodup_iff.mp walks.unique
  rw [map_cons, nodup_cons] at unique
  refine ⟨unique.2, ?_⟩
  intro other member equal
  apply unique.1
  rw [equal]
  exact mem_map_of_mem member

theorem Walks.release {loaded : LoadedMappings} {after : FiringsView} {left right : List Handler}
    (walks : Walks loaded firings (left ++ handler :: right) events Settled)
    (released : ∀ other firing awaited, after other = some (firing, awaited) ↔
      ∃ before, firings other = some (firing, before) ∧
        awaited = if handler.firing = other then false else before) :
    Walks loaded after (left ++ right) events (From handler.seq (handler.index + 1)) := by
  have among : ∀ other ∈ left ++ right, other ∈ left ++ handler :: right := by
    intro other member
    rcases mem_append.mp member with inLeft | inRight
    · exact mem_append_left _ inLeft
    · exact mem_append_right _ (.tail _ inRight)
  rcases walks.apart with ⟨distinct, apart⟩
  have split : ∀ other ∈ left ++ handler :: right, other = handler ∨ other ∈ left ++ right := by
    intro other member
    simp only [mem_append, mem_cons] at member ⊢
    tauto
  constructor
  · intro number firing awaited found
    rcases (released number firing awaited).mp found with ⟨before, old, _⟩
    exact walks.placed number firing before old
  · intro first second earlier later _ _ less foundFirst foundSecond same
    rcases (released first earlier _).mp foundFirst with ⟨before, oldFirst, _⟩
    rcases (released second later _).mp foundSecond with ⟨before', oldSecond, _⟩
    exact walks.ordered first second earlier later before before' less oldFirst oldSecond same
  · intro other member
    rcases walks.handler other (among other member) with ⟨current, firing, found, rest⟩
    exact ⟨current, firing, (released _ _ _).mpr ⟨true, found, (if_neg (apart other member)).symm⟩,
      rest⟩
  · exact distinct
  · intro other member number firing awaited found
    rcases (released number firing awaited).mp found with ⟨before, old, _⟩
    exact walks.ahead other (among other member) number firing before old
  · intro seq event found index mapping place hits
    rcases walks.covered seq event found index mapping place hits with
      ⟨number, awaited, fired⟩ | ⟨other, member, same, before⟩ | impossible
    · exact .inl ⟨number, _, (released _ _ _).mpr ⟨awaited, fired, rfl⟩⟩
    · rcases split other member with rfl | remains
      · exact .inr (.inr ⟨same.symm, before⟩)
      · exact .inr (.inl ⟨other, remains, same, before⟩)
    · exact impossible.elim
  · intro number firing found
    rcases (released number firing true).mp found with ⟨before, old, awaited⟩
    split_ifs at awaited with equal
    subst awaited
    rcases walks.awaitedBy number firing old with ⟨other, member, same⟩
    rcases split other member with rfl | remains
    · exact (equal same).elim
    · exact ⟨other, remains, same⟩

theorem Walks.not_behind {loaded : LoadedMappings} {left right : List Handler}
    (walks : Walks loaded firings (left ++ handler :: right) events Settled)
    (turn : ∀ number firing, number < handler.firing → firings number = some (firing, true) →
      firing.index ≠ handler.index)
    {index : Nat} {mapping : KeypadMapping} (hits : matchesEvent mapping handler.event = true)
    (first : ∀ other skipped, handler.index + 1 ≤ other → other < index →
      loaded.mappings[other]? = some skipped → matchesEvent skipped handler.event = false)
    (other : Handler) (member : other ∈ left ++ right) (before : other.index < index)
    (matched : matchesEvent mapping other.event = true) : handler.seq < other.seq := by
  have memberOf : other ∈ left ++ handler :: right := by
    simp only [mem_append] at member ⊢
    tauto
  -- Both events have the input of the mapping.
  have sameInput : inputOf other.event = inputOf handler.event :=
    (of_decide_eq_true matched).symm.trans (of_decide_eq_true hits)
  have alike : ∀ input : KeypadMapping,
      matchesEvent input other.event = matchesEvent input handler.event := by
    intro input
    simp only [matchesEvent, sameInput]
  rcases walks.handler handler (by simp) with ⟨current, own, ownFound, ownSeq, ownIndex⟩
  rcases walks.handler other memberOf with ⟨otherCurrent, theirs, found, theirSeq, theirIndex⟩
  rcases walks.placed handler.firing own true ownFound with ⟨ownPlace, event, ownEvent, ownHits⟩
  rcases walks.placed other.firing theirs true found with ⟨place, event', theirEvent, theirHits⟩
  rw [ownSeq, current, some.injEq] at ownEvent
  rw [theirSeq, otherCurrent, some.injEq] at theirEvent
  subst ownEvent theirEvent
  rcases Nat.lt_trichotomy other.index handler.index with less | equal | greater
  · rw [← ownSeq]
    exact walks.ahead other memberOf handler.firing own true ownFound (ownIndex ▸ less)
      ((alike own.mapping).trans ownHits)
  · -- They await firings of the same mapping, and the other one was made later.
    have later : handler.firing < other.firing := by
      rcases Nat.lt_trichotomy handler.firing other.firing with less | same | earlier
      · exact less
      · exact (walks.apart.2 other member same).elim
      · exact (turn other.firing theirs earlier found (theirIndex.trans equal)).elim
    have sameMapping : own.mappingId = theirs.mappingId := by
      rw [ownIndex] at ownPlace
      rw [theirIndex, equal, ownPlace, some.injEq] at place
      exact congrArg KeypadMapping.id place
    rw [← ownSeq, ← theirSeq]
    exact walks.ordered handler.firing other.firing own theirs true true later ownFound found
      sameMapping
  · rw [theirIndex] at place
    have missed := first other.index theirs.mapping greater before place
    rw [← alike, theirHits] at missed
    exact Bool.noConfusion missed

theorem view_eq_some {firing : Firing} {awaited : Bool} :
    view chains number = some (firing, awaited) ↔
      ∃ link, chains.promise number = some link ∧ link.task = firing ∧ link.awaited = awaited := by
  simp [view]

theorem view_setStatus (chains : Chains Firing String Phase KeypadMappingRun) (number : Nat)
    (status : LinkStatus Phase KeypadMappingRun) :
    view (chains.setStatus number status) = view chains := by
  funext other
  apply Option.ext
  rintro ⟨firing, awaited⟩
  simp only [view_eq_some, Chains.promise_setStatus]
  constructor
  · rintro ⟨_, ⟨before, found, rfl⟩, task, waits⟩
    exact ⟨before, found, by split at task <;> exact task, by split at waits <;> exact waits⟩
  · rintro ⟨before, found, task, waits⟩
    exact ⟨_, ⟨before, found, rfl⟩, by split <;> exact task, by split <;> exact waits⟩

theorem view_chain (chains : Chains Firing String Phase KeypadMappingRun) (task : Firing)
    (other : Nat) (firing : Firing) (awaited : Bool) :
    view (chains.chain Firing.mappingId task) other = some (firing, awaited) ↔
      view chains other = some (firing, awaited) ∨
        other = chains.links.length ∧ firing = task ∧ awaited = true := by
  simp only [view_eq_some]
  constructor
  · rintro ⟨link, found, rfl, rfl⟩
    rcases Chains.promise_chain found with old | ⟨rfl, rfl⟩
    · exact .inl ⟨link, old, rfl, rfl⟩
    · exact .inr ⟨rfl, rfl, rfl⟩
  · rintro (⟨link, found, rfl, rfl⟩ | ⟨rfl, rfl, rfl⟩)
    · exact ⟨link, Chains.promise_chain_of_promise found, rfl, rfl⟩
    · exact ⟨_, Chains.promise_chain_last Firing.mappingId firing chains, rfl, rfl⟩

theorem view_release (chains : Chains Firing String Phase KeypadMappingRun) (name : String)
    (number other : Nat) (firing : Firing) (awaited : Bool) :
    view ((chains.release number).forget name number) other = some (firing, awaited) ↔
      ∃ before, view chains other = some (firing, before) ∧
        awaited = if number = other then false else before := by
  simp only [view_eq_some, Chains.promise_forget, Chains.promise_release]
  constructor
  · rintro ⟨_, ⟨link, found, rfl⟩, rfl, rfl⟩
    refine ⟨link.awaited, ⟨link, found, ?_, rfl⟩, ?_⟩ <;> split <;> rfl
  · rintro ⟨_, ⟨link, found, rfl, rfl⟩, rfl⟩
    refine ⟨_, ⟨link, found, rfl⟩, ?_, ?_⟩ <;> split <;> rfl

/-- The executions that were started are those of the firings that do not wait. -/
def Executed (chains : Chains Firing String Phase KeypadMappingRun)
    (executions : List Execution) : Prop :=
  ∀ execution, execution ∈ executions ↔
    ∃ number link, chains.promise number = some link ∧ link.status ≠ .waiting ∧
      execution = ⟨link.task.mappingId, link.task.seq⟩

structure Orderly (loaded : LoadedMappings) (due : Nat → Nat → Prop)
    (engine : MappingEngine) : Prop where
  serialized : engine.chains.Serialized Firing.mappingId
  walks : Walks loaded (view engine.chains) engine.handlers engine.events due
  executed : Executed engine.chains engine.executions
  inTurn : engine.executions.Pairwise fun earlier later =>
    earlier.mappingId = later.mappingId → earlier.seq < later.seq

theorem orderly_idle (loaded : LoadedMappings) : Orderly loaded Settled idle where
  serialized := Chains.serialized_empty
  walks := by
    constructor <;> simp [idle, view, Chains.promise, Chains.empty]
  executed := by simp [Executed, idle, Chains.promise, Chains.empty]
  inTurn := List.Pairwise.nil

theorem Orderly.fireFrom {loaded : LoadedMappings} {engine : MappingEngine} {seq start : Nat}
    {event : KeypadInputEvent} (orderly : Orderly loaded (From seq start) engine)
    (current : engine.events[seq]? = some event)
    (own : ∀ number firing awaited, view engine.chains number = some (firing, awaited) →
      start ≤ firing.index → matchesEvent firing.mapping event = true → firing.seq < seq)
    (behind : ∀ index mapping, start ≤ index → loaded.mappings[index]? = some mapping →
      matchesEvent mapping event = true → (∀ other skipped, start ≤ other → other < index →
        loaded.mappings[other]? = some skipped → matchesEvent skipped event = false) →
      ∀ handler ∈ engine.handlers, handler.index < index →
        matchesEvent mapping handler.event = true → seq < handler.seq) :
    Orderly loaded Settled
      (fireFrom seq event start (loaded.mappings.drop start) engine) := by
  rcases fireFrom_cases seq event start loaded.mappings engine with
    ⟨none, same⟩ | ⟨index, mapping, reached, place, hits, first, fired⟩
  · rw [same]
    exact ⟨orderly.serialized, orderly.walks.close current none, orderly.executed, orderly.inTurn⟩
  · rw [fired]
    refine ⟨orderly.serialized.chain _, ?_, ?_, orderly.inTurn⟩
    · refine orderly.walks.fire current ?_ (view_chain engine.chains _) place hits reached
        first own (behind index mapping reached place hits first)
      intro other firing awaited found
      rcases view_eq_some.mp found with ⟨link, stored, _⟩
      exact Chains.promise_lt stored
    · intro execution
      rw [show (engine.fire seq event index mapping).executions = engine.executions from rfl,
        orderly.executed execution]
      constructor
      · rintro ⟨number, link, found, started, equal⟩
        exact ⟨number, link, Chains.promise_chain_of_promise found, started, equal⟩
      · rintro ⟨number, link, found, started, equal⟩
        rcases Chains.promise_chain found with old | ⟨_, rfl⟩
        · exact ⟨number, link, old, started, equal⟩
        · exact (started rfl).elim

/-! ## What one step preserves -/

theorem Orderly.input {loaded : LoadedMappings} {engine : MappingEngine}
    (orderly : Orderly loaded Settled engine) (event : KeypadInputEvent) :
    Orderly loaded Settled (onInputEvent loaded event engine) := by
  have begun : Orderly loaded (From engine.events.length 0)
      { engine with events := engine.events ++ [event] } :=
    ⟨orderly.serialized, orderly.walks.input event, orderly.executed, orderly.inTurn⟩
  have current : (engine.events ++ [event])[engine.events.length]? = some event := by simp
  apply begun.fireFrom current
  · intro number firing awaited found _ _
    rcases (orderly.walks.placed number firing awaited found).2 with ⟨input, made, _⟩
    exact (List.getElem?_eq_some_iff.mp made).1
  · -- The first mapping for the event lies before every handler for the same input.
    intro index mapping _ place hits first handler member before matched
    rcases orderly.walks.handler handler member with ⟨made, firing, found, seq, atIndex⟩
    rcases orderly.walks.placed _ _ _ found with ⟨firingPlace, input, inputMade, inputHits⟩
    rw [seq, made, some.injEq] at inputMade
    subst inputMade
    rw [atIndex] at firingPlace
    have missed := first handler.index firing.mapping (Nat.zero_le _) before firingPlace
    have hit : matchesEvent firing.mapping event = true :=
      decide_eq_true ((of_decide_eq_true inputHits).trans
        ((of_decide_eq_true matched).symm.trans (of_decide_eq_true hits)))
    rw [hit] at missed
    exact Bool.noConfusion missed

theorem Orderly.walks_of_proceeds {loaded : LoadedMappings} {next : MappingEngine}
    (orderly : Orderly loaded Settled engine)
    (chains : ∃ status, next.chains = engine.chains.setStatus number status)
    (handlers : next.handlers = engine.handlers) (events : next.events = engine.events) :
    Walks loaded (view next.chains) next.handlers next.events Settled := by
  rcases chains with ⟨status, equal⟩
  rw [equal, view_setStatus, handlers, events]
  exact orderly.walks

theorem Orderly.awaited {loaded : LoadedMappings} (orderly : Orderly loaded Settled engine)
    (found : engine.chains.promise number = some link)
    (unresolved : ∀ run, link.status ≠ .resolved run) : link.awaited = true := by
  by_contra released
  rcases orderly.serialized.done number link found (Bool.eq_false_of_not_eq_true released)
    with ⟨run, resolved⟩
  exact unresolved run resolved

theorem executed_setStatus
    (found : chains.promise number = some link) {status : LinkStatus Phase KeypadMappingRun}
    (started : status ≠ .waiting) (execution : Execution) :
    (∃ other after, (chains.setStatus number status).promise other = some after ∧
      after.status ≠ .waiting ∧ execution = ⟨after.task.mappingId, after.task.seq⟩) ↔
    (∃ other before, chains.promise other = some before ∧ before.status ≠ .waiting ∧
      execution = ⟨before.task.mappingId, before.task.seq⟩) ∨
      execution = ⟨link.task.mappingId, link.task.seq⟩ := by
  constructor
  · rintro ⟨other, after, foundAfter, startedAfter, equal⟩
    rcases Chains.promise_setStatus.mp foundAfter with ⟨before, foundBefore, rfl⟩
    by_cases same : number = other
    · subst same
      rw [found, some.injEq] at foundBefore
      subst foundBefore
      rw [if_pos rfl] at equal
      exact .inr equal
    · rw [if_neg same] at equal startedAfter
      exact .inl ⟨other, before, foundBefore, startedAfter, equal⟩
  · rintro (⟨other, before, foundBefore, startedBefore, equal⟩ | equal)
    · refine ⟨other, _, Chains.promise_setStatus.mpr ⟨before, foundBefore, rfl⟩, ?_, ?_⟩
      · split
        · exact started
        · exact startedBefore
      · split <;> exact equal
    · refine ⟨number, _, Chains.promise_setStatus.mpr ⟨link, found, rfl⟩, ?_, ?_⟩
      · rw [if_pos rfl]
        exact started
      · rw [if_pos rfl]
        exact equal

theorem Orderly.proceed {loaded : LoadedMappings} {next : MappingEngine}
    (orderly : Orderly loaded Settled engine)
    (found : engine.chains.promise number = some link) {phase : Phase}
    (running : link.status = .running phase) (proceeds : Proceeds number engine next) :
    Orderly loaded Settled next := by
  rcases proceeds with ⟨status, started, unrejected, chains, handlers, events, executions⟩
  have notWaiting : link.status ≠ .waiting := by simp [running]
  refine ⟨?_, orderly.walks_of_proceeds ⟨status, chains⟩ handlers events, ?_, ?_⟩
  · rw [chains]
    apply orderly.serialized.setStatus found (orderly.awaited found (by simp [running]))
      started unrejected
    intro first earlier less foundEarlier same
    exact orderly.serialized.turns first number earlier link less foundEarlier found same
      notWaiting
  · intro execution
    rw [executions, chains, executed_setStatus found started, orderly.executed execution]
    constructor
    · exact .inl
    · rintro (old | rfl)
      · exact old
      · exact ⟨number, link, found, notWaiting, rfl⟩
  · rw [executions]
    exact orderly.inTurn

theorem Orderly.execute {loaded : LoadedMappings} {engine : MappingEngine} {number : Nat}
    (orderly : Orderly loaded Settled engine) {link : Link Firing Phase KeypadMappingRun}
    (found : engine.chains.promise number = some link) (waiting : link.status = .waiting)
    (fulfilled : engine.chains.priorOutcome link = .fulfilled) (persists : Bool) (now : HubDate) :
    Orderly loaded Settled (execute persists number link.task now engine) := by
  rcases evaluateConditions_proceeds persists number link.task now
    link.task.mapping.conditions { engine with
      executions := engine.executions ++ [⟨link.task.mappingId, link.task.seq⟩] } with
    ⟨status, started, unrejected, chains, handlers, events, executions⟩
  have turn : ∀ first earlier, first < number → engine.chains.promise first = some earlier →
      earlier.task.mappingId = link.task.mappingId → earlier.awaited = false := by
    intro first earlier less foundEarlier same
    exact orderly.serialized.turn found waiting fulfilled less foundEarlier same
  refine ⟨?_, orderly.walks_of_proceeds ⟨status, chains⟩ handlers events, ?_, ?_⟩
  · rw [MappingEngine.execute, chains]
    exact orderly.serialized.setStatus found (orderly.awaited found (by simp [waiting]))
      started unrejected turn
  · intro execution
    rw [MappingEngine.execute, executions, chains, executed_setStatus found started,
      ← orderly.executed execution]
    simp
  · rw [MappingEngine.execute, executions, pairwise_append]
    refine ⟨orderly.inTurn, pairwise_singleton _ _, ?_⟩
    intro earlier member later new same
    rw [mem_singleton] at new
    subst new
    rcases (orderly.executed earlier).mp member with ⟨other, before, foundOther, begun, rfl⟩
    rcases Nat.lt_trichotomy other number with less | equal | greater
    · exact orderly.walks.ordered other number _ _ _ _ less
        (view_eq_some.mpr ⟨before, foundOther, rfl, rfl⟩)
        (view_eq_some.mpr ⟨link, found, rfl, rfl⟩) same
    · subst equal
      rw [found, some.injEq] at foundOther
      subst foundOther
      exact (begun waiting).elim
    · have released := orderly.serialized.turns number other link before greater found
        foundOther same.symm begun
      rw [orderly.awaited found (by simp [waiting])] at released
      exact Bool.noConfusion released

theorem executed_release
    {executions : List Execution} (executed : Executed chains executions) (name : String)
    (number : Nat) : Executed ((chains.release number).forget name number) executions := by
  intro execution
  rw [executed execution]
  simp only [Chains.promise_forget, Chains.promise_release]
  constructor
  · rintro ⟨other, link, found, started, equal⟩
    refine ⟨other, _, ⟨link, found, rfl⟩, ?_, ?_⟩
    · split <;> exact started
    · split <;> exact equal
  · rintro ⟨other, _, ⟨link, found, rfl⟩, started, equal⟩
    refine ⟨other, link, found, ?_, ?_⟩
    · split at started <;> exact started
    · split at equal <;> exact equal

theorem Orderly.react {loaded : LoadedMappings} {position : Nat}
    (orderly : Orderly loaded Settled engine) (pending : engine.handlers[position]? = some handler)
    (found : engine.chains.promise handler.firing = some link) {run : KeypadMappingRun}
    (resolved : link.status = .resolved run) :
    Orderly loaded Settled (afterFiring loaded position handler link.task run engine) := by
  rcases List.getElem?_eq_some_iff.mp pending with ⟨bound, atPosition⟩
  have split : engine.handlers =
      engine.handlers.take position ++ handler :: engine.handlers.drop (position + 1) := by
    rw [← atPosition, getElem_cons_drop, take_append_drop]
  have walks := orderly.walks
  rw [split] at walks
  rcases walks.handler handler (by simp) with ⟨current, own, ownFound, ownSeq, ownIndex⟩
  rcases view_eq_some.mp ownFound with ⟨same, foundSame, rfl, waits⟩
  rw [found, some.injEq] at foundSame
  subst foundSame
  have begun : Orderly loaded (From handler.seq (handler.index + 1))
      { engine with
        chains := (engine.chains.release handler.firing).forget link.task.mappingId handler.firing
        handlers := engine.handlers.eraseIdx position
        fired := engine.fired ++ [(handler.event, run)] } := by
    refine ⟨orderly.serialized.release found resolved, ?_,
      executed_release orderly.executed _ _, orderly.inTurn⟩
    rw [eraseIdx_eq_take_drop_succ]
    exact walks.release (view_release engine.chains _ handler.firing)
  apply begun.fireFrom current
  · intro number firing awaited foundFiring reached matched
    rcases (view_release _ _ _ _ _ _).mp foundFiring with ⟨before, old, _⟩
    exact walks.ahead handler (by simp) number firing before old reached matched
  · intro index mapping _ _ hits first other member before matched
    rw [eraseIdx_eq_take_drop_succ] at member
    refine walks.not_behind ?_ hits first other member before matched
    intro number firing less foundFiring sameIndex
    -- An earlier firing of the same mapping was done when this one started.
    rcases view_eq_some.mp foundFiring with ⟨earlier, foundEarlier, rfl, awaited⟩
    have place := (walks.placed number _ true foundFiring).1
    have ownPlace := (walks.placed handler.firing _ true ownFound).1
    rw [sameIndex, ← ownIndex, ownPlace, some.injEq] at place
    have released := orderly.serialized.turns number handler.firing earlier link less
      foundEarlier found (congrArg KeypadMapping.id place).symm (by simp [resolved])
    rw [released] at awaited
    exact Bool.noConfusion awaited

theorem orderly_step (loaded : LoadedMappings) (persists : Bool) :
    ∀ engine label next, Orderly loaded Settled engine → ReadsAnswered engine label →
      (machine loaded persists).step engine label = some next → Orderly loaded Settled next := by
  intro engine label next orderly answered taken
  cases label with
  | input event =>
    cases taken
    exact orderly.input event
  | advance number reply =>
    simp only [machine, step] at taken
    split at taken
    · cases taken
    · rename_i link found
      split at taken
      · rename_i waiting
        split at taken
        · rename_i fulfilled
          cases taken
          exact orderly.execute found waiting fulfilled persists _
        · rename_i message rejected
          -- No promise is rejected, so none is chained to a rejected one.
          simp only [Chains.priorOutcome] at rejected
          split at rejected
          · cases rejected
          · split at rejected
            · cases rejected
            · rename_i foundPrior
              exact (orderly.serialized.unrejected _ _ foundPrior _ rfl).elim
            · cases rejected
        · cases taken
      · rename_i phase running
        refine orderly.proceed found running (advance_proceeds ?_ taken)
        intro message equal
        subst equal
        rw [← running]
        exact answered link found
      · cases taken
  | react position =>
    simp only [machine, step] at taken
    split at taken
    · cases taken
    · rename_i handler pending
      split at taken
      · cases taken
      · rename_i link found
        split at taken
        · rename_i run resolved
          cases taken
          exact orderly.react pending found resolved
        · rename_i message rejected
          exact (orderly.serialized.unrejected _ _ found message rejected).elim
        · cases taken

theorem step_react {loaded : LoadedMappings}
    {position : Nat} (pending : engine.handlers[position]? = some handler)
    (found : engine.chains.promise handler.firing = some link) {run : KeypadMappingRun}
    (resolved : link.status = .resolved run) :
    step loaded persists engine (.react position) =
      some (afterFiring loaded position handler link.task run engine) := by
  simp only [step, pending, found, resolved]

theorem step_execute {loaded : LoadedMappings}
    (found : engine.chains.promise number = some link) (waiting : link.status = .waiting)
    (fulfilled : engine.chains.priorOutcome link = .fulfilled) (now : HubDate) :
    step loaded persists engine (.advance number (.clock now)) =
      some (execute persists number link.task now engine) := by
  simp only [step, found, waiting, fulfilled]

/-- The execution has yet to start or to be done. -/
def Unsettled (link : Link Firing Phase KeypadMappingRun) : Prop :=
  ∀ run, link.status ≠ .resolved run

theorem Orderly.live_of_unsettled {loaded : LoadedMappings}
    (orderly : Orderly loaded Settled engine) (persists : Bool)
    (found : engine.chains.promise number = some link) (unsettled : Unsettled link)
    (first : ∀ other before, other < number → engine.chains.promise other = some before →
      ∃ run, before.status = .resolved run) :
    ∃ label next, (∀ event, label ≠ .input event) ∧ engine.ReadsAnswered label ∧
      step loaded persists engine label = some next := by
  cases status : link.status with
  | running phase =>
    rcases exists_advance persists number link.task engine phase with
      ⟨reply, next, calm, advanced⟩
    refine ⟨.advance number reply, next, by simp, ?_, by simp [step, found, status, advanced]⟩
    cases reply with
    | rejected message => exact (calm message rfl).elim
    | _ => trivial
  | resolved run => exact (unsettled run status).elim
  | rejected message => exact (orderly.serialized.unrejected _ _ found message status).elim
  | waiting =>
    by_cases turn : engine.chains.priorOutcome link = .fulfilled
    · exact ⟨.advance number (.clock ⟨0, 0, 0, 0⟩), _, by simp, trivial,
        step_execute found status turn _⟩
    · -- The prior promise is resolved, so its handler is yet to go on.
      cases chained : link.prior with
      | none => exact (turn (by simp [Chains.priorOutcome, chained])).elim
      | some before =>
        rcases orderly.serialized.prior number link before found chained with
          ⟨less, prior, foundPrior, _⟩
        rcases first before prior less foundPrior with ⟨run, resolved⟩
        have awaited : prior.awaited = true := by
          by_contra released
          apply turn
          rcases prior with ⟨task, chainedTo, priorStatus, waits⟩
          subst resolved
          rw [Bool.not_eq_true] at released
          subst released
          simp [Chains.priorOutcome, chained, foundPrior]
        rcases orderly.walks.awaitedBy before prior.task
          (view_eq_some.mpr ⟨prior, foundPrior, rfl, awaited⟩) with ⟨handler, member, same⟩
        rcases mem_iff_getElem?.mp member with ⟨position, pending⟩
        rw [← same] at foundPrior
        exact ⟨.react position, _, by simp, trivial, step_react pending foundPrior resolved⟩

theorem Orderly.live {loaded : LoadedMappings}
    (orderly : Orderly loaded Settled engine) (persists : Bool) (busy : engine.handlers ≠ []) :
    ∃ label next, (∀ event, label ≠ .input event) ∧ engine.ReadsAnswered label ∧
      step loaded persists engine label = some next := by
  classical
  by_cases some_unsettled : ∃ number link, engine.chains.promise number = some link ∧ Unsettled link
  · rcases Nat.find_spec some_unsettled with ⟨link, found, unsettled⟩
    apply orderly.live_of_unsettled persists found unsettled
    intro other before less foundBefore
    by_contra unresolved
    apply Nat.find_min some_unsettled less
    exact ⟨before, foundBefore, fun run resolved => unresolved ⟨run, resolved⟩⟩
  · rcases exists_mem_of_ne_nil _ busy with ⟨handler, member⟩
    rcases orderly.walks.handler handler member with ⟨_, firing, awaited, _⟩
    rcases view_eq_some.mp awaited with ⟨link, found, _, _⟩
    have settled : ∃ run, link.status = .resolved run := by
      by_contra unresolved
      exact some_unsettled ⟨_, link, found, fun run resolved => unresolved ⟨run, resolved⟩⟩
    rcases settled with ⟨run, resolved⟩
    rcases mem_iff_getElem?.mp member with ⟨position, pending⟩
    exact ⟨.react position, _, by simp, trivial, step_react pending found resolved⟩

theorem Orderly.firesOnce {loaded : LoadedMappings}
    (orderly : Orderly loaded Settled engine) (persists : Bool) :
    FiresOnce loaded persists engine where
  exclusive first second mappingId runsFirst runsSecond := by
    rcases runsFirst with ⟨left, leftPhase, foundLeft, ofLeft, leftRuns⟩
    rcases runsSecond with ⟨right, rightPhase, foundRight, ofRight, rightRuns⟩
    exact orderly.serialized.exclusive foundLeft foundRight (ofLeft.trans ofRight.symm)
      leftRuns rightRuns
  ordered := orderly.inTurn
  due execution member := by
    rcases (orderly.executed execution).mp member with ⟨number, link, found, _, rfl⟩
    rcases orderly.walks.placed number link.task link.awaited
      (view_eq_some.mpr ⟨link, found, rfl, rfl⟩) with ⟨place, event, made, hits⟩
    exact ⟨link.task.mapping, mem_of_getElem? place, rfl, event, made, hits⟩
  complete idle seq event made mapping member hits := by
    rcases mem_iff_getElem?.mp member with ⟨index, place⟩
    rcases orderly.walks.covered seq event made index mapping place hits with
      ⟨number, awaited, fired⟩ | ⟨handler, pending, _⟩ | impossible
    · rcases view_eq_some.mp fired with ⟨link, found, task, rfl⟩
      apply (orderly.executed _).mpr
      refine ⟨number, link, found, ?_, by rw [task]; rfl⟩
      intro waiting
      have awaited := orderly.awaited found (by simp [waiting])
      rw [awaited] at fired
      rcases orderly.walks.awaitedBy number _ fired with ⟨handler, pending, _⟩
      rw [idle] at pending
      cases pending
    · rw [idle] at pending
      cases pending
    · exact impossible.elim
  live := orderly.live persists

/--
In every run in which no read of a condition is rejected, every event leads to
one execution of each mapping that matches it, and those of one mapping take
turns in the order of their events.
-/
theorem fires_once_of_reads_answered (loaded : LoadedMappings) (persists : Bool)
    (labels : List Label) (answered : (machine loaded persists).Guarded ReadsAnswered idle labels) :
    (machine loaded persists).Throughout (FiresOnce loaded persists) idle labels :=
  (Machine.throughout_of_guarded (orderly_step loaded persists) (orderly_idle loaded)
    answered).mono fun _ orderly => orderly.firesOnce persists

namespace HallButton

def evening : KeypadMapping where
  id := "evening"
  enabled := true
  input := ⟨"hall", "top", .shortPress⟩
  conditions := [.deviceState ⟨"sensor", .sensor, "value", .lt, some (.number (.finite 50))⟩]
  actions := [.sceneActivate "evening"]
  behavior := .direct
  target := none
  behaviorState := ⟨none, 0⟩

def loaded : LoadedMappings := setMappings [evening] (by decide)

def press : KeypadInputEvent := ⟨"hall", "top", "07:30", .shortPress⟩

def halfPastSeven : HubDate := ⟨27000000, 4, 7, 30⟩

end HallButton

/-- A second press while the first one is served. -/
theorem two_presses_fire_once :
    (machine HallButton.loaded true).Throughout (FiresOnce HallButton.loaded true) idle
      [.input HallButton.press, .advance 0 (.clock HallButton.halfPastSeven),
        .input HallButton.press, .advance 0 (.state none), .react 0,
        .advance 1 (.clock HallButton.halfPastSeven), .advance 1 (.state none), .react 0] :=
  fires_once_of_reads_answered HallButton.loaded true _ (by decide)

/-- The sensor cannot be read at the first press; the second one is not executed either. -/
theorem rejected_read_kills_mapping :
    ¬ ∀ (loaded : LoadedMappings) (persists : Bool) (labels : List Label),
      (machine loaded persists).Throughout (FiresOnce loaded persists) idle labels := by
  intro claim
  have throughout := claim HallButton.loaded true
    [.input HallButton.press, .advance 0 (.clock HallButton.halfPastSeven),
      .advance 0 (.rejected "device unreachable"), .react 0, .input HallButton.press,
      .advance 1 .done, .react 0]
  have final := Machine.property_of_throughout throughout rfl
  have executed := final.complete rfl 1 HallButton.press rfl HallButton.evening
  revert executed
  decide

end MappingEngine

end SupremeOs.KeypadFramework
