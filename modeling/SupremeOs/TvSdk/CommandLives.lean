import SupremeOs.TvSdk.TvCommandQueue

/-!
# Every command has one life

A command is refused, or it is enqueued and is then taken out or started.  The
queue has the items that wait and the loop awaits the one that runs.
-/

namespace SupremeOs.TvSdk.TvCommandQueue

open DomainModel Support List

variable {Thrown : Type}

/-- A life to which nothing is added. -/
inductive Ended (item : QueuedItem) : List (QueueEntry Thrown) → Prop
  | refused : Ended item [.refused item]
  | superseded (later : QueuedItem) : Ended item [.enqueued item, .superseded item later]
  | cancelled (reason : String) : Ended item [.enqueued item, .cancelled item reason]
  | settled (outcome : Except Thrown Unit) :
      Ended item [.enqueued item, .started item, .settled item outcome]

def life (queue : TvCommandQueue Thrown) (command : Nat) : List (QueueEntry Thrown) :=
  lifeOf QueueEntry.command command queue.log

structure Kept (queue : TvCommandQueue Thrown) : Prop where
  waiting : ∀ item ∈ queue.items, queue.life item.command = [.enqueued item]
  running : ∀ item ∈ queue.awaited, queue.life item.command = [.enqueued item, .started item]
  born : ∀ command < queue.next, ∃ item, item.command = command ∧
    (item ∈ queue.items ∨ item ∈ queue.awaited ∨ Ended item (queue.life command))
  unborn : ∀ command, queue.next ≤ command → queue.life command = []
  ordered : queue.items.Pairwise StartsBefore
  distinct : (queue.items.map QueuedItem.command).Nodup
  inOrder : StartedInOrder queue.log

/-- A loop awaits a run, or none is left and nothing waits. -/
def Calm (queue : TvCommandQueue Thrown) : Prop :=
  (queue.draining = true ∧ ∃ item, queue.awaited = [item]) ∨
    (queue.draining = false ∧ queue.awaited = [] ∧ queue.items = [])

variable {queue : TvCommandQueue Thrown} {item other : QueuedItem} {entry : QueueEntry Thrown}

variable {after : TvCommandQueue Thrown} {command : Nat} {log : List (QueueEntry Thrown)}
    {label : QueueLabel Thrown}

theorem Kept.lt_next (kept : queue.Kept) (lives : queue.life command ≠ []) :
    command < queue.next := by
  by_contra above
  exact lives (kept.unborn command (Nat.le_of_not_lt above))

theorem Kept.mem_items (kept : queue.Kept) (waits : Waiting queue.log item) :
    item ∈ queue.items := by
  have lives : queue.life item.command = [.enqueued item] := waits
  have called : item.command < queue.next := by
    refine kept.lt_next ?_
    rw [lives]
    exact cons_ne_nil _ _
  rcases kept.born item.command called with ⟨same, named, inItems | inAwaited | ended⟩
  · have own := kept.waiting same inItems
    rw [named, lives] at own
    obtain rfl : item = same := QueueEntry.enqueued.inj (singleton_inj.mp own)
    exact inItems
  · have own := kept.running same inAwaited
    rw [named, lives] at own
    cases own
  · rw [lives] at ended
    cases ended

theorem startedInOrder_concat (inOrder : StartedInOrder log)
    (first : ∀ started, entry = .started started → Waiting log started ∧
        ∀ other, Waiting log other → other ≠ started → StartsBefore started other) :
    StartedInOrder (log ++ [entry]) := by
  intro before started after split
  rcases concat_eq_append_cons.mp split with ⟨rfl, same, _⟩ | ⟨between, _, same⟩
  · exact first started same
  · exact inOrder before started between same

theorem startedInOrder_concat_of_not_start
    (inOrder : StartedInOrder log) (silent : entry.starts = false) :
    StartedInOrder (log ++ [entry]) := by
  refine startedInOrder_concat inOrder ?_
  rintro started rfl
  cases silent

section

variable (kept : queue.Kept)

include kept

theorem Kept.update (item : QueuedItem)
    (logged : after.log = queue.log ++ [entry]) (own : entry.command = item.command)
    (born : item.command < after.next)
    (numbers : ∀ command, command < after.next ↔ command < queue.next ∨ command = item.command)
    (items : ∀ other ∈ after.items, other ∈ queue.items ∧ other.command ≠ item.command ∨
      other = item ∧ queue.life item.command ++ [entry] = [.enqueued item])
    (awaited : ∀ other ∈ after.awaited, other ∈ queue.awaited ∧ other.command ≠ item.command ∨
      other = item ∧ queue.life item.command ++ [entry] = [.enqueued item, .started item])
    (itemsStay : ∀ other ∈ queue.items, other.command ≠ item.command → other ∈ after.items)
    (awaitedStay : ∀ other ∈ queue.awaited, other.command ≠ item.command → other ∈ after.awaited)
    (place : item ∈ after.items ∨ item ∈ after.awaited ∨
      Ended item (queue.life item.command ++ [entry]))
    (ordered : after.items.Pairwise StartsBefore)
    (distinct : (after.items.map QueuedItem.command).Nodup)
    (inOrder : StartedInOrder after.log) : after.Kept := by
  have lifeOwn : after.life item.command = queue.life item.command ++ [entry] := by
    rw [life, logged]
    exact lifeOf_concat_self own
  have lifeOther : ∀ command, command ≠ item.command → after.life command = queue.life command := by
    intro command differs
    rw [life, logged]
    exact lifeOf_concat_other (own ▸ differs.symm)
  constructor
  · intro other member
    rcases items other member with ⟨old, differs⟩ | ⟨rfl, lives⟩
    · rw [lifeOther _ differs]
      exact kept.waiting other old
    · rw [lifeOwn, lives]
  · intro other member
    rcases awaited other member with ⟨old, differs⟩ | ⟨rfl, lives⟩
    · rw [lifeOther _ differs]
      exact kept.running other old
    · rw [lifeOwn, lives]
  · intro command below
    by_cases same : command = item.command
    · subst same
      rw [lifeOwn]
      exact ⟨item, rfl, place⟩
    · have old : command < queue.next := ((numbers command).mp below).resolve_right same
      rcases kept.born command old with ⟨other, rfl, inItems | inAwaited | ended⟩
      · exact ⟨other, rfl, .inl (itemsStay other inItems same)⟩
      · exact ⟨other, rfl, .inr (.inl (awaitedStay other inAwaited same))⟩
      · rw [lifeOther _ same]
        exact ⟨other, rfl, .inr (.inr ended)⟩
  · intro command above
    have differs : command ≠ item.command := by
      rintro rfl
      exact absurd born (Nat.not_lt_of_le above)
    rw [lifeOther _ differs]
    refine kept.unborn command ?_
    by_contra below
    exact absurd ((numbers command).mpr (.inl (Nat.lt_of_not_le below))) (Nat.not_lt_of_le above)
  · exact ordered
  · exact distinct
  · exact inOrder

theorem Kept.ne_of_new (named : item.command = queue.next)
    (lives : queue.life other.command ≠ []) : other.command ≠ item.command := by
  rw [named]
  exact Nat.ne_of_lt (kept.lt_next lives)

theorem Kept.items_life (member : other ∈ queue.items) :
    queue.life other.command ≠ [] := by
  rw [kept.waiting other member]
  exact cons_ne_nil _ _

theorem Kept.awaited_life (member : other ∈ queue.awaited) :
    queue.life other.command ≠ [] := by
  rw [kept.running other member]
  exact cons_ne_nil _ _

theorem Kept.items_ne_awaited (waits : item ∈ queue.items)
    (runs : other ∈ queue.awaited) : item.command ≠ other.command := by
  intro same
  have lives := kept.running other runs
  rw [← same, kept.waiting item waits] at lives
  cases lives

theorem Kept.refuse (named : item.command = queue.next) :
    (queue.called.note (.refused item)).Kept := by
  have blank : queue.life item.command = [] :=
    kept.unborn item.command (Nat.le_of_eq named.symm)
  refine kept.update item rfl rfl ?_ ?_ ?_ ?_ ?_ ?_ ?_ kept.ordered kept.distinct ?_
  · exact Nat.lt_succ_of_le (Nat.le_of_eq named)
  · intro command
    rw [named]
    exact Nat.lt_succ_iff_lt_or_eq
  · exact fun other member => .inl ⟨member, kept.ne_of_new named (kept.items_life member)⟩
  · exact fun other member => .inl ⟨member, kept.ne_of_new named (kept.awaited_life member)⟩
  · exact fun other member _ => member
  · exact fun other member _ => member
  · rw [blank]
    exact .inr (.inr .refused)
  · exact startedInOrder_concat_of_not_start kept.inOrder rfl

end

instance : IsStrictOrder JsNumber fun left right => JsNumber.less left right = true where
  irrefl := JsNumber.less_irrefl
  trans _ _ _ := JsNumber.less_trans

theorem Kept.insert (kept : queue.Kept) (named : item.command = queue.next) :
    (queue.called.insert item).Kept := by
  have blank : queue.life item.command = [] :=
    kept.unborn item.command (Nat.le_of_eq named.symm)
  have newest : ∀ other ∈ queue.items, other.command < item.command := by
    intro other member
    rw [named]
    exact kept.lt_next (kept.items_life member)
  refine kept.update item rfl rfl ?_ ?_ ?_ ?_ ?_ ?_ ?_ ?_ ?_ ?_
  · exact Nat.lt_succ_of_le (Nat.le_of_eq named)
  · intro command
    rw [named]
    exact Nat.lt_succ_iff_lt_or_eq
  · intro other member
    rcases (mem_orderedInsert _).mp member with rfl | old
    · exact .inr ⟨rfl, by rw [blank]; rfl⟩
    · exact .inl ⟨old, Nat.ne_of_lt (newest other old)⟩
  · exact fun other member => .inl ⟨member, kept.ne_of_new named (kept.awaited_life member)⟩
  · exact fun other member _ => (mem_orderedInsert _).mpr (.inr member)
  · exact fun other member _ => member
  · exact .inl ((mem_orderedInsert _).mpr (.inl rfl))
  · have ordered : queue.items.Pairwise (Precedes
      (fun left right => JsNumber.less left right = true) QueuedItem.priority
      QueuedItem.command) := kept.ordered
    exact precedes_orderedInsert ordered newest
  · have same := (perm_orderedInsert
      (fun new old : QueuedItem => new.priority.less old.priority = true) item queue.items).map
        QueuedItem.command
    refine same.nodup_iff.mpr (nodup_cons.mpr ⟨?_, kept.distinct⟩)
    intro found
    rcases mem_map.mp found with ⟨other, member, equal⟩
    exact absurd equal (Nat.ne_of_lt (newest other member))
  · exact startedInOrder_concat_of_not_start kept.inOrder rfl

theorem Kept.drop (kept : queue.Kept) {left right : List QueuedItem}
    (split : queue.items = left ++ item :: right) (own : entry.command = item.command)
    (ended : Ended item [.enqueued item, entry]) :
    ({ queue with items := left ++ right }.note entry : TvCommandQueue Thrown).Kept := by
  have waits : item ∈ queue.items := by
    rw [split]
    exact mem_append_right _ (.head _)
  have smaller : (left ++ right).Sublist queue.items := by
    rw [split]
    exact (List.Sublist.refl left).append (sublist_cons_self item right)
  have alone : ∀ other ∈ left ++ right, other.command ≠ item.command := by
    have distinct := kept.distinct
    rw [split] at distinct
    intro other member
    have apart := (perm_middle.map QueuedItem.command).nodup_iff.mp distinct
    rw [map_cons, nodup_cons] at apart
    exact fun same => apart.1 (same ▸ mem_map_of_mem member)
  have called : item.command < queue.next := kept.lt_next (kept.items_life waits)
  refine kept.update item rfl own called ?_ ?_ ?_ ?_ ?_ ?_ ?_ ?_ ?_
  · exact fun command => ⟨.inl, fun below => below.elim id fun same => same ▸ called⟩
  · exact fun other member => .inl ⟨smaller.subset member, alone other member⟩
  · exact fun other member => .inl ⟨member, (kept.items_ne_awaited waits member).symm⟩
  · intro other member differs
    rw [split] at member
    rcases mem_append.mp member with before | behind
    · exact mem_append_left _ before
    · rcases mem_cons.mp behind with rfl | after
      · exact absurd rfl differs
      · exact mem_append_right _ after
  · exact fun other member _ => member
  · rw [kept.waiting item waits]
    exact .inr (.inr ended)
  · exact kept.ordered.sublist smaller
  · exact kept.distinct.sublist (smaller.map _)
  · refine startedInOrder_concat_of_not_start kept.inOrder ?_
    cases ended <;> rfl

theorem Kept.start (kept : queue.Kept) {rest : List QueuedItem}
    (front : queue.items = item :: rest) (idle : queue.awaited = []) :
    ({ queue with items := rest, awaited := queue.awaited ++ [item] }.note (.started item) :
      TvCommandQueue Thrown).Kept := by
  have waits : item ∈ queue.items := by
    rw [front]
    exact .head _
  have called : item.command < queue.next := kept.lt_next (kept.items_life waits)
  have lives : queue.life item.command = [.enqueued item] := kept.waiting item waits
  have ordered := kept.ordered
  have distinct := kept.distinct
  rw [front, pairwise_cons] at ordered
  rw [front, map_cons, nodup_cons] at distinct
  refine kept.update item rfl rfl called ?_ ?_ ?_ ?_ ?_ ?_ ordered.2 distinct.2 ?_
  · exact fun command => ⟨.inl, fun below => below.elim id fun same => same ▸ called⟩
  · intro other member
    refine .inl ⟨front ▸ .tail _ member, fun same => ?_⟩
    exact distinct.1 (same ▸ mem_map_of_mem member)
  · intro other member
    rw [idle] at member
    obtain rfl := mem_singleton.mp member
    exact .inr ⟨rfl, by rw [lives]; rfl⟩
  · intro other member differs
    rw [front] at member
    rcases mem_cons.mp member with rfl | behind
    · exact absurd rfl differs
    · exact behind
  · exact fun other member _ => mem_append_left _ member
  · exact .inr (.inl (mem_append_right _ (.head _)))
  · refine startedInOrder_concat kept.inOrder ?_
    rintro started same
    obtain rfl := QueueEntry.started.inj same
    refine ⟨lives, fun other waiting differs => ?_⟩
    have inItems := kept.mem_items waiting
    rw [front] at inItems
    exact ordered.1 other ((mem_cons.mp inItems).resolve_left differs)

theorem drainRound_of_nil (none : queue.items = []) :
    queue.drainRound = { queue with draining := false } := by
  unfold drainRound
  split
  · rfl
  · rename_i item rest front
    rw [none] at front
    cases front

theorem drainRound_of_cons {rest : List QueuedItem} (front : queue.items = item :: rest) :
    queue.drainRound =
      { queue with items := rest, awaited := queue.awaited ++ [item] }.note (.started item) := by
  simp only [drainRound, front]

theorem Kept.drainRound (kept : queue.Kept) (draining : queue.draining = true)
    (idle : queue.awaited = []) : queue.drainRound.Kept ∧ queue.drainRound.Calm := by
  cases front : queue.items with
  | nil =>
    rw [drainRound_of_nil front]
    exact ⟨{ kept with }, .inr ⟨rfl, idle, front⟩⟩
  | cons item rest =>
    rw [drainRound_of_cons front]
    refine ⟨kept.start front idle, .inl ⟨draining, item, ?_⟩⟩
    simp [note, idle]

theorem Kept.drain (kept : queue.Kept)
    (loop : (queue.draining = true ∧ ∃ item, queue.awaited = [item]) ∨
      (queue.draining = false ∧ queue.awaited = [])) :
    queue.drain.Kept ∧ queue.drain.Calm := by
  rcases loop with ⟨draining, awaiting⟩ | ⟨stopped, idle⟩
  · rw [TvCommandQueue.drain, if_pos draining]
    exact ⟨kept, .inl ⟨draining, awaiting⟩⟩
  · rw [TvCommandQueue.drain, stopped, if_neg Bool.false_ne_true]
    have running : ({ queue with draining := true } : TvCommandQueue Thrown).Kept := { kept with }
    exact running.drainRound rfl idle

theorem Kept.settle (kept : queue.Kept) (calm : queue.Calm) (runs : item ∈ queue.awaited)
    (outcome : Except Thrown Unit) :
    (queue.settle item outcome).Kept ∧ (queue.settle item outcome).Calm := by
  rcases calm with ⟨draining, only, awaited⟩ | ⟨_, idle, _⟩
  · rw [awaited] at runs
    obtain rfl := mem_singleton.mp runs
    have runs : item ∈ queue.awaited := awaited ▸ mem_cons_self
    have called : item.command < queue.next := kept.lt_next (kept.awaited_life runs)
    have none : queue.awaited.erase item = [] := by
      rw [awaited, erase_cons_head]
    have left : ({ queue with awaited := queue.awaited.erase item }.note (.settled item outcome) :
        TvCommandQueue Thrown).Kept := by
      refine kept.update item rfl rfl called ?_ ?_ ?_ ?_ ?_ ?_ kept.ordered
        kept.distinct ?_
      · exact fun command => ⟨.inl, fun below => below.elim id fun same => same ▸ called⟩
      · exact fun other member => .inl ⟨member, kept.items_ne_awaited member runs⟩
      · intro other member
        simp only [note, none] at member
        cases member
      · exact fun other member _ => member
      · intro other member differs
        rw [awaited] at member
        exact absurd (congrArg QueuedItem.command (mem_singleton.mp member)) differs
      · rw [kept.running item runs]
        exact .inr (.inr (.settled outcome))
      · exact startedInOrder_concat_of_not_start kept.inOrder rfl
    exact left.drainRound draining none
  · rw [idle] at runs
    cases runs

theorem Kept.supersede (kept : queue.Kept) (later : QueuedItem) : (queue.supersede later).Kept := by
  unfold TvCommandQueue.supersede
  split
  · exact kept
  · rename_i key _
    split
    · exact kept
    · split
      · exact kept
      · rename_i old found
        rcases find?_eq_some_iff_append.mp found with ⟨same, left, right, split, before⟩
        have taken : queue.items.eraseP (fun item => item.dedupeKey = some key) =
            left ++ right := by
          rw [split, eraseP_append_right _ (by simpa using before), eraseP_cons_of_pos
            (p := fun item : QueuedItem => decide (item.dedupeKey = some key)) same]
        rw [taken]
        exact kept.drop split rfl (.superseded later)

theorem Kept.cancelAll {items : List QueuedItem} (kept : queue.Kept) (all : queue.items = items)
    (reason : String) :
    ({ queue with
      items := []
      log := queue.log ++ items.map fun item => .cancelled item reason } :
        TvCommandQueue Thrown).Kept := by
  induction items generalizing queue with
  | nil =>
    rw [map_nil, append_nil, ← all]
    exact kept
  | cons head rest ih =>
    have first : ({ queue with items := rest }.note (.cancelled head reason) :
        TvCommandQueue Thrown).Kept :=
      kept.drop (all.trans (nil_append _).symm) rfl (.cancelled reason)
    have others := ih first rfl
    rw [note, append_assoc] at others
    exact others

theorem supersede_same (queue : TvCommandQueue Thrown) (later : QueuedItem) :
    (queue.supersede later).draining = queue.draining ∧
      (queue.supersede later).awaited = queue.awaited ∧ (queue.supersede later).next = queue.next ∧
      (queue.supersede later).disposed = queue.disposed := by
  unfold supersede
  repeat' split
  all_goals exact ⟨rfl, rfl, rfl, rfl⟩

theorem Calm.loop (calm : queue.Calm) : (queue.draining = true ∧ ∃ item, queue.awaited = [item]) ∨
      (queue.draining = false ∧ queue.awaited = []) :=
  calm.imp id fun stopped => ⟨stopped.1, stopped.2.1⟩

theorem Kept.enqueue (kept : queue.Kept) (calm : queue.Calm) (opts : EnqueueOptions) :
    (queue.enqueue opts).Kept ∧ (queue.enqueue opts).Calm := by
  rw [TvCommandQueue.enqueue]
  by_cases disposed : queue.disposed = true
  · rw [if_pos disposed]
    exact ⟨kept.refuse rfl, calm⟩
  · rw [if_neg disposed]
    obtain ⟨draining, awaited, next, -⟩ := supersede_same queue (queue.newItem opts)
    refine ((kept.supersede (queue.newItem opts)).insert next.symm).drain ?_
    have loop := calm.loop
    rw [← draining, ← awaited] at loop
    exact loop

theorem Kept.clear (kept : queue.Kept) (calm : queue.Calm) (reason : String) :
    (queue.clear reason).Kept ∧ (queue.clear reason).Calm :=
  ⟨kept.cancelAll rfl reason, calm.imp id fun stopped => ⟨stopped.1, stopped.2.1, rfl⟩⟩

theorem Kept.step (kept : queue.Kept) (calm : queue.Calm)
    (taken : (tvCommandQueue Thrown).step queue label = some after) :
    after.Kept ∧ after.Calm := by
  cases label with
  | enqueue opts =>
    cases taken
    exact kept.enqueue calm opts
  | clear reason =>
    cases taken
    exact kept.clear calm reason
  | dispose =>
    cases taken
    obtain ⟨cleared, still⟩ := kept.clear calm "session disposed"
    exact ⟨{ cleared with }, still⟩
  | settles item outcome =>
    rcases Option.ite_none_right_eq_some.mp taken with ⟨runs, same⟩
    cases same
    exact kept.settle calm runs outcome

/-- Who is taken out has been replaced, and who is refused came too late. -/
structure Explained (queue : TvCommandQueue Thrown) : Prop where
  replaced : ∀ item later, .superseded item later ∈ queue.log →
    item.command < later.command ∧ .enqueued later ∈ queue.log ∧ SameKey item later
  late : ∀ item, .refused item ∈ queue.log → queue.disposed = true

theorem Explained.extend (explained : queue.Explained)
    {added : List (QueueEntry Thrown)} (logged : after.log = queue.log ++ added)
    (plain : ∀ entry ∈ added, (∀ item later, entry ≠ .superseded item later) ∧
      ∀ item, entry = .refused item → after.disposed = true)
    (disposed : queue.disposed = true → after.disposed = true) : after.Explained := by
  constructor
  · intro item later found
    rw [logged] at found ⊢
    rcases mem_append.mp found with old | new
    · obtain ⟨newer, called, same⟩ := explained.replaced item later old
      exact ⟨newer, mem_append_left _ called, same⟩
    · exact absurd rfl ((plain _ new).1 item later)
  · intro item found
    rw [logged] at found
    rcases mem_append.mp found with old | new
    · exact disposed (explained.late item old)
    · exact (plain _ new).2 item rfl

theorem Explained.note (explained : queue.Explained) (logged : after.log = queue.log ++ [entry])
    (plain : (∀ item later, entry ≠ .superseded item later) ∧
      ∀ item, entry = .refused item → after.disposed = true)
    (disposed : queue.disposed = true → after.disposed = true) : after.Explained :=
  explained.extend logged (fun _ member => mem_singleton.mp member ▸ plain) disposed

theorem Explained.drainRound (explained : queue.Explained) : queue.drainRound.Explained := by
  cases front : queue.items with
  | nil =>
    rw [drainRound_of_nil front]
    exact { explained with }
  | cons item rest =>
    rw [drainRound_of_cons front]
    exact explained.note rfl ⟨by simp, by simp⟩ id

theorem Explained.drain (explained : queue.Explained) : queue.drain.Explained := by
  unfold TvCommandQueue.drain
  split
  · exact explained
  · exact Explained.drainRound { explained with }

theorem supersede_log (kept : queue.Kept) (opts : EnqueueOptions) :
    (queue.supersede (queue.newItem opts)).log = queue.log ∨
      ∃ old, (queue.supersede (queue.newItem opts)).log =
          queue.log ++ [.superseded old (queue.newItem opts)] ∧
        old.command < queue.next ∧ SameKey old (queue.newItem opts) := by
  unfold supersede
  split
  · exact .inl rfl
  · rename_i key named
    split
    · exact .inl rfl
    · rename_i truthy
      split
      · exact .inl rfl
      · rename_i old found
        refine .inr ⟨old, rfl, ?_, key, truthy, ?_, named⟩
        · exact kept.lt_next (kept.items_life (mem_of_find?_eq_some found))
        · have same := find?_some
            (p := fun item : QueuedItem => decide (item.dedupeKey = some key)) found
          exact of_decide_eq_true same

theorem Explained.enqueue (explained : queue.Explained) (kept : queue.Kept)
    (opts : EnqueueOptions) : (queue.enqueue opts).Explained := by
  rw [TvCommandQueue.enqueue]
  by_cases disposed : queue.disposed = true
  · rw [if_pos disposed]
    exact explained.note rfl ⟨by simp, fun _ _ => disposed⟩ id
  · rw [if_neg disposed]
    refine Explained.drain ?_
    obtain ⟨-, -, -, still⟩ := supersede_same queue (queue.newItem opts)
    rcases supersede_log kept opts with unchanged | ⟨old, taken, older, same⟩
    · have logged : ((queue.supersede (queue.newItem opts)).called.insert
          (queue.newItem opts)).log = queue.log ++ [.enqueued (queue.newItem opts)] :=
        congrArg (· ++ [QueueEntry.enqueued (queue.newItem opts)]) unchanged
      refine explained.note logged ⟨by simp, by simp⟩ ?_
      · exact fun before => absurd before disposed
    · have logged : (((queue.supersede (queue.newItem opts)).called).insert
          (queue.newItem opts)).log = queue.log ++
            [.superseded old (queue.newItem opts), .enqueued (queue.newItem opts)] := by
        rw [insert, TvCommandQueue.note, called, taken, append_assoc, singleton_append]
      constructor
      · intro item later found
        rw [logged] at found ⊢
        rcases mem_append.mp found with before | new
        · obtain ⟨newer, called, key⟩ := explained.replaced item later before
          exact ⟨newer, mem_append_left _ called, key⟩
        · rcases mem_cons.mp new with first | second
          · obtain ⟨rfl, rfl⟩ := QueueEntry.superseded.inj first
            exact ⟨older, mem_append_right _ (.tail _ (.head _)), same⟩
          · cases mem_singleton.mp second
      · intro item found
        rw [logged] at found
        rcases mem_append.mp found with before | new
        · exact absurd (explained.late item before) disposed
        · rcases mem_cons.mp new with first | second
          · cases first
          · cases mem_singleton.mp second

theorem Explained.clear (explained : queue.Explained) (reason : String) :
    (queue.clear reason).Explained := by
  refine explained.extend rfl ?_ id
  intro entry member
  rcases mem_map.mp member with ⟨item, -, rfl⟩
  exact ⟨by simp, by simp⟩

theorem Explained.step (explained : queue.Explained) (kept : queue.Kept)
    (taken : (tvCommandQueue Thrown).step queue label = some after) : after.Explained := by
  cases label with
  | enqueue opts =>
    cases taken
    exact explained.enqueue kept opts
  | clear reason =>
    cases taken
    exact explained.clear reason
  | dispose =>
    cases taken
    have cleared := explained.clear "session disposed"
    exact { cleared with late := fun _ _ => rfl }
  | settles item outcome =>
    rcases Option.ite_none_right_eq_some.mp taken with ⟨_, same⟩
    cases same
    have settled : ({ queue with awaited := queue.awaited.erase item }.note
        (.settled item outcome) : TvCommandQueue Thrown).Explained :=
      explained.note rfl ⟨by simp, by simp⟩ id
    exact settled.drainRound

/-- All that can have happened to a command. -/
inductive Life (queue : TvCommandQueue Thrown) (command : Nat) : Prop
  | unborn (none : queue.life command = [])
  | waiting (item : QueuedItem) (named : item.command = command) (waits : item ∈ queue.items)
      (lives : queue.life command = [.enqueued item])
  | running (item : QueuedItem) (named : item.command = command)
      (lives : queue.life command = [.enqueued item, .started item])
  | ended (item : QueuedItem) (named : item.command = command)
      (ended : Ended item (queue.life command))

theorem Kept.life (kept : queue.Kept) (command : Nat) : queue.Life command := by
  by_cases called : command < queue.next
  · rcases kept.born command called with ⟨item, rfl, waits | runs | ended⟩
    · exact .waiting item rfl waits (kept.waiting item waits)
    · exact .running item rfl (kept.running item runs)
    · exact .ended item rfl ended
  · exact .unborn (kept.unborn command (Nat.le_of_not_lt called))

theorem mem_life (found : entry ∈ queue.log) (named : entry.command = command) :
    entry ∈ queue.life command :=
  mem_lifeOf.mpr ⟨found, named⟩

theorem Kept.unstarted (kept : queue.Kept) (reason : NeverStarts queue command)
    (item : QueuedItem) (named : item.command = command) : .started item ∉ queue.log := by
  intro started
  have start := mem_life started named
  have ends : ∃ entry ∈ queue.life command, (∃ old later, entry = .superseded old later) ∨
      (∃ old why, entry = .cancelled old why) ∨ ∃ old, entry = .refused old := by
    cases reason with
    | superseded old later own found =>
      exact ⟨_, mem_life found own, .inl ⟨old, later, rfl⟩⟩
    | cancelled old why own found =>
      exact ⟨_, mem_life found own, .inr (.inl ⟨old, why, rfl⟩)⟩
    | refused old own _ found =>
      exact ⟨_, mem_life found own, .inr (.inr ⟨old, rfl⟩)⟩
  rcases ends with ⟨entry, found, kind⟩
  cases kept.life command with
  | unborn none =>
    rw [none] at start
    cases start
  | waiting other _ _ lives =>
    rw [lives] at start
    cases mem_singleton.mp start
  | running other _ lives =>
    rw [lives] at found
    rcases kind with ⟨old, later, rfl⟩ | ⟨old, why, rfl⟩ | ⟨old, rfl⟩ <;> simp at found
  | ended other _ ended =>
    generalize lives : queue.life command = entries at ended start found
    cases ended with
    | refused => simp at start
    | superseded later => simp at start
    | cancelled why => simp at start
    | settled outcome =>
      rcases kind with ⟨old, later, rfl⟩ | ⟨old, why, rfl⟩ | ⟨old, rfl⟩ <;> simp at found

theorem Kept.startsOnce (kept : queue.Kept) (command : Nat) :
    ((queue.life command).filter QueueEntry.starts).length ≤ 1 := by
  cases kept.life command with
  | unborn none =>
    rw [none]
    exact Nat.zero_le 1
  | waiting item _ _ lives =>
    rw [lives]
    exact Nat.zero_le 1
  | running item _ lives =>
    rw [lives]
    exact Nat.le_refl 1
  | ended item _ ended =>
    generalize queue.life command = entries at ended
    cases ended with
    | refused | superseded | cancelled => exact Nat.zero_le 1
    | settled outcome => exact Nat.le_refl 1

theorem Kept.settlesOnce (kept : queue.Kept) (command : Nat) :
    ((queue.life command).filterMap QueueEntry.promise).length ≤ 1 := by
  cases kept.life command with
  | unborn none =>
    rw [none]
    exact Nat.zero_le 1
  | waiting item _ _ lives =>
    rw [lives]
    exact Nat.zero_le 1
  | running item _ lives =>
    rw [lives]
    exact Nat.zero_le 1
  | ended item _ ended =>
    generalize queue.life command = entries at ended
    cases ended with
    | refused | superseded | cancelled => exact Nat.le_refl 1
    | settled outcome => cases outcome <;> exact Nat.le_refl 1

theorem Kept.accounted (kept : queue.Kept) (explained : queue.Explained)
    (called : command < queue.next) :
    (∃ item, item.command = command ∧ .started item ∈ queue.log) ∨
      (∃ item ∈ queue.items, item.command = command) ∨ NeverStarts queue command := by
  rcases kept.born command called with ⟨item, named, waits | runs | ended⟩
  · exact .inr (.inl ⟨item, waits, named⟩)
  · have lives := kept.running item runs
    have start : .started item ∈ queue.life item.command := by
      rw [lives]
      exact .tail _ (.head _)
    exact .inl ⟨item, named, (mem_lifeOf.mp start).1⟩
  · have logged : ∀ entry ∈ queue.life command, entry ∈ queue.log :=
      fun entry found => (mem_lifeOf.mp found).1
    generalize queue.life command = entries at ended logged
    cases ended with
    | refused =>
      have found := logged _ (.head _)
      exact .inr (.inr (.refused item named (explained.late item found) found))
    | superseded later =>
      have found := logged _ (.tail _ (.head _))
      obtain ⟨newer, enqueued, same⟩ := explained.replaced item later found
      exact .inr (.inr (.superseded item later named found (named ▸ newer) enqueued same))
    | cancelled reason =>
      exact .inr (.inr (.cancelled item reason named (logged _ (.tail _ (.head _)))))
    | settled outcome =>
      exact .inl ⟨item, named, logged _ (.tail _ (.head _))⟩

theorem Calm.sound (calm : queue.Calm) (kept : queue.Kept) (explained : queue.Explained) :
    QueueSound queue where
  oneRun := by
    rcases calm with ⟨_, item, awaited⟩ | ⟨_, idle, _⟩
    · rw [awaited, length_singleton]
    · rw [idle]
      exact Nat.zero_le 1
  idle idle := by
    rcases calm with ⟨_, item, awaited⟩ | ⟨_, _, none⟩
    · rw [awaited] at idle
      cases idle
    · exact none
  startsOnce := kept.startsOnce
  settlesOnce := kept.settlesOnce
  inOrder := kept.inOrder
  accounted _ called := kept.accounted explained called
  unstarted _ reason item named := kept.unstarted reason item named

theorem kept_empty : (empty : TvCommandQueue Thrown).Kept := by
  constructor
  · exact fun item member => absurd member not_mem_nil
  · exact fun item member => absurd member not_mem_nil
  · exact fun command called => absurd called (Nat.not_lt_zero command)
  · exact fun command _ => rfl
  · exact List.Pairwise.nil
  · exact nodup_nil
  · intro before item after split
    simp [empty] at split

end SupremeOs.TvSdk.TvCommandQueue
