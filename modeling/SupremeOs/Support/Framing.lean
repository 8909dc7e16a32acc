import Mathlib.Data.List.Basic

/-!
# Items that delimit themselves

A reader takes one item off the front of a stream of symbols, or fails.  It is
stable if what it takes does not depend on what follows.  Then a stream can be
cut anywhere: items are taken off as soon as they are complete, and what is left
waits for more.
-/

namespace SupremeOs.Support.Framing

open List

variable {Symbol Item Error : Type*}

abbrev Reader (Symbol Item Error : Type*) := List Symbol → Except Error (Item × List Symbol)

/-- What follows does not change what is read. -/
def Stable (read : Reader Symbol Item Error) : Prop :=
  ∀ ⦃stream item rest⦄, read stream = .ok (item, rest) →
    ∀ more, read (stream ++ more) = .ok (item, rest ++ more)

def Advances (read : Reader Symbol Item Error) : Prop :=
  ∀ ⦃stream item rest⦄, read stream = .ok (item, rest) → rest.length < stream.length

/-- The items that are taken off a stream one after the other, and what is left. -/
inductive Takes (read : Reader Symbol Item Error) : List Symbol → List Item → List Symbol → Prop
  | nil (stream : List Symbol) : Takes read stream [] stream
  | cons {stream rest left : List Symbol} {item : Item} {items : List Item} :
      read stream = .ok (item, rest) → Takes read rest items left →
        Takes read stream (item :: items) left

/-- Read items until the reader fails, and say how it does. -/
def drain (read : Reader Symbol Item Error) (outOfFuel : Error) :
    Nat → List Symbol → List Item × List Symbol × Error
  | 0, stream => ([], stream, outOfFuel)
  | fuel + 1, stream =>
    match read stream with
    | .error error => ([], stream, error)
    | .ok (item, rest) =>
      let (items, left, error) := drain read outOfFuel fuel rest
      (item :: items, left, error)

/-- Read items until nothing is left. -/
def readAll (read : Reader Symbol Item Error) (outOfFuel : Error) :
    Nat → List Symbol → Except Error (List Item)
  | _, [] => .ok []
  | 0, _ :: _ => .error outOfFuel
  | fuel + 1, stream =>
    match read stream with
    | .error error => .error error
    | .ok (item, rest) => (readAll read outOfFuel fuel rest).map (item :: ·)

def Shrinks (read : Reader Symbol Item Error) : Prop :=
  ∀ ⦃stream item rest⦄, read stream = .ok (item, rest) → rest.length ≤ stream.length

section Readers

variable {Other : Type*}

/-- Read an item, and go on as it says. -/
def andThen (first : Reader Symbol Item Error) (next : Item → Reader Symbol Other Error) :
    Reader Symbol Other Error := fun stream =>
  match first stream with
  | .error error => .error error
  | .ok (item, rest) => next item rest

/-- Read an item and turn it into another one. -/
def converting (image : Item → Other) (read : Reader Symbol Item Error) :
    Reader Symbol Other Error := fun stream =>
  (read stream).map fun taken => (image taken.1, taken.2)

def exactly (count : Nat) (error : Error) : Reader Symbol (List Symbol) Error := fun stream =>
  if stream.length < count then .error error else .ok (stream.take count, stream.drop count)

variable {first : Reader Symbol Item Error} {next : Item → Reader Symbol Other Error}
variable {stream rest : List Symbol} {item : Item} {error : Error}

theorem andThen_of_ok (ok : first stream = .ok (item, rest)) :
    andThen first next stream = next item rest := by
  rw [andThen, ok]

theorem andThen_eq_ok_iff {other : Other} {last : List Symbol} :
    andThen first next stream = .ok (other, last) ↔
      ∃ item rest, first stream = .ok (item, rest) ∧ next item rest = .ok (other, last) := by
  rw [andThen]
  cases first stream with
  | error error => simp
  | ok taken =>
    obtain ⟨item, rest⟩ := taken
    simp

theorem converting_eq_ok_iff {image : Item → Other} {other : Other} :
    converting image first stream = .ok (other, rest) ↔
      ∃ item, first stream = .ok (item, rest) ∧ image item = other := by
  rw [converting]
  cases first stream with
  | error error => simp [Except.map]
  | ok taken =>
    obtain ⟨item, left⟩ := taken
    simp only [Except.map, Except.ok.injEq, Prod.mk.injEq]
    constructor
    · rintro ⟨same, rfl⟩
      exact ⟨item, ⟨rfl, rfl⟩, same⟩
    · rintro ⟨item, ⟨rfl, rfl⟩, same⟩
      exact ⟨same, rfl⟩

theorem exactly_eq_ok_iff {count : Nat} {taken : List Symbol} :
    exactly count error stream = .ok (taken, rest) ↔
      taken.length = count ∧ stream = taken ++ rest := by
  rw [exactly]
  constructor
  · intro ok
    split at ok
    · cases ok
    · rename_i enough
      cases Except.ok.inj ok
      exact ⟨length_take_of_le (Nat.le_of_not_lt enough), (take_append_drop _ _).symm⟩
  · rintro ⟨rfl, rfl⟩
    rw [length_append, if_neg (Nat.not_lt.mpr (Nat.le_add_right _ _)), take_left, drop_left]

theorem Stable.andThen (stable : Stable first) (later : ∀ item, Stable (next item)) :
    Stable (andThen first next) := by
  intro stream other last ok more
  rw [andThen_eq_ok_iff] at ok ⊢
  obtain ⟨item, rest, taken, ok⟩ := ok
  exact ⟨item, rest ++ more, stable taken more, later item ok more⟩

theorem Stable.converting (stable : Stable first) (image : Item → Other) :
    Stable (converting image first) := by
  intro stream other rest ok more
  rw [converting_eq_ok_iff] at ok ⊢
  obtain ⟨item, ok, same⟩ := ok
  exact ⟨item, stable ok more, same⟩

theorem stable_exactly (count : Nat) (error : Error) :
    Stable (exactly count error : Reader Symbol (List Symbol) Error) := by
  intro stream taken rest ok more
  rw [exactly_eq_ok_iff] at ok ⊢
  exact ⟨ok.1, by rw [ok.2, append_assoc]⟩

theorem Advances.shrinks (advances : Advances first) : Shrinks first :=
  fun _ _ _ ok => Nat.le_of_lt (advances ok)

theorem Advances.andThen (advances : Advances first) (later : ∀ item, Shrinks (next item)) :
    Advances (andThen first next) := by
  intro stream other last ok
  obtain ⟨item, rest, taken, ok⟩ := andThen_eq_ok_iff.mp ok
  exact Nat.lt_of_le_of_lt (later item ok) (advances taken)

theorem Shrinks.andThen (shrinks : Shrinks first) (later : ∀ item, Shrinks (next item)) :
    Shrinks (andThen first next) := by
  intro stream other last ok
  obtain ⟨item, rest, taken, ok⟩ := andThen_eq_ok_iff.mp ok
  exact Nat.le_trans (later item ok) (shrinks taken)

theorem Advances.converting (advances : Advances first) (image : Item → Other) :
    Advances (converting image first) := by
  intro stream other rest ok
  obtain ⟨item, ok, -⟩ := converting_eq_ok_iff.mp ok
  exact advances ok

theorem Shrinks.converting (shrinks : Shrinks first) (image : Item → Other) :
    Shrinks (converting image first) := by
  intro stream other rest ok
  obtain ⟨item, ok, -⟩ := converting_eq_ok_iff.mp ok
  exact shrinks ok

theorem shrinks_exactly (count : Nat) (error : Error) :
    Shrinks (exactly count error : Reader Symbol (List Symbol) Error) := by
  intro stream taken rest ok
  obtain ⟨-, rfl⟩ := exactly_eq_ok_iff.mp ok
  rw [length_append]
  exact Nat.le_add_left _ _

end Readers

variable {read : Reader Symbol Item Error} {stream rest left more : List Symbol}
variable {item : Item} {items taken : List Item} {error outOfFuel : Error} {fuel : Nat}

theorem Takes.trans {others : List Item} {last : List Symbol} (first : Takes read stream items rest)
    (second : Takes read rest others last) : Takes read stream (items ++ others) last := by
  induction first with
  | nil => exact second
  | cons taken _ ih => exact .cons taken (ih second)

theorem Takes.append (stable : Stable read) (takes : Takes read stream items left)
    (more : List Symbol) : Takes read (stream ++ more) items (left ++ more) := by
  induction takes with
  | nil => exact .nil _
  | cons taken _ ih => exact .cons (stable taken more) ih

theorem Takes.length_le (advances : Advances read) (takes : Takes read stream items left) :
    left.length + items.length ≤ stream.length := by
  induction takes with
  | nil => exact Nat.le_refl _
  | cons taken _ ih =>
    have shorter := advances taken
    simp only [length_cons]
    omega

/-- Until the reader fails, there is one way to take items off. -/
theorem Takes.unique {others : List Item} {last : List Symbol} {errorToo : Error}
    (first : Takes read stream items left) (stops : read left = .error error)
    (second : Takes read stream others last) (stopsToo : read last = .error errorToo) :
    items = others ∧ left = last := by
  induction first generalizing others with
  | nil =>
    cases second with
    | nil => exact ⟨rfl, rfl⟩
    | cons taken _ =>
      rw [stops] at taken
      cases taken
  | cons taken _ ih =>
    cases second with
    | nil =>
      rw [stopsToo] at taken
      cases taken
    | cons takenToo others =>
      rw [taken] at takenToo
      cases Except.ok.inj takenToo
      obtain ⟨rfl, rfl⟩ := ih stops others
      exact ⟨rfl, rfl⟩

theorem Advances.nil (advances : Advances read) : ∃ error, read [] = .error error := by
  cases result : read [] with
  | error error => exact ⟨error, rfl⟩
  | ok result => exact absurd (advances result) (Nat.not_lt_zero _)

theorem drain_takes (advances : Advances read) (enough : stream.length < fuel) :
    Takes read stream (drain read outOfFuel fuel stream).1 (drain read outOfFuel fuel stream).2.1 ∧
      read (drain read outOfFuel fuel stream).2.1 =
        .error (drain read outOfFuel fuel stream).2.2 := by
  induction fuel generalizing stream with
  | zero => cases enough
  | succ fuel ih =>
    cases result : read stream with
    | error error =>
      rw [drain, result]
      exact ⟨.nil _, result⟩
    | ok taken =>
      obtain ⟨item, rest⟩ := taken
      have shorter := advances result
      obtain ⟨takes, stops⟩ := ih (show rest.length < fuel by omega)
      simp only [drain, result]
      exact ⟨.cons result takes, stops⟩

theorem readAll_eq_ok_iff (advances : Advances read) (enough : stream.length ≤ fuel) :
    readAll read outOfFuel fuel stream = .ok items ↔ Takes read stream items [] := by
  induction fuel generalizing stream items with
  | zero =>
    obtain rfl := length_eq_zero_iff.mp (Nat.le_zero.mp enough)
    constructor
    · intro ok
      cases ok
      exact .nil _
    · intro takes
      have none := takes.length_le advances
      obtain rfl : items = [] := length_eq_zero_iff.mp (by simpa using none)
      rfl
  | succ fuel ih =>
    cases stream with
    | nil =>
      constructor
      · intro ok
        cases ok
        exact .nil _
      · intro takes
        have none := takes.length_le advances
        obtain rfl : items = [] := length_eq_zero_iff.mp (by simpa using none)
        rfl
    | cons symbol others =>
      cases result : read (symbol :: others) with
      | error error =>
        simp only [readAll, result]
        refine ⟨nofun, fun takes => ?_⟩
        cases takes with
        | cons taken _ =>
          rw [result] at taken
          cases taken
      | ok taken =>
        obtain ⟨item, rest⟩ := taken
        have shorter := advances result
        have enough : rest.length ≤ fuel := by
          simp only [length_cons] at shorter enough
          omega
        simp only [readAll, result]
        constructor
        · intro ok
          cases others : readAll read outOfFuel fuel rest with
          | error error =>
            rw [others] at ok
            cases ok
          | ok items =>
            rw [others] at ok
            cases ok
            exact .cons result ((ih enough).mp others)
        · intro takes
          cases takes with
          | cons taken later =>
            rw [result] at taken
            cases Except.ok.inj taken
            rw [(ih enough).mpr later]
            rfl

section Written

variable {write : Item → List Symbol}

theorem takes_written (stable : Stable read)
    (reads : ∀ item ∈ items, read (write item) = .ok (item, [])) (more : List Symbol) :
    Takes read (items.flatMap write ++ more) items more := by
  induction items with
  | nil => exact .nil more
  | cons item others ih =>
    rw [flatMap_cons, append_assoc]
    refine .cons ?_ (ih fun item member => reads item (.tail _ member))
    have taken := stable (reads item (.head _)) (others.flatMap write ++ more)
    rwa [nil_append] at taken

theorem read_truncated (stable : Stable read) (reads : read (write item) = .ok (item, []))
    (starts : stream <+: write item) (short : stream ≠ write item) :
    ∃ error, read stream = .error error := by
  cases result : read stream with
  | error error => exact ⟨error, rfl⟩
  | ok taken =>
    obtain ⟨other, rest⟩ := taken
    obtain ⟨missing, same⟩ := starts
    have whole := stable result missing
    rw [same, reads] at whole
    obtain ⟨-, none⟩ := Prod.mk.inj (Except.ok.inj whole)
    obtain ⟨-, rfl⟩ := append_eq_nil_iff.mp none.symm
    exact absurd (by rwa [append_nil] at same) short

structure Started (write : Item → List Symbol) (items : List Item) (stream : List Symbol)
    (count : Nat) (left : List Symbol) : Prop where
  le : count ≤ items.length
  stream_eq : stream = (items.take count).flatMap write ++ left
  /-- What is left is a part of the next item, if there is one. -/
  open_item : ∀ item ∈ items[count]?, left <+: write item ∧ left ≠ write item
  closed : items.length ≤ count → left = []

theorem takes_started (stable : Stable read) (advances : Advances read)
    (reads : ∀ item ∈ items, read (write item) = .ok (item, []))
    (starts : stream <+: items.flatMap write) (takes : Takes read stream taken left)
    (stops : read left = .error error) :
    ∃ count, taken = items.take count ∧ Started write items stream count left := by
  induction items generalizing stream taken with
  | nil =>
    obtain rfl := prefix_nil.mp starts
    have none := takes.length_le advances
    simp only [length_nil, Nat.le_zero, Nat.add_eq_zero_iff, length_eq_zero_iff] at none
    obtain ⟨rfl, rfl⟩ := none
    exact ⟨0, rfl, Nat.le_refl _, rfl, nofun, fun _ => rfl⟩
  | cons item others ih =>
    rw [flatMap_cons] at starts
    have own := reads item (.head _)
    by_cases complete : write item <+: stream
    · obtain ⟨rest, rfl⟩ := complete
      have first : read (write item ++ rest) = .ok (item, rest) := stable own rest
      cases takes with
      | nil =>
        rw [stops] at first
        cases first
      | cons same later =>
        rw [first] at same
        cases Except.ok.inj same
        obtain ⟨count, rfl, started⟩ :=
          ih (fun item member => reads item (.tail _ member))
            ((prefix_append_right_inj _).mp starts) later
        refine ⟨count + 1, rfl, Nat.succ_le_succ started.le, ?_, started.open_item,
          fun all => started.closed (Nat.le_of_succ_le_succ all)⟩
        rw [take_succ_cons, flatMap_cons, append_assoc, ← started.stream_eq]
    · -- The first item is not complete yet.
      have part : stream <+: write item :=
        (List.prefix_or_prefix_of_prefix starts (prefix_append _ _)).resolve_right complete
      have short : stream ≠ write item := by
        rintro rfl
        exact complete (prefix_refl _)
      obtain ⟨error, truncated⟩ := read_truncated stable own part short
      obtain ⟨rfl, rfl⟩ := takes.unique stops (.nil stream) truncated
      exact ⟨0, rfl, Nat.zero_le _, rfl, by simp [part, short], by simp⟩

theorem Started.complete_iff {count : Nat} (started : Started write items stream count left)
    {number : Nat} (le : number ≤ items.length) :
    ((items.take number).flatMap write).length ≤ stream.length ↔ number ≤ count := by
  have total : stream.length = ((items.take count).flatMap write).length + left.length := by
    conv_lhs => rw [started.stream_eq, length_append]
  have grows : ∀ {less more : Nat}, less ≤ more →
      ((items.take less).flatMap write).length ≤ ((items.take more).flatMap write).length := by
    intro less more order
    obtain ⟨further, split⟩ := take_prefix_take_left order
    rw [← split, flatMap_append, length_append]
    exact Nat.le_add_right _ _
  constructor
  · intro complete
    by_contra later
    have inside : count < items.length := by omega
    obtain ⟨part, short⟩ := started.open_item items[count] (by simp [inside])
    have shorter : left.length < (write items[count]).length := by
      refine Nat.lt_of_le_of_ne part.length_le fun same => short (part.eq_of_length same)
    have next := grows (Nat.succ_le_of_lt (Nat.lt_of_not_le later))
    rw [take_succ_eq_append_getElem inside, flatMap_append, length_append,
      flatMap_singleton] at next
    omega
  · intro before
    exact Nat.le_trans (grows before) (by omega)

theorem Started.all {count : Nat} (started : Started write items (items.flatMap write) count left) :
    items.take count = items ∧ left = [] := by
  have all : items.length ≤ count :=
    (started.complete_iff (Nat.le_refl _)).mp (Nat.le_of_eq (by rw [take_length]))
  exact ⟨take_of_length_le all, started.closed all⟩

end Written

structure Received (Symbol Item Report : Type*) where
  delivered : List Item
  buffer : List Symbol
  reported : List Report

section Chunks

variable {Report : Type*} (read) (outOfFuel) (report : Error → List Report)

/-- Append a chunk to the buffer and take off what is complete. -/
def feed (buffer chunk : List Symbol) : Received Symbol Item Report :=
  let (items, left, error) := drain read outOfFuel ((buffer ++ chunk).length + 1) (buffer ++ chunk)
  ⟨items, left, report error⟩

def feedAll (handle : List Symbol → List Symbol → Received Symbol Item Report) :
    List Symbol → List (List Symbol) → Received Symbol Item Report
  | buffer, [] => ⟨[], buffer, []⟩
  | buffer, chunk :: rest =>
    let now := handle buffer chunk
    let later := feedAll handle now.buffer rest
    ⟨now.delivered ++ later.delivered, later.buffer, now.reported ++ later.reported⟩

variable {read outOfFuel report} {buffer chunk : List Symbol} {chunks : List (List Symbol)}

theorem feed_takes (advances : Advances read) :
    Takes read (buffer ++ chunk) (feed read outOfFuel report buffer chunk).delivered
        (feed read outOfFuel report buffer chunk).buffer ∧
      ∃ error, read (feed read outOfFuel report buffer chunk).buffer = .error error ∧
        (feed read outOfFuel report buffer chunk).reported = report error := by
  obtain ⟨takes, stops⟩ := drain_takes advances (Nat.lt_succ_self (buffer ++ chunk).length)
  exact ⟨takes, _, stops, rfl⟩

theorem feedAll_takes (stable : Stable read) (advances : Advances read) :
    Takes read (buffer ++ chunks.flatten) (feedAll (feed read outOfFuel report) buffer
      chunks).delivered
      (feedAll (feed read outOfFuel report) buffer chunks).buffer := by
  induction chunks generalizing buffer with
  | nil =>
    rw [flatten_nil, append_nil]
    exact .nil buffer
  | cons chunk rest ih =>
    rw [flatten_cons, ← append_assoc]
    exact ((feed_takes advances).1.append stable rest.flatten).trans ih

theorem feedAll_stops (advances : Advances read) (stops : ∃ error, read buffer = .error error) :
    ∃ error, read (feedAll (feed read outOfFuel report) buffer chunks).buffer = .error error := by
  induction chunks generalizing buffer with
  | nil => exact stops
  | cons chunk rest ih =>
    obtain ⟨-, error, stops, -⟩ := feed_takes advances
    exact ih ⟨error, stops⟩

variable {write : Item → List Symbol}

/-- While items are incomplete, nothing is reported. -/
theorem feedAll_quiet (stable : Stable read)
    (advances : Advances read) (reads : ∀ item ∈ items, read (write item) = .ok (item, []))
    (quiet : ∀ item ∈ items, ∀ part, part <+: write item → part ≠ write item →
      ∀ error, read part = .error error → report error = [])
    (silent : ∀ error, read [] = .error error → report error = [])
    (starts : buffer ++ chunks.flatten <+: items.flatMap write) :
    (feedAll (feed read outOfFuel report) buffer chunks).reported = [] := by
  induction chunks generalizing buffer items with
  | nil => rfl
  | cons chunk rest ih =>
    rw [flatten_cons, ← append_assoc] at starts
    have first : buffer ++ chunk <+: items.flatMap write :=
      (prefix_append _ _).trans starts
    obtain ⟨takes, error, stops, reported⟩ := feed_takes advances
    obtain ⟨count, -, started⟩ := takes_started stable advances reads first takes stops
    have none : report error = [] := by
      by_cases inside : count < items.length
      · obtain ⟨part, short⟩ := started.open_item items[count] (by simp [inside])
        exact quiet _ (getElem_mem inside) _ part short error stops
      · rw [started.closed (Nat.le_of_not_lt inside)] at stops
        exact silent error stops
    -- The other chunks belong to the items that are not complete yet.
    have later : (feed read outOfFuel report buffer chunk).buffer ++ rest.flatten <+:
        (items.drop count).flatMap write := by
      rw [started.stream_eq, append_assoc] at starts
      conv at starts => rhs; rw [← take_append_drop count items, flatMap_append]
      exact (prefix_append_right_inj _).mp starts
    have members : ∀ item ∈ items.drop count, item ∈ items := fun item =>
      mem_of_mem_drop
    rw [feedAll, reported, none, nil_append]
    exact ih (fun item member => reads item (members item member))
      (fun item member => quiet item (members item member)) later

/-- What a receiver makes of the frames of some items, however they are cut into chunks. -/
structure Reassembles (receive : List (List Symbol) → Received Symbol Item Report)
    (write : Item → List Symbol) (items : List Item) (chunks : List (List Symbol)) : Prop where
  /-- After each chunk, those items are delivered whose frames are complete. -/
  complete : ∀ received, received <+: chunks → (receive received).reported = [] ∧
    ∃ count, (receive received).delivered = items.take count ∧ count ≤ items.length ∧
      ∀ number ≤ items.length,
        ((items.take number).flatMap write).length ≤ received.flatten.length ↔ number ≤ count
  delivered : (receive chunks).delivered = items
  buffer : (receive chunks).buffer = []

theorem feedAll_reassembles (stable : Stable read)
    (advances : Advances read) (reads : ∀ item ∈ items, read (write item) = .ok (item, []))
    (quiet : ∀ item ∈ items, ∀ part, part <+: write item → part ≠ write item →
      ∀ error, read part = .error error → report error = [])
    (silent : ∀ error, read [] = .error error → report error = [])
    (whole : chunks.flatten = items.flatMap write) :
    Reassembles (feedAll (feed read outOfFuel report) []) write items chunks := by
  have started : ∀ received, received <+: chunks → ∃ count,
      (feedAll (feed read outOfFuel report) [] received).delivered = items.take count ∧
        Started write items received.flatten count
          (feedAll (feed read outOfFuel report) [] received).buffer := by
    intro received starts
    have takes : Takes read ([] ++ received.flatten) _
        (feedAll (feed read outOfFuel report) [] received).buffer := feedAll_takes stable advances
    obtain ⟨error, stops⟩ : ∃ error,
        read (feedAll (feed read outOfFuel report) [] received).buffer = .error error :=
      feedAll_stops advances advances.nil
    have part : received.flatten <+: items.flatMap write := by
      obtain ⟨others, rfl⟩ := starts
      rw [← whole, flatten_append]
      exact prefix_append _ _
    exact takes_started stable advances reads part takes stops
  obtain ⟨count, delivered, all⟩ := started chunks (prefix_refl _)
  rw [whole] at all
  refine ⟨fun received starts => ⟨?_, ?_⟩, by rw [delivered, all.all.1], all.all.2⟩
  · refine feedAll_quiet stable advances reads quiet silent ?_
    obtain ⟨others, rfl⟩ := starts
    rw [nil_append, ← whole, flatten_append]
    exact prefix_append _ _
  · obtain ⟨count, delivered, part⟩ := started received starts
    exact ⟨count, delivered, part.le, fun number le => part.complete_iff le⟩

end Chunks

end SupremeOs.Support.Framing
