import Mathlib.Data.List.Basic
import Mathlib.Data.List.Induction

/-!
# Ledgers of requests

Requests with ascending numbers are made for targets.  An accepted request is
carried out at once, or waits: in a queue at first, where a new request
replaces an older one for the same target, and then in a batch that is carried
out one request after the other.

The ledger is kept as long as, for every target, what waits is newer than what
was carried out, and the last request that was accepted waits, was given up, or
was the last one carried out.
-/

namespace SupremeOs.Support

open List

/-- The requests that were accepted, given up and carried out, and those that wait. -/
structure Ledger (Request : Type*) where
  /-- The number of the next request. -/
  next : Nat
  accepted : List Request
  givenUp : List Request
  done : List Request
  queued : List Request
  batches : List (List Request)

namespace Ledger

variable {Request Target : Type*} [DecidableEq Target]
variable {number : Request → Nat} {target : Request → Target}
variable {ledger : Ledger Request}

def lastFor (target : Request → Target) (key : Target) (requests : List Request) : Option Request :=
  (requests.filter fun request => decide (target request = key)).getLast?

theorem lastFor_append (key : Target) (requests : List Request) (request : Request) :
    lastFor target key (requests ++ [request]) =
      if target request = key then some request else lastFor target key requests := by
  by_cases own : target request = key <;> simp [lastFor, own, filter_append]

variable {request : Request} {others : List (List Request)}

theorem mem_of_lastFor {key : Target} {requests : List Request}
    (last : lastFor target key requests = some request) :
    request ∈ requests ∧ target request = key := by
  simpa using mem_of_getLast? last

theorem number_le_of_lastFor {key : Target} {requests : List Request} {last other : Request}
    (ascending : requests.Pairwise fun earlier later => number earlier < number later)
    (found : lastFor target key requests = some last) (member : other ∈ requests)
    (own : target other = key) : number other ≤ number last := by
  induction requests using List.reverseRecOn with
  | nil => cases member
  | append_singleton requests request ih =>
    rw [pairwise_append] at ascending
    rw [lastFor_append] at found
    rcases mem_append.mp member with old | new
    · by_cases same : target request = key
      · rw [if_pos same, Option.some.injEq] at found
        subst found
        exact Nat.le_of_lt (ascending.2.2 other old request (.head _))
      · rw [if_neg same] at found
        exact ih ascending.1 found old
    · rw [mem_singleton.mp new] at own ⊢
      rw [if_pos own, Option.some.injEq] at found
      exact Nat.le_of_eq (congrArg number found)

def Holds (ledger : Ledger Request) (request : Request) : Prop :=
  request ∈ ledger.queued ∨ ∃ batch ∈ ledger.batches, request ∈ batch

variable (number target) in
structure Kept (ledger : Ledger Request) : Prop where
  numbered : ∀ request ∈ ledger.accepted, number request < ledger.next
  ascending : ledger.accepted.Pairwise fun earlier later => number earlier < number later
  done_accepted : ∀ request ∈ ledger.done, request ∈ ledger.accepted
  in_order : ledger.done.Pairwise fun earlier later =>
    target earlier = target later → number earlier < number later
  held_accepted : ∀ request, ledger.Holds request → request ∈ ledger.accepted
  held_newer : ∀ request, ledger.Holds request → ∀ earlier ∈ ledger.done,
    target earlier = target request → number earlier < number request
  queued_newer : ∀ request ∈ ledger.queued, ∀ batch ∈ ledger.batches, ∀ earlier ∈ batch,
    target earlier = target request → number earlier < number request
  distinct : ∀ batch ∈ ledger.batches,
    batch.Pairwise fun first second => target first ≠ target second
  settled : ∀ (key : Target) (request : Request),
    lastFor target key ledger.accepted = some request →
      request ∈ ledger.givenUp ∨ lastFor target key ledger.done = some request ∨
        ledger.Holds request

theorem kept_empty : Kept number target (⟨0, [], [], [], [], []⟩ : Ledger Request) := by
  constructor <;> simp [Holds, lastFor]

section

variable (kept : Kept number target ledger)

include kept

theorem Kept.refuse :
    Kept number target { ledger with next := ledger.next + 1 } :=
  { kept with numbered := fun request member => Nat.lt_succ_of_lt (kept.numbered request member) }

theorem Kept.accepts (new : number request = ledger.next) :
    (∀ other ∈ ledger.accepted ++ [request], number other < ledger.next + 1) ∧
      (ledger.accepted ++ [request]).Pairwise
        fun earlier later => number earlier < number later := by
  constructor
  · intro other member
    rcases mem_append.mp member with old | own
    · exact Nat.lt_succ_of_lt (kept.numbered other old)
    · rw [mem_singleton.mp own, new]
      exact Nat.lt_succ_self _
  · rw [pairwise_append]
    refine ⟨kept.ascending, pairwise_singleton _ _, ?_⟩
    intro other old last own
    rw [mem_singleton.mp own, new]
    exact kept.numbered other old

theorem Kept.perform (new : number request = ledger.next)
    (free : ∀ other, ledger.Holds other → target other ≠ target request) :
    Kept number target
      { ledger with
        next := ledger.next + 1
        accepted := ledger.accepted ++ [request]
        done := ledger.done ++ [request] } where
  numbered := (kept.accepts new).1
  ascending := (kept.accepts new).2
  done_accepted other member := by
    rcases mem_append.mp member with old | own
    · exact mem_append_left _ (kept.done_accepted other old)
    · exact mem_append_right _ own
  in_order := by
    rw [pairwise_append]
    refine ⟨kept.in_order, pairwise_singleton _ _, ?_⟩
    intro other old last own _
    rw [mem_singleton.mp own, new]
    exact kept.numbered other (kept.done_accepted other old)
  held_accepted other held := mem_append_left _ (kept.held_accepted other held)
  held_newer other held earlier member same := by
    rcases mem_append.mp member with old | own
    · exact kept.held_newer other held earlier old same
    · rw [mem_singleton.mp own] at same
      exact (free other held same.symm).elim
  queued_newer := kept.queued_newer
  distinct := kept.distinct
  settled key other last := by
    rw [lastFor_append] at last ⊢
    by_cases own : target request = key
    · rw [if_pos own] at last ⊢
      exact .inr (.inl last)
    · rw [if_neg own] at last ⊢
      exact kept.settled key other last

theorem Kept.enqueue (new : number request = ledger.next) {queued : List Request}
    (replaced : ∀ other, other ∈ queued ↔
      other = request ∨ (other ∈ ledger.queued ∧ target other ≠ target request)) :
    Kept number target
      { ledger with
        next := ledger.next + 1
        accepted := ledger.accepted ++ [request]
        queued := queued } where
  numbered := (kept.accepts new).1
  ascending := (kept.accepts new).2
  done_accepted other member := mem_append_left _ (kept.done_accepted other member)
  in_order := kept.in_order
  held_accepted other held := by
    rcases held with waits | batched
    · rcases (replaced other).mp waits with rfl | ⟨old, _⟩
      · exact mem_append_right _ (.head _)
      · exact mem_append_left _ (kept.held_accepted other (.inl old))
    · exact mem_append_left _ (kept.held_accepted other (.inr batched))
  held_newer other held earlier member same := by
    rcases held with waits | batched
    · rcases (replaced other).mp waits with rfl | ⟨old, _⟩
      · rw [new]
        exact kept.numbered earlier (kept.done_accepted earlier member)
      · exact kept.held_newer other (.inl old) earlier member same
    · exact kept.held_newer other (.inr batched) earlier member same
  queued_newer other waits batch batched earlier member same := by
    rcases (replaced other).mp waits with rfl | ⟨old, _⟩
    · rw [new]
      exact kept.numbered earlier (kept.held_accepted earlier (.inr ⟨batch, batched, member⟩))
    · exact kept.queued_newer other old batch batched earlier member same
  distinct := kept.distinct
  settled key other last := by
    rw [lastFor_append] at last
    by_cases own : target request = key
    · rw [if_pos own, Option.some.injEq] at last
      exact .inr (.inr (.inl ((replaced other).mpr (.inl last.symm))))
    · rw [if_neg own] at last
      rcases kept.settled key other last with gone | carried | waits | batched
      · exact .inl gone
      · exact .inr (.inl carried)
      · have elsewhere : target other ≠ target request := fun same =>
          own (same ▸ (mem_of_lastFor last).2)
        exact .inr (.inr (.inl ((replaced other).mpr (.inr ⟨waits, elsewhere⟩))))
      · exact .inr (.inr (.inr batched))

/-- The order of the batches does not matter. -/
theorem Kept.perm {batches : List (List Request)} (same : batches.Perm ledger.batches) :
    Kept number target { ledger with batches := batches } where
  numbered := kept.numbered
  ascending := kept.ascending
  done_accepted := kept.done_accepted
  in_order := kept.in_order
  held_accepted request held := by
    simp only [Holds, same.mem_iff] at held
    exact kept.held_accepted request held
  held_newer request held := by
    simp only [Holds, same.mem_iff] at held
    exact kept.held_newer request held
  queued_newer request waits batch member :=
    kept.queued_newer request waits batch (same.mem_iff.mp member)
  distinct batch member := kept.distinct batch (same.mem_iff.mp member)
  settled key request last := by
    simp only [Holds, same.mem_iff]
    exact kept.settled key request last

theorem Kept.start {batch old : List Request}
    (every : ∀ request ∈ ledger.queued, request ∈ batch ∨ request ∈ old)
    (only : ∀ request ∈ batch, request ∈ ledger.queued)
    (distinct : batch.Pairwise fun first second => target first ≠ target second) :
    Kept number target
      { ledger with
        givenUp := ledger.givenUp ++ old
        queued := []
        batches := batch :: ledger.batches } := by
  have before : ∀ request,
      Holds { ledger with queued := [], batches := batch :: ledger.batches } request →
        ledger.Holds request := by
    rintro request (waits | ⟨other, member, inside⟩)
    · cases waits
    · rcases mem_cons.mp member with rfl | old
      · exact .inl (only request inside)
      · exact .inr ⟨other, old, inside⟩
  exact
    { kept with
      held_accepted := fun request held => kept.held_accepted request (before request held)
      held_newer := fun request held => kept.held_newer request (before request held)
      queued_newer := fun request waits => nomatch waits
      distinct := fun other member => by
        rcases mem_cons.mp member with rfl | old
        · exact distinct
        · exact kept.distinct other old
      settled := fun key request last => by
        rcases kept.settled key request last with gone | carried | waits | ⟨other, member, inside⟩
        · exact .inl (mem_append_left _ gone)
        · exact .inr (.inl carried)
        · rcases every request waits with fresh | stale
          · exact .inr (.inr (.inr ⟨batch, .head _, fresh⟩))
          · exact .inl (mem_append_right _ stale)
        · exact .inr (.inr (.inr ⟨other, .tail _ member, inside⟩)) }

end

theorem Kept.drop {batch : List Request}
    (kept : Kept number target { ledger with batches := batch :: others })
    (none_last : ∀ request ∈ batch,
      lastFor target (target request) ledger.accepted ≠ some request) :
    Kept number target { ledger with batches := others } := by
  have before : ∀ request, Holds { ledger with batches := others } request →
      Holds { ledger with batches := batch :: others } request := by
    rintro request (waits | ⟨other, member, inside⟩)
    · exact .inl waits
    · exact .inr ⟨other, .tail _ member, inside⟩
  exact
    { kept with
      held_accepted := fun request held => kept.held_accepted request (before request held)
      held_newer := fun request held => kept.held_newer request (before request held)
      queued_newer := fun request waits other member =>
        kept.queued_newer request waits other (.tail _ member)
      distinct := fun other member => kept.distinct other (.tail _ member)
      settled := fun key request last => by
        rcases kept.settled key request last with gone | carried | waits | ⟨other, member, inside⟩
        · exact .inl gone
        · exact .inr (.inl carried)
        · exact .inr (.inr (.inl waits))
        · rcases mem_cons.mp member with rfl | old
          · have own : target request = key := (mem_of_lastFor last).2
            exact (none_last request inside (own ▸ last)).elim
          · exact .inr (.inr (.inr ⟨other, old, inside⟩)) }

theorem Kept.carryOut {rest : List Request}
    (kept : Kept number target { ledger with batches := (request :: rest) :: others })
    (newer : ∀ batch ∈ others, ∀ other ∈ batch,
      target other = target request → number request < number other) :
    Kept number target
      { ledger with
        done := ledger.done ++ [request]
        batches := rest :: others } := by
  have self : Holds { ledger with batches := (request :: rest) :: others } request :=
    .inr ⟨_, .head _, mem_cons_self⟩
  have before : ∀ other, Holds { ledger with batches := rest :: others } other →
      Holds { ledger with batches := (request :: rest) :: others } other := by
    rintro other (waits | ⟨batch, member, inside⟩)
    · exact .inl waits
    · rcases mem_cons.mp member with rfl | old
      · exact .inr ⟨_, .head _, .tail _ inside⟩
      · exact .inr ⟨batch, .tail _ old, inside⟩
  have apart := pairwise_cons.mp (kept.distinct _ (.head _))
  -- Whatever still waits for the target is newer than the request.
  have later : ∀ other, Holds { ledger with batches := rest :: others } other →
      target request = target other → number request < number other := by
    rintro other (waits | ⟨batch, member, inside⟩) same
    · exact kept.queued_newer other waits _ (.head _) request (.head _) same
    · rcases mem_cons.mp member with rfl | old
      · exact (apart.1 other inside same).elim
      · exact newer batch old other inside same.symm
  exact
    { kept with
      done_accepted := fun other member => by
        rcases mem_append.mp member with old | own
        · exact kept.done_accepted other old
        · exact mem_singleton.mp own ▸ kept.held_accepted request self
      in_order := by
        rw [pairwise_append]
        refine ⟨kept.in_order, pairwise_singleton _ _, ?_⟩
        intro earlier old last own same
        rw [mem_singleton.mp own] at same ⊢
        exact kept.held_newer request self earlier old same
      held_accepted := fun other held => kept.held_accepted other (before other held)
      held_newer := fun other held earlier member same => by
        rcases mem_append.mp member with old | own
        · exact kept.held_newer other (before other held) earlier old same
        · rw [mem_singleton.mp own] at same ⊢
          exact later other held same
      queued_newer := fun other waits batch member earlier inside same => by
        rcases mem_cons.mp member with rfl | old
        · exact kept.queued_newer other waits _ (.head _) earlier
            (.tail _ inside) same
        · exact kept.queued_newer other waits batch (.tail _ old) earlier inside
            same
      distinct := fun batch member => by
        rcases mem_cons.mp member with rfl | old
        · exact apart.2
        · exact kept.distinct batch (.tail _ old)
      settled := fun key other last => by
        rw [lastFor_append]
        by_cases own : target request = key
        · rw [if_pos own]
          have newest := number_le_of_lastFor kept.ascending last
            (kept.held_accepted request self) own
          rcases kept.settled key other last with gone | carried | waits | ⟨batch, member, inside⟩
          · exact .inl gone
          · have older := kept.held_newer request self other (mem_of_lastFor carried).1
              ((mem_of_lastFor carried).2.trans own.symm)
            omega
          · exact .inr (.inr (.inl waits))
          · rcases mem_cons.mp member with rfl | old
            · rcases mem_cons.mp inside with rfl | deeper
              · exact .inr (.inl rfl)
              · exact .inr (.inr (.inr ⟨rest, .head _, deeper⟩))
            · exact .inr (.inr (.inr ⟨batch, .tail _ old, inside⟩))
        · rw [if_neg own]
          rcases kept.settled key other last with gone | carried | waits | ⟨batch, member, inside⟩
          · exact .inl gone
          · exact .inr (.inl carried)
          · exact .inr (.inr (.inl waits))
          · rcases mem_cons.mp member with rfl | old
            · rcases mem_cons.mp inside with rfl | deeper
              · exact (own (mem_of_lastFor last).2).elim
              · exact .inr (.inr (.inr ⟨rest, .head _, deeper⟩))
            · exact .inr (.inr (.inr ⟨batch, .tail _ old, inside⟩)) }

theorem Kept.settled_of_idle (kept : Kept number target ledger)
    (idle : ∀ request, ¬ ledger.Holds request) (key : Target) (request : Request)
    (last : lastFor target key ledger.accepted = some request) :
    request ∈ ledger.givenUp ∨ lastFor target key ledger.done = some request := by
  rcases kept.settled key request last with gone | carried | held
  · exact .inl gone
  · exact .inr carried
  · exact (idle request held).elim

end Ledger

end SupremeOs.Support
