import Mathlib.Data.Finset.Lattice.Fold

/-!
# Numbered tickets

Tickets are numbered by a counter when they are issued.  They are then held for
a while, and used in any order, or lost.

If tickets are issued in the order of their ranks, numbers follow ranks.  If
moreover no ticket is lost below one that is used, the used numbers are
consecutive from one as soon as none is held.
-/

namespace SupremeOs.Support

open List

structure Ticket (Rank : Type*) where
  rank : Rank
  number : Nat

/-- The tickets issued so far by a counter that stands at `last`, those that are lost apart. -/
structure Issued {Rank : Type*} [LT Rank] (last : Nat) (used held : List (Ticket Rank)) :
    Prop where
  positive : ∀ ticket ∈ used ++ held, 1 ≤ ticket.number
  bounded : ∀ ticket ∈ used ++ held, ticket.number ≤ last
  distinct : ((used ++ held).map Ticket.number).Nodup
  ordered : ∀ earlier ∈ used ++ held, ∀ later ∈ used ++ held, earlier.rank < later.rank →
    earlier.number < later.number
  /-- No ticket below a used one is lost. -/
  closed : ∀ ticket ∈ used, ∀ number, 1 ≤ number → number < ticket.number →
    ∃ other ∈ used ++ held, other.number = number

namespace Issued

variable {Rank : Type*}

theorem nil [LT Rank] : Issued 0 ([] : List (Ticket Rank)) [] := by
  constructor <;> simp

variable {last : Nat} {used held : List (Ticket Rank)}

theorem perm [LT Rank] {used' held' : List (Ticket Rank)}
    (issued : Issued last used held) (sameUsed : used.Perm used') (sameHeld : held.Perm held') :
    Issued last used' held' := by
  have same : (used ++ held).Perm (used' ++ held') := sameUsed.append sameHeld
  constructor
  · intro ticket member
    exact issued.positive ticket (same.mem_iff.mpr member)
  · intro ticket member
    exact issued.bounded ticket (same.mem_iff.mpr member)
  · exact (same.map Ticket.number).nodup_iff.mp issued.distinct
  · intro earlier member later member'
    exact issued.ordered earlier (same.mem_iff.mpr member) later (same.mem_iff.mpr member')
  · intro ticket member number positive below
    rcases issued.closed ticket (sameUsed.mem_iff.mpr member) number positive below with
      ⟨other, found, equal⟩
    exact ⟨other, same.mem_iff.mp found, equal⟩

theorem issue [Preorder Rank] {rank : Rank}
    (issued : Issued last used held) (inOrder : ∀ ticket ∈ used ++ held, ticket.rank ≤ rank) :
    Issued (last + 1) used (⟨rank, last + 1⟩ :: held) := by
  have cases_mem : ∀ ticket : Ticket Rank, ticket ∈ used ++ ⟨rank, last + 1⟩ :: held →
      ticket = ⟨rank, last + 1⟩ ∨ ticket ∈ used ++ held := by
    intro ticket member
    simpa using perm_middle.mem_iff.mp member
  constructor
  · intro ticket member
    rcases cases_mem ticket member with rfl | old
    · exact Nat.le_add_left 1 last
    · exact issued.positive ticket old
  · intro ticket member
    rcases cases_mem ticket member with rfl | old
    · exact Nat.le_refl _
    · exact Nat.le_succ_of_le (issued.bounded ticket old)
  · rw [(perm_middle.map Ticket.number).nodup_iff, map_cons, nodup_cons]
    refine ⟨?_, issued.distinct⟩
    intro found
    rcases mem_map.mp found with ⟨ticket, old, equal⟩
    have bound : ticket.number ≤ last := issued.bounded ticket old
    rw [equal] at bound
    exact Nat.not_succ_le_self last bound
  · intro earlier member later member' below
    rcases cases_mem earlier member with rfl | old <;>
      rcases cases_mem later member' with rfl | old'
    · exact absurd below (lt_irrefl _)
    · exact absurd (inOrder later old') (not_le_of_gt below)
    · exact Nat.lt_succ_of_le (issued.bounded earlier old)
    · exact issued.ordered earlier old later old' below
  · intro ticket member number positive below
    rcases issued.closed ticket member number positive below with ⟨other, found, equal⟩
    exact ⟨other, perm_middle.mem_iff.mpr (.tail _ found), equal⟩

theorem use [LT Rank] {ticket : Ticket Rank} (issued : Issued last used (ticket :: held))
    (complete : ∀ number, 1 ≤ number → number < ticket.number →
      ∃ other ∈ used ++ ticket :: held, other.number = number) :
    Issued last (used ++ [ticket]) held := by
  have same : used ++ [ticket] ++ held = used ++ ticket :: held := by simp
  constructor
  · rw [same]
    exact issued.positive
  · rw [same]
    exact issued.bounded
  · rw [same]
    exact issued.distinct
  · rw [same]
    exact issued.ordered
  · intro other member number positive below
    rw [same]
    rcases mem_append.mp member with old | new
    · exact issued.closed other old number positive below
    · obtain rfl := mem_singleton.mp new
      exact complete number positive below

theorem lose [LT Rank] {ticket : Ticket Rank} (issued : Issued last used (ticket :: held))
    (largest : ∀ other ∈ used, other.number ≤ ticket.number) :
    Issued last used held := by
  have still : ∀ other, other ∈ used ++ held → other ∈ used ++ ticket :: held := by
    intro other member
    exact perm_middle.mem_iff.mpr (.tail _ member)
  constructor
  · intro other member
    exact issued.positive other (still other member)
  · intro other member
    exact issued.bounded other (still other member)
  · have distinct := issued.distinct
    rw [(perm_middle.map Ticket.number).nodup_iff, map_cons, nodup_cons]
      at distinct
    exact distinct.2
  · intro earlier member later member'
    exact issued.ordered earlier (still earlier member) later (still later member')
  · intro other member number positive below
    rcases issued.closed other member number positive below with ⟨found, isThere, equal⟩
    rcases mem_cons.mp (perm_middle.mem_iff.mp isThere) with rfl | old
    · have := largest other member
      omega
    · exact ⟨found, old, equal⟩

theorem consecutive [LT Rank] (issued : Issued last used []) :
    ∃ count, (used.map Ticket.number).Perm (List.range' 1 count) := by
  refine ⟨(used.map Ticket.number).toFinset.sup id,
    (perm_ext_iff_of_nodup (by simpa using issued.distinct) nodup_range').mpr ?_⟩
  intro number
  rw [mem_range'_1]
  constructor
  · intro member
    rcases mem_map.mp member with ⟨ticket, found, rfl⟩
    have positive := issued.positive ticket (mem_append_left _ found)
    have small : ticket.number ≤ (used.map Ticket.number).toFinset.sup id :=
      Finset.le_sup (f := id) (mem_toFinset.mpr member)
    omega
  · rintro ⟨positive, small⟩
    have nonempty : (used.map Ticket.number).toFinset.Nonempty := by
      rw [Finset.nonempty_iff_ne_empty]
      intro empty
      rw [empty, Finset.sup_empty, Nat.bot_eq_zero] at small
      omega
    rcases Finset.exists_mem_eq_sup _ nonempty id with ⟨largest, member, equal⟩
    rcases mem_map.mp (mem_toFinset.mp member) with ⟨ticket, found, rfl⟩
    rw [equal, id_eq] at small
    rcases Nat.lt_or_eq_of_le (Nat.lt_succ_iff.mp (by omega : number < ticket.number + 1)) with
      below | rfl
    · rcases issued.closed ticket found number positive below with ⟨other, isThere, rfl⟩
      exact mem_map_of_mem (by simpa using isThere)
    · exact mem_map_of_mem found

end Issued

end SupremeOs.Support
