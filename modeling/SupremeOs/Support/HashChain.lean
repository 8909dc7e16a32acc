import Mathlib.Data.List.Forall2
import Mathlib.Data.List.Induction

/-!
# Hash chains

Every entry of a chain keeps the hash of the entry before it and its own hash,
which is the digest of a text made of both.  If no two texts that are hashed
have the same digest, and none has the one that a chain starts with, the last
hash of a chain determines all of it.
-/

namespace SupremeOs.Support

open List

/-- What is hashed of an entry after a hash, and where the hashes are kept. -/
structure HashChain (Entry Text Hash : Type*) where
  genesis : Hash
  digest : Text → Hash
  text : Hash → Entry → Text
  prevHash : Entry → Hash
  entryHash : Entry → Hash

namespace HashChain

variable {Entry Text Hash : Type*} (chain : HashChain Entry Text Hash)

/-- Every entry follows the one before it, the first one a given hash. -/
def Links : Hash → List Entry → Prop
  | _, [] => True
  | prev, entry :: rest =>
    chain.prevHash entry = prev ∧ chain.entryHash entry = chain.digest (chain.text prev entry) ∧
      Links (chain.entryHash entry) rest

/-- The hash that the next entry has to follow. -/
def lastHash (prev : Hash) (entries : List Entry) : Hash :=
  (entries.getLast?.map chain.entryHash).getD prev

/-- The texts that are hashed to check the entries. -/
def hashed : Hash → List Entry → List Text
  | _, [] => []
  | prev, entry :: rest => chain.text prev entry :: hashed (chain.entryHash entry) rest

@[simp]
theorem lastHash_nil (prev : Hash) : chain.lastHash prev [] = prev := rfl

@[simp]
theorem lastHash_concat (prev : Hash) (entries : List Entry) (entry : Entry) :
    chain.lastHash prev (entries ++ [entry]) = chain.entryHash entry := by
  simp [lastHash]

theorem lastHash_cons (prev : Hash) (entry : Entry) (rest : List Entry) :
    chain.lastHash prev (entry :: rest) = chain.lastHash (chain.entryHash entry) rest := by
  cases rest with
  | nil => rfl
  | cons next others => simp [lastHash, getLast?_eq_some_getLast]

theorem links_concat {prev : Hash} {entries : List Entry} {entry : Entry} :
    chain.Links prev (entries ++ [entry]) ↔ chain.Links prev entries ∧
        chain.prevHash entry = chain.lastHash prev entries ∧
        chain.entryHash entry = chain.digest (chain.text (chain.lastHash prev entries) entry) := by
  induction entries generalizing prev with
  | nil => simp [Links]
  | cons first rest ih =>
    simp [Links, ih, lastHash_cons, and_assoc]

theorem hashed_concat (prev : Hash) (entries : List Entry) (entry : Entry) :
    chain.hashed prev (entries ++ [entry]) =
      chain.hashed prev entries ++ [chain.text (chain.lastHash prev entries) entry] := by
  induction entries generalizing prev with
  | nil => rfl
  | cons first rest ih => simp [hashed, ih, lastHash_cons]

/-- A hash that can stand before an entry: a digest, or the one that a chain starts with. -/
def Hashes (hash : Hash) : Prop := hash = chain.genesis ∨ ∃ text, hash = chain.digest text

theorem hashes_lastHash {entries : List Entry} (links : chain.Links chain.genesis entries) :
    chain.Hashes (chain.lastHash chain.genesis entries) := by
  rcases eq_nil_or_concat entries with rfl | ⟨init, entry, rfl⟩
  · exact .inl rfl
  · rw [concat_eq_append, links_concat] at links
    rw [concat_eq_append, lastHash_concat]
    exact .inr ⟨_, links.2.2⟩

/--
Two chains with the same last hash agree entry by entry, if the texts that are
hashed for them have different digests, none of them the starting one, and a
text determines its entry up to the agreement and the hash before it.
-/
theorem forall₂_of_lastHash_eq {Agree : Entry → Entry → Prop}
    (split : ∀ first second one other, chain.Hashes first → chain.Hashes second →
      chain.text first one = chain.text second other → first = second ∧ Agree one other)
    {left right : List Entry}
    (leftLinks : chain.Links chain.genesis left) (rightLinks : chain.Links chain.genesis right)
    (injective : ∀ one ∈ chain.hashed chain.genesis left,
      ∀ other ∈ chain.hashed chain.genesis right,
      chain.digest one = chain.digest other → one = other)
    (started : ∀ text ∈ chain.hashed chain.genesis left ++ chain.hashed chain.genesis right,
      chain.digest text ≠ chain.genesis)
    (last : chain.lastHash chain.genesis left = chain.lastHash chain.genesis right) :
    List.Forall₂ Agree left right := by
  induction left using List.reverseRecOn generalizing right with
  | nil =>
    rcases eq_nil_or_concat right with rfl | ⟨init, entry, rfl⟩
    · exact .nil
    · rw [concat_eq_append] at *
      rw [links_concat] at rightLinks
      rw [hashed_concat] at started
      rw [lastHash_nil, lastHash_concat, rightLinks.2.2] at last
      exact (started _ (by simp) last.symm).elim
  | append_singleton init entry ih =>
    rw [links_concat] at leftLinks
    rcases eq_nil_or_concat right with rfl | ⟨others, other, rfl⟩
    · rw [hashed_concat] at started
      rw [lastHash_nil, lastHash_concat, leftLinks.2.2] at last
      exact (started _ (by simp) last).elim
    · rw [concat_eq_append] at *
      rw [links_concat] at rightLinks
      simp only [hashed_concat, mem_append, mem_singleton] at injective started
      rw [lastHash_concat, lastHash_concat, leftLinks.2.2, rightLinks.2.2] at last
      have texts := injective _ (.inr rfl) _ (.inr rfl) last
      rcases split _ _ entry other (chain.hashes_lastHash leftLinks.1)
        (chain.hashes_lastHash rightLinks.1) texts with ⟨before, agree⟩
      have earlier := ih leftLinks.1 rightLinks.1
        (fun one oneHashed other otherHashed =>
          injective one (.inl oneHashed) other (.inl otherHashed))
        (fun text member => started text
          ((mem_append.mp member).imp .inl .inl)) before
      exact rel_append earlier (.cons agree .nil)

end HashChain

end SupremeOs.Support
