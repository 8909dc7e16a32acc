import SupremeOs.Audit.Service

/-!
# The log binds its history

The rows that a verification accepts form a hash chain, so the last hash
determines every hashed field of every row, the metadata up to the order of
members.  What is logged is such a chain: at most one append of a home is
under way, so what it has read of the log is still so when it inserts.
-/

namespace SupremeOs.Audit

open Support DomainModel Crypto

/-- The rows agree on every field that is hashed. -/
structure AuditRow.Agrees (left right : AuditRow JsonNumber) : Prop where
  seq : left.seq = right.seq
  actorUserId : left.actorUserId = right.actorUserId
  action : left.action = right.action
  resourceType : left.resourceType = right.resourceType
  resourceId : left.resourceId = right.resourceId
  metadata : left.metadata.json.Same right.metadata.json
  ip : left.ip = right.ip
  createdAt : left.createdAt = right.createdAt

def auditChain (sha256Hex : String → String) : HashChain (AuditRow JsonNumber) String String where
  genesis := GENESIS
  digest := sha256Hex
  text := hashedText
  prevHash := AuditRow.prevHash
  entryHash := AuditRow.entryHash

def hashedTexts (sha256Hex : String → String) (rows : List (AuditRow JsonNumber)) : List String :=
  (auditChain sha256Hex).hashed GENESIS rows

/-- Different texts that are hashed have different digests, and none has that of the start. -/
structure NoCollision (sha256Hex : String → String) (texts : List String) : Prop where
  injective : ∀ one ∈ texts, ∀ other ∈ texts, sha256Hex one = sha256Hex other → one = other
  genesis : ∀ text ∈ texts, sha256Hex text ≠ GENESIS

section Verification

variable {sha256Hex : String → String} {rows : List (AuditRow JsonNumber)}

theorem verifyFrom_eq_ok_iff {prevHash : String} :
    verifyFrom sha256Hex prevHash rows = .ok ↔ (auditChain sha256Hex).Links prevHash rows := by
  induction rows generalizing prevHash with
  | nil => simp [verifyFrom, HashChain.Links]
  | cons row rest ih =>
    simp only [verifyFrom, HashChain.Links]
    split
    · rename_i broken
      refine iff_of_false VerifyResult.noConfusion fun links => ?_
      rcases broken with wrong | wrong
      · exact wrong links.1
      · exact wrong links.2.1
    · rename_i fine
      simp only [not_or, Ne, not_not] at fine
      rw [ih]
      exact ⟨fun links => ⟨fine.1, fine.2, links⟩, fun links => links.2.2⟩

theorem verify_eq_ok_iff :
    verify sha256Hex rows = .ok ↔ (auditChain sha256Hex).Links GENESIS rows :=
  verifyFrom_eq_ok_iff

theorem textOrNull_injective {left right : Option String}
    (same : (textOrNull left).Same (textOrNull right)) : left = right := by
  cases left with
  | none =>
    cases right with
    | none => rfl
    | some value => exact Json.noConfusion (show Json.text value = Json.null from same)
  | some value =>
    cases right with
    | none => exact Json.noConfusion (show Json.null = Json.text value from same)
    | some other =>
      rw [Json.text.inj (show Json.text other = Json.text value from same)]

theorem agrees_of_body_same {left right : AuditRow JsonNumber}
    (same : (body left).Same (body right)) : left.Agrees right := by
  rcases same with ⟨others, members, _, fields⟩
  rw [body, Json.object.injEq] at members
  subst members
  simp only [membersSame, List.mem_cons, Prod.mk.injEq, List.not_mem_nil, or_false,
    String.reduceEq, false_and, false_or, true_and, or_false, exists_eq_left, and_true]
    at fields
  rcases fields with ⟨_, seq, actor, action, resourceType, resourceId, metadata, ip, createdAt⟩
  refine ⟨?_, textOrNull_injective actor, ?_, ?_, textOrNull_injective resourceId, metadata,
    textOrNull_injective ip, ?_⟩
  · exact (Json.number.inj (show Json.number right.seq = .number left.seq from seq)).symm
  · exact (Json.text.inj (show Json.text right.action = .text left.action from action)).symm
  · exact (Json.text.inj
      (show Json.text right.resourceType = .text left.resourceType from resourceType)).symm
  · exact (Json.text.inj
      (show Json.text right.createdAt = .text left.createdAt from createdAt)).symm

theorem length_of_hashes (digest : ∀ text, (sha256Hex text).length = 64) {hash : String}
    (hashes : (auditChain sha256Hex).Hashes hash) : hash.length = 64 := by
  rcases hashes with rfl | ⟨text, rfl⟩
  · exact (by decide : GENESIS.length = 64)
  · exact digest text

theorem split_hashedText {first second : String} {one other : AuditRow JsonNumber}
    (lengths : first.length = second.length)
    (equal : hashedText first one = hashedText second other) :
    first = second ∧ one.Agrees other := by
  have characters := congrArg String.toList equal
  rw [hashedText, hashedText, String.toList_append, String.toList_append] at characters
  rcases List.append_inj characters (by rw [String.length_toList, String.length_toList, lengths])
    with ⟨hashes, texts⟩
  exact ⟨String.toList_injective hashes,
    agrees_of_body_same (same_of_canonicalJson_eq (String.toList_injective texts))⟩

theorem agree_of_verify (digest : ∀ text, (sha256Hex text).length = 64)
    {left right : List (AuditRow JsonNumber)} (leftAccepted : verify sha256Hex left = .ok)
    (rightAccepted : verify sha256Hex right = .ok) (collisionFree :
      NoCollision sha256Hex (hashedTexts sha256Hex left ++ hashedTexts sha256Hex right))
    {leftLast rightLast : AuditRow JsonNumber} (leftFound : left.getLast? = some leftLast)
    (rightFound : right.getLast? = some rightLast)
    (last : leftLast.entryHash = rightLast.entryHash) :
    List.Forall₂ AuditRow.Agrees left right := by
  apply (auditChain sha256Hex).forall₂_of_lastHash_eq
  · intro first second one other firstHash secondHash equal
    exact split_hashedText ((length_of_hashes digest firstHash).trans
      (length_of_hashes digest secondHash).symm) equal
  · exact verify_eq_ok_iff.mp leftAccepted
  · exact verify_eq_ok_iff.mp rightAccepted
  · intro one inLeft other inRight
    exact collisionFree.injective one (List.mem_append_left _ inLeft) other
      (List.mem_append_right _ inRight)
  · exact collisionFree.genesis
  · rw [HashChain.lastHash, HashChain.lastHash, leftFound, rightFound]
    exact last

end Verification

end SupremeOs.Audit
