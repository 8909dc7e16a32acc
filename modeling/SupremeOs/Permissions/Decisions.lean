import SupremeOs.Permissions.PolicyEngine

/-!
# Denials override

What is decided depends on which grants of the user there are, not on their
order, their repetition or the grants of others.  A further denial permits
nothing, a further permission refuses nothing, and whatever is permitted meets
no denial that applies.
-/

namespace SupremeOs.Permissions

open DomainModel

variable {parse : String → Option Int} {newDate : HubDate} {request : AccessRequest}
variable {grants : List Grant}

def AccessRequest.time (newDate : HubDate) (request : AccessRequest) : HubDate :=
  request.now.getD newDate

def MayAct (parse : String → Option Int) (newDate : HubDate) (request : AccessRequest) : Prop :=
  request.user.status = .active ∧
    isReached parse request.user.expiresAt (request.time newDate) = false

def Applies (parse : String → Option Int) (newDate : HubDate) (request : AccessRequest)
    (effect : Effect) (grants : List Grant) : Prop :=
  ∃ grant ∈ grants, matchesRequest parse grant request (request.time newDate) = true ∧
    grant.effect = effect

theorem userId_of_matchesRequest {grant : Grant} {now : HubDate}
    (applies : matchesRequest parse grant request now = true) :
    grant.userId = request.user.id := by
  simp only [matchesRequest, Bool.and_eq_true, decide_eq_true_eq] at applies
  exact applies.1.1.1.1.1.1

theorem any_applicable {effect : Effect} :
    ((grants.filter fun grant => matchesRequest parse grant request (request.time newDate)).any
      fun grant => decide (grant.effect = effect)) = true ↔
    Applies parse newDate request effect grants := by
  simp [decide_eq_true_eq, and_assoc, Applies]

theorem decideOn_allowed : (decideOn parse newDate request grants).allowed = true ↔
      MayAct parse newDate request ∧ ¬Applies parse newDate request .deny grants ∧
        (Applies parse newDate request .allow grants ∨
          baselineAllows request.user.userType request.resourceType request.action = true) := by
  simp only [decideOn, MayAct, ← any_applicable, AccessRequest.time]
  by_cases active : request.user.status = .active
  · cases isReached parse request.user.expiresAt (request.now.getD newDate) with
    | true => simp [active]
    | false =>
      simp only [active, ne_eq, not_true_eq_false, if_false, Bool.false_eq_true]
      split
      · simp_all
      · split
        · simp_all
        · split <;> simp_all
  · simp [active]

theorem decideOn_congr {others : List Grant}
    (same : ∀ grant : Grant, grant.userId = request.user.id → (grant ∈ grants ↔ grant ∈ others)) :
    decideOn parse newDate request grants = decideOn parse newDate request others := by
  have applicable : ∀ effect, Applies parse newDate request effect grants ↔
      Applies parse newDate request effect others := by
    intro effect
    constructor
    · rintro ⟨grant, member, applies, effect⟩
      exact ⟨grant, (same grant (userId_of_matchesRequest applies)).mp member, applies, effect⟩
    · rintro ⟨grant, member, applies, effect⟩
      exact ⟨grant, (same grant (userId_of_matchesRequest applies)).mpr member, applies, effect⟩
  have counted : ∀ effect : Effect, ((grants.filter fun grant => matchesRequest parse grant request
        (request.time newDate)).any fun grant => decide (grant.effect = effect)) =
      ((others.filter fun grant => matchesRequest parse grant request
        (request.time newDate)).any fun grant => decide (grant.effect = effect)) := by
    intro effect
    rw [Bool.eq_iff_iff, any_applicable, any_applicable]
    exact applicable effect
  have denied := counted .deny
  have allowed := counted .allow
  rw [AccessRequest.time] at denied allowed
  simp only [decideOn, denied, allowed]

theorem applies_insert {effect : Effect} {before after : List Grant} {added : Grant} :
    Applies parse newDate request effect (before ++ added :: after) ↔
      Applies parse newDate request effect (before ++ after) ∨
        (matchesRequest parse added request (request.time newDate) = true ∧
          added.effect = effect) := by
  simp only [Applies, List.mem_append, List.mem_cons]
  constructor
  · rintro ⟨grant, member | rfl | member, applies⟩
    · exact .inl ⟨grant, .inl member, applies⟩
    · exact .inr applies
    · exact .inl ⟨grant, .inr member, applies⟩
  · rintro (⟨grant, member | member, applies⟩ | applies)
    · exact ⟨grant, .inl member, applies⟩
    · exact ⟨grant, .inr (.inr member), applies⟩
    · exact ⟨added, .inr (.inl rfl), applies⟩

/-- The decisions of an engine on one request, over all lists of grants. -/
structure DenyOverrides (decided : List Grant → Decision) (userId : String) (mayAct : Prop)
    (applies : Grant → Bool) : Prop where
  /-- Order, repetition and the grants of others do not matter. -/
  determined : ∀ grants others : List Grant,
    (∀ grant : Grant, grant.userId = userId → (grant ∈ grants ↔ grant ∈ others)) →
      decided grants = decided others
  deny_antitone : ∀ (before after : List Grant) (added : Grant), added.effect = .deny →
    (decided (before ++ after)).allowed = false →
      (decided (before ++ added :: after)).allowed = false
  allow_monotone : ∀ (before after : List Grant) (added : Grant), added.effect = .allow →
    (decided (before ++ after)).allowed = true → (decided (before ++ added :: after)).allowed = true
  refused : ¬mayAct → ∀ grants, (decided grants).allowed = false
  undenied : ∀ grants, (decided grants).allowed = true →
    ∀ grant ∈ grants, applies grant = true → grant.effect ≠ .deny

theorem decisions_deny_overrides (parse : String → Option Int) (newDate : HubDate)
    (request : AccessRequest) :
    DenyOverrides (decideOn parse newDate request) request.user.id
      (MayAct parse newDate request)
      (fun grant => matchesRequest parse grant request (request.time newDate)) where
  determined _ _ same := decideOn_congr same
  deny_antitone before after added effect refused := by
    rw [← Bool.not_eq_true, decideOn_allowed] at refused ⊢
    rintro ⟨mayAct, undenied, granted⟩
    rw [applies_insert, not_or] at undenied
    refine refused ⟨mayAct, undenied.1, granted.imp_left fun applies => ?_⟩
    rcases applies_insert.mp applies with before | own
    · exact before
    · rw [effect] at own
      cases own.2
  allow_monotone before after added effect allowed := by
    rw [decideOn_allowed] at allowed ⊢
    obtain ⟨mayAct, undenied, granted⟩ := allowed
    refine ⟨mayAct, fun applies => ?_, granted.imp_left fun applies =>
      applies_insert.mpr (.inl applies)⟩
    rcases applies_insert.mp applies with before | own
    · exact undenied before
    · rw [effect] at own
      cases own.2
  refused barred grants := by
    rw [← Bool.not_eq_true, decideOn_allowed]
    exact fun allowed => barred allowed.1
  undenied grants allowed grant member applies effect :=
    (decideOn_allowed.mp allowed).2.1 ⟨grant, member, applies, effect⟩

end SupremeOs.Permissions
