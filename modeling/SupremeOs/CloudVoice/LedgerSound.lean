import SupremeOs.CloudVoice.LinksHold

/-!
# The links agree with the ledger

A link is kept exactly while a token set of it has been handed out and it has
not ended, and its generation is the number of the last token set.  So a refresh
token has been rotated exactly if it is not of that generation.
-/

namespace SupremeOs.CloudVoice

open DomainModel Support Option

variable {settings : Settings} {provider : OAuthProvider} {ledger : Ledger}

/-- The code's entry is of an issue, and its link has no token set yet. -/
structure CodeSound (ledger : Ledger) (code : String) (entry : CodeEntry) : Prop where
  issued : ⟨entry.record.linkId, code, entry.clientId, entry.redirectUri⟩ ∈ ledger.issues
  own : entry.record.clientId = entry.clientId
  first : entry.record.refreshGen = 0
  unused : ∀ grant ∈ ledger.grants, grant.linkId ≠ entry.record.linkId

structure LinkSound (ledger : Ledger) (linkId : String) (record : LinkRecord) : Prop where
  named : record.linkId = linkId
  going : linkId ∉ ledger.ended
  generation : ledger.generation linkId = record.refreshGen + 1
  own : ∀ grant ∈ ledger.grants, grant.linkId = linkId → grant.clientId = record.clientId

structure GrantSound (settings : Settings) (ledger : Ledger) (grant : Grant) : Prop where
  access : grant.access = signText settings.hmac (accessPayload grant.linkId grant.accessExp)
  refresh : grant.refresh =
    signText settings.hmac (refreshPayload grant.linkId grant.refreshExp grant.generation)
  issued : ∃ issue ∈ ledger.issues, issue.linkId = grant.linkId ∧ issue.clientId = grant.clientId ∧
    ∀ code redirectUri, grant.source = .code code redirectUri →
      issue.code = code ∧ some issue.redirectUri = redirectUri
  past : grant.generation < ledger.generation grant.linkId
  /-- All but the last token set of a link have been rotated. -/
  rotated : grant.generation + 1 < ledger.generation grant.linkId → ledger.Rotated grant.refresh
  refreshed : ∀ token, grant.source = .refresh token →
    ∃ earlier ∈ ledger.grants, earlier.refresh = token ∧ earlier.linkId = grant.linkId ∧
      earlier.clientId = grant.clientId ∧ earlier.generation + 1 = grant.generation

structure LedgerSound (settings : Settings) (provider : OAuthProvider) (ledger : Ledger) :
    Prop where
  codes : ∀ code entry, provider.codes.get code = some entry → CodeSound ledger code entry
  links : ∀ linkId record, provider.links.get linkId = some record → LinkSound ledger linkId record
  grants : ∀ grant ∈ ledger.grants, GrantSound settings ledger grant
  kept : ∀ grant ∈ ledger.grants, grant.linkId ∉ ledger.ended →
    ∃ record, provider.links.get grant.linkId = some record
  numbered : ∀ grant ∈ ledger.grants, ∀ other ∈ ledger.grants, grant.linkId = other.linkId →
    grant.generation = other.generation → grant = other
  codeOnce : (ledger.grants.filterMap Grant.code?).Nodup
  endedGranted : ∀ linkId ∈ ledger.ended, ∃ grant ∈ ledger.grants, grant.linkId = linkId
  issuedOnce : ∀ issue ∈ ledger.issues, ∀ other ∈ ledger.issues,
    issue.linkId = other.linkId ∨ issue.code = other.code → issue = other
  handedOut : ∀ token ∈ ledger.handedOut,
    (∃ grant ∈ ledger.grants, token = grant.access ∨ token = grant.refresh) ∨
      ∃ clientId redirectUri exp,
        token = signText settings.hmac (ticketPayload clientId redirectUri exp)

theorem LedgerSound.empty : LedgerSound settings .empty .empty := by
  constructor <;> simp [OAuthProvider.empty, Ledger.empty]

theorem not_mem_minted {token : Option String} {now : Int}
    (notMinted : ledger.minted token now = none) {grant : Grant} (member : grant ∈ ledger.grants) :
    ¬(token = some grant.access ∧ now ≤ grant.accessExp) ∧
      ¬(token = some grant.refresh ∧ now ≤ grant.refreshExp) := by
  have other := List.find?_eq_none.mp notMinted grant member
  simpa only [decide_eq_true_eq, not_or] using other

/-- A token as the verification sees it. -/
inductive Presented (settings : Settings) (ledger : Ledger) (token : Option String) (now : Int) :
    Except Thrown (Option Json) → Prop where
  | nothing (notMinted : ledger.minted token now = none) :
      Presented settings ledger token now (.ok none)
  | access (grant : Grant) (member : grant ∈ ledger.grants) (same : token = some grant.access)
      (inTime : now ≤ grant.accessExp) :
      Presented settings ledger token now (.ok (some (accessPayload grant.linkId grant.accessExp)))
  | refresh (grant : Grant) (member : grant ∈ ledger.grants) (same : token = some grant.refresh)
      (inTime : now ≤ grant.refreshExp) :
      Presented settings ledger token now
        (.ok (some (refreshPayload grant.linkId grant.refreshExp grant.generation)))
  | ticket (clientId redirectUri : String) (exp : Int) (notMinted : ledger.minted
    token now = none) :
      Presented settings ledger token now (.ok (some (ticketPayload clientId redirectUri exp)))

namespace LedgerSound

variable (sound : LedgerSound settings provider ledger)
include sound

variable {grant : Grant} {now : Int}

theorem verify_access (member : grant ∈ ledger.grants) :
    settings.verifyToken now (some grant.access) =
      .ok (if now ≤ grant.accessExp then some (accessPayload grant.linkId grant.accessExp)
        else none) := by
  rw [(sound.grants grant member).access, verifyToken_access]

theorem verify_refresh (member : grant ∈ ledger.grants) :
    settings.verifyToken now (some grant.refresh) =
      .ok (if now ≤ grant.refreshExp then
          some (refreshPayload grant.linkId grant.refreshExp grant.generation)
        else none) := by
  rw [(sound.grants grant member).refresh, verifyToken_refresh]

theorem verify_minted {token : Option String} (found : ledger.minted token now = some grant) :
    ∃ payload, settings.verifyToken now token = .ok (some payload) ∧
      textMember "lid" payload = some grant.linkId := by
  have member := List.mem_of_find?_eq_some found
  have presented := List.find?_some found
  simp only [decide_eq_true_eq] at presented
  rcases presented with ⟨rfl, inTime⟩ | ⟨rfl, inTime⟩
  · exact ⟨_, by rw [sound.verify_access member, if_pos inTime], textMember_lid_access⟩
  · exact ⟨_, by rw [sound.verify_refresh member, if_pos inTime], textMember_lid_refresh⟩

theorem presented {token : Option String} (unforged : ledger.Unforged settings token) :
    Presented settings ledger token now (settings.verifyToken now token) := by
  have fresh : ∀ {verified}, settings.verifyToken now token = .ok verified →
      (∀ payload ∈ verified, textMember "lid" payload = none) → ledger.minted token now = none := by
    intro verified value unlinked
    cases found : ledger.minted token now with
    | none => rfl
    | some grant =>
      rcases sound.verify_minted found with ⟨payload, same, linked⟩
      rw [value, Except.ok.injEq] at same
      rw [unlinked payload same] at linked
      cases linked
  by_cases authentic : ∃ text ∈ token, Authentic settings.hmac text
  · rcases authentic with ⟨text, rfl, signed⟩
    rcases sound.handedOut text (unforged text rfl signed) with
      ⟨grant, member, rfl | rfl⟩ | ⟨clientId, redirectUri, exp, rfl⟩
    · have value : settings.verifyToken now (some grant.access) = _ := sound.verify_access member
      rw [value]
      split
      · rename_i inTime
        exact .access grant member rfl inTime
      · rename_i late
        rw [if_neg late] at value
        exact .nothing (fresh value (by simp))
    · have value : settings.verifyToken now (some grant.refresh) = _ := sound.verify_refresh member
      rw [value]
      split
      · rename_i inTime
        exact .refresh grant member rfl inTime
      · rename_i late
        rw [if_neg late] at value
        exact .nothing (fresh value (by simp))
    · have value := @verifyToken_ticket settings now clientId redirectUri exp
      rw [value]
      split
      · rename_i inTime
        rw [if_pos inTime] at value
        exact .ticket clientId redirectUri exp (fresh value (by simp))
      · rename_i late
        rw [if_neg late] at value
        exact .nothing (fresh value (by simp))
  · have value := @verifyToken_of_not_authentic settings now token
      (fun text there signed => authentic ⟨text, there, signed⟩)
    rw [value]
    exact .nothing (fresh value (by simp))

section

variable (member : grant ∈ ledger.grants)

include member

theorem eq_of_refresh {other : Grant}
    (otherMember : other ∈ ledger.grants) (same : grant.refresh = other.refresh) :
    grant = other := by
  rw [(sound.grants grant member).refresh, (sound.grants other otherMember).refresh] at same
  have payloads := refreshPayload_inj.mp (signText_injective same)
  exact sound.numbered grant member other otherMember payloads.1 payloads.2.2

theorem eq_of_access {other : Grant}
    (otherMember : other ∈ ledger.grants) (same : grant.access = other.access) :
    grant.linkId = other.linkId ∧ grant.accessExp = other.accessExp := by
  rw [(sound.grants grant member).access, (sound.grants other otherMember).access] at same
  exact accessPayload_inj.mp (signText_injective same)

theorem access_ne_refresh {other : Grant}
    (otherMember : other ∈ ledger.grants) : grant.access ≠ other.refresh := by
  rw [(sound.grants grant member).access, (sound.grants other otherMember).refresh]
  exact fun same => accessPayload_ne_refreshPayload (signText_injective same)

theorem rotated_iff : ledger.Rotated grant.refresh ↔
      grant.generation + 1 < ledger.generation grant.linkId := by
  constructor
  · rintro ⟨later, laterMember, source⟩
    rcases (sound.grants later laterMember).refreshed _ source with
      ⟨earlier, earlierMember, same, link, _, next⟩
    rw [sound.eq_of_refresh earlierMember member same] at link next
    rw [next, link]
    exact (sound.grants later laterMember).past
  · exact (sound.grants grant member).rotated

end

end LedgerSound

inductive Redeeming (settings : Settings) (provider : OAuthProvider) (client : OAuthClient)
    (code redirectUri : Option String) (clock : Clock) :
    OAuthProvider × Except Thrown TokenSet → Prop where
  | refused (thrown : Thrown) :
      Redeeming settings provider client code redirectUri clock (provider, .error thrown)
  | consumed (text : String) (thrown : Thrown) :
      Redeeming settings provider client code redirectUri clock
        ({ provider with codes := provider.codes.delete text }, .error thrown)
  | redeemed (text : String) (entry : CodeEntry) (presented : code = some text)
      (found : provider.codes.get text = some entry) (own : entry.clientId = client.clientId)
      (there : some entry.redirectUri = redirectUri) :
      Redeeming settings provider client code redirectUri clock
        (⟨provider.links.set entry.record.linkId entry.record, provider.codes.delete text⟩,
          .ok (settings.mintTokens entry.record clock.access clock.refresh))

theorem exchangeCode_cases (client : OAuthClient) (code redirectUri : Option String)
    (clock : Clock) :
    Redeeming settings provider client code redirectUri clock
      (provider.exchangeCode settings client code redirectUri clock) := by
  unfold OAuthProvider.exchangeCode
  split
  · exact .refused _
  · rename_i text something
    have presented : code = some text := (Option.filter_eq_some_iff.mp something).1
    split
    · exact .refused _
    · rename_i entry found
      dsimp only
      split
      · exact .consumed text _
      · split
        · exact .consumed text _
        · rename_i own
          split
          · exact .consumed text _
          · rename_i there
            exact .redeemed text entry presented found (not_not.mp own) (not_not.mp there)

inductive Refreshing (settings : Settings) (provider : OAuthProvider) (ledger : Ledger)
    (client : OAuthClient) (token : Option String) (clock : Clock) :
    OAuthProvider × Except Thrown TokenSet → Prop where
  | refused (thrown : Thrown)
      (dead : ∀ grant ∈ ledger.grants, token = some grant.refresh →
        clock.verify ≤ grant.refreshExp → grant.clientId = client.clientId →
        grant.linkId ∈ ledger.ended) :
      Refreshing settings provider ledger client token clock (provider, .error thrown)
  | killed (grant : Grant) (member : grant ∈ ledger.grants) (presented : token = some grant.refresh)
      (inTime : clock.verify ≤ grant.refreshExp) (own : grant.clientId = client.clientId)
      (rotated : ledger.Rotated grant.refresh) (thrown : Thrown) :
      Refreshing settings provider ledger client token clock
        ({ provider with links := provider.links.delete grant.linkId }, .error thrown)
  | refreshed (grant : Grant) (member : grant ∈ ledger.grants)
      (presented : token = some grant.refresh) (inTime : clock.verify ≤ grant.refreshExp)
      (own : grant.clientId = client.clientId) (record : LinkRecord)
      (found : provider.links.get grant.linkId = some record)
      (current : grant.generation = record.refreshGen) :
      Refreshing settings provider ledger client token clock
        (⟨provider.links.set grant.linkId { record with refreshGen := record.refreshGen + 1 },
            provider.codes⟩,
          .ok (settings.mintTokens { record with refreshGen := record.refreshGen + 1 }
            clock.access clock.refresh))

namespace LedgerSound

variable (sound : LedgerSound settings provider ledger)
include sound

variable {token : Option String}

theorem rotate_cases {client : OAuthClient} {clock : Clock} {grant : Grant}
    (member : grant ∈ ledger.grants) (presented : token = some grant.refresh)
    (inTime : clock.verify ≤ grant.refreshExp) {record : LinkRecord}
    (found : provider.links.get grant.linkId = some record) :
    Refreshing settings provider ledger client token clock
      (provider.rotate settings client grant.linkId record (some (grant.generation :
        ℚ)) clock) := by
  have link := sound.links _ record found
  have client_eq := link.own grant member rfl
  unfold OAuthProvider.rotate
  split
  · rename_i foreign
    refine .refused _ fun other otherMember same _ own => ?_
    rw [presented, some.injEq] at same
    rw [← sound.eq_of_refresh member otherMember same, client_eq] at own
    exact absurd own foreign
  · rename_i own
    have own : grant.clientId = client.clientId := client_eq.trans (not_not.mp own)
    split
    · rename_i other
      have earlier : grant.generation ≠ record.refreshGen := fun same => other (by rw [same])
      have before := (sound.grants grant member).past
      rw [link.named]
      refine .killed grant member presented inTime own ((sound.rotated_iff member).mpr ?_) _
      rw [link.generation] at before ⊢
      omega
    · rename_i current
      have same : (grant.generation : ℚ) = record.refreshGen := some.inj (not_not.mp current)
      exact .refreshed grant member presented inTime own record found (by exact_mod_cast same)

theorem exchangeRefresh_cases {client : OAuthClient} {clock : Clock}
    (unforged : ledger.Unforged settings token) :
    Refreshing settings provider ledger client token clock
      (provider.exchangeRefresh settings client token clock) := by
  have verified : Presented settings ledger token clock.verify _ := sound.presented unforged
  unfold OAuthProvider.exchangeRefresh
  generalize settings.verifyToken clock.verify token = answer at verified ⊢
  cases verified with
  | nothing notMinted =>
    exact .refused _ fun grant member same inTime _ =>
      ((not_mem_minted notMinted member).2 ⟨same, inTime⟩).elim
  | access grant member same inTime =>
    dsimp only
    rw [textMember_typ_access, if_pos (by decide)]
    refine .refused _ fun other otherMember otherSame _ _ => ?_
    rw [same, some.injEq] at otherSame
    exact absurd otherSame (sound.access_ne_refresh member otherMember)
  | refresh grant member same inTime =>
    simp only [textMember_typ_refresh, ne_eq, not_true_eq_false, if_false,
      textMember_lid_refresh, numberMember_gen_refresh]
    split
    · rename_i gone
      refine .refused _ fun other otherMember otherSame _ _ => ?_
      rw [same, some.injEq] at otherSame
      rw [← sound.eq_of_refresh member otherMember otherSame]
      by_contra going
      rcases sound.kept grant member going with ⟨record, there⟩
      rw [gone] at there
      cases there
    · rename_i record found
      exact sound.rotate_cases member same inTime found
  | ticket clientId redirectUri exp notMinted =>
    dsimp only
    rw [textMember_typ_ticket, if_pos (by decide)]
    exact .refused _ fun grant member same inTime _ =>
      ((not_mem_minted notMinted member).2 ⟨same, inTime⟩).elim

theorem resolve_iff {now : Int} {linkId : String} (unforged : ledger.Unforged settings token) :
    (∃ link, provider.resolve settings token now = .ok (some link) ∧ link.linkId = linkId) ↔
      ∃ grant ∈ ledger.grants, token = some grant.access ∧ now ≤ grant.accessExp ∧
        grant.linkId = linkId ∧ linkId ∉ ledger.ended := by
  have verified : Presented settings ledger token now _ := sound.presented unforged
  unfold OAuthProvider.resolve
  generalize settings.verifyToken now token = answer at verified ⊢
  cases verified with
  | nothing notMinted =>
    refine ⟨fun found => by simp at found, ?_⟩
    rintro ⟨grant, member, same, inTime, _⟩
    exact ((not_mem_minted notMinted member).1 ⟨same, inTime⟩).elim
  | access grant member same inTime =>
    simp only [textMember_typ_access, ne_eq, not_true_eq_false, if_false,
      textMember_lid_access, Option.bind_some, Except.ok.injEq]
    constructor
    · rintro ⟨link, found, rfl⟩
      have kept := sound.links _ link found
      exact ⟨grant, member, same, inTime, kept.named.symm, by rw [kept.named]; exact kept.going⟩
    · rintro ⟨other, otherMember, otherSame, _, rfl, going⟩
      rw [same, some.injEq] at otherSame
      rcases sound.kept other otherMember going with ⟨link, found⟩
      exact ⟨link, by rw [(sound.eq_of_access member otherMember otherSame).1, found],
        (sound.links _ link found).named⟩
  | refresh grant member same inTime =>
    dsimp only
    rw [textMember_typ_refresh, if_pos (by decide)]
    refine ⟨fun found => by simp at found, ?_⟩
    rintro ⟨other, otherMember, otherSame, _⟩
    rw [same, some.injEq] at otherSame
    exact absurd otherSame.symm (sound.access_ne_refresh otherMember member)
  | ticket clientId redirectUri exp notMinted =>
    dsimp only
    rw [textMember_typ_ticket, if_pos (by decide)]
    refine ⟨fun found => by simp at found, ?_⟩
    rintro ⟨grant, member, same, inTime, _⟩
    exact ((not_mem_minted notMinted member).1 ⟨same, inTime⟩).elim

theorem oneRefreshable {grant other : Grant} (member : grant ∈ ledger.grants)
    (otherMember : other ∈ ledger.grants) (link : grant.linkId = other.linkId)
    (current : ¬ledger.Rotated grant.refresh) (otherCurrent : ¬ledger.Rotated other.refresh) :
    grant = other := by
  rw [sound.rotated_iff member] at current
  rw [sound.rotated_iff otherMember] at otherCurrent
  have before := (sound.grants grant member).past
  have otherBefore := (sound.grants other otherMember).past
  rw [link] at current before
  exact sound.numbered grant member other otherMember link (by omega)

end LedgerSound

variable {clientId : Option String} {client : OAuthClient}

theorem clientId_of_found (found : (given clientId).bind settings.clients.get = some client) :
    clientId = some client.clientId := by
  rcases Option.bind_eq_some_iff.mp found with ⟨id, named, registered⟩
  rw [settings.keyed id client registered]
  exact (Option.filter_eq_some_iff.mp named).1

theorem authenticateClient_clientId {clientSecret : Option String}
    (known : settings.authenticateClient clientId clientSecret = .ok client) :
    clientId = some client.clientId := by
  unfold Settings.authenticateClient at known
  split at known
  · rename_i there _
    split at known
    · cases known
      exact clientId_of_found there
    · cases known
  · cases known

theorem validateAuthorization_clientId {redirectUri responseType : Option String}
    (valid : settings.validateAuthorization clientId redirectUri responseType = .ok client) :
    clientId = some client.clientId := by
  unfold Settings.validateAuthorization at valid
  split at valid
  · cases valid
  · rename_i there
    split at valid
    · cases valid
    · split at valid
      · cases valid
        exact clientId_of_found there
      · cases valid

namespace LedgerSound

variable (sound : LedgerSound settings provider ledger)
include sound

theorem exchange_refresh_iff {params : ExchangeParams} {clock : Clock}
    (refreshing : params.grantType = some "refresh_token")
    (unforged : ledger.Unforged settings params.refreshToken) :
    (∃ tokens, (provider.exchange settings params clock).2 = .ok tokens) ↔
      (settings.authenticateClient params.clientId params.clientSecret).isOk = true ∧
        ∃ grant ∈ ledger.grants, params.refreshToken = some grant.refresh ∧
          clock.verify ≤ grant.refreshExp ∧ params.clientId = some grant.clientId ∧
          grant.linkId ∉ ledger.ended ∧ ¬ledger.Rotated grant.refresh := by
  unfold OAuthProvider.exchange
  cases known : settings.authenticateClient params.clientId params.clientSecret with
  | error thrown => simp [Except.isOk, Except.toBool]
  | ok client =>
    have named := authenticateClient_clientId known
    dsimp only
    rw [refreshing, if_neg (by decide), if_pos rfl, named]
    have cases_ : Refreshing settings provider ledger client params.refreshToken clock _ :=
      sound.exchangeRefresh_cases unforged
    generalize provider.exchangeRefresh settings client params.refreshToken clock = result
      at cases_ ⊢
    cases cases_ with
    | refused thrown dead =>
      refine ⟨fun found => by simp at found, ?_⟩
      rintro ⟨_, grant, member, same, inTime, own, going, _⟩
      exact absurd (dead grant member same inTime (some.inj own).symm) going
    | killed grant member same inTime own rotated thrown =>
      refine ⟨fun found => by simp at found, ?_⟩
      rintro ⟨_, other, otherMember, otherSame, _, _, _, current⟩
      rw [same, some.injEq] at otherSame
      exact absurd (otherSame ▸ rotated) current
    | refreshed grant member same inTime own record found current =>
      have link := sound.links _ record found
      refine ⟨fun _ => ⟨rfl, grant, member, same, inTime, by rw [own], link.going, ?_⟩,
        fun _ => ⟨_, rfl⟩⟩
      rw [sound.rotated_iff member, link.generation]
      omega

theorem holds : LinksHold settings provider ledger where
  codeOnce := sound.codeOnce
  codeOwn := by
    intro grant member code redirectUri source
    rcases (sound.grants grant member).issued with ⟨issue, issued, link, client, own⟩
    rcases own code redirectUri source with ⟨sameCode, sameUri⟩
    exact ⟨issue, issued, sameCode, link, client, sameUri⟩
  refreshOwn := by
    intro grant member token source
    rcases (sound.grants grant member).refreshed token source with
      ⟨earlier, earlierMember, same, link, client, _⟩
    exact ⟨earlier, earlierMember, same, link, client⟩
  resolves := fun _ _ _ unforged => sound.resolve_iff unforged
  refreshes := fun _ _ refreshing unforged => sound.exchange_refresh_iff refreshing unforged
  oneRefreshable := fun _ member _ otherMember link current otherCurrent => by
    rw [sound.oneRefreshable member otherMember link current otherCurrent]

end LedgerSound

end SupremeOs.CloudVoice
