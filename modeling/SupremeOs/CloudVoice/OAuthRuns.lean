import SupremeOs.CloudVoice.LedgerSound

/-!
# The links over whole runs

Every call keeps the agreement of the links with the ledger, if the signatures
of the texts that it presents are not forged and what it draws is new.
-/

namespace SupremeOs.CloudVoice

open DomainModel Support List OrderedMap Option

variable {settings : Settings} {provider next : OAuthProvider} {ledger : Ledger}

section

variable (sound : LedgerSound settings provider ledger)

include sound

theorem LedgerSound.end_link {ended : Grant}
    (member : ended ∈ ledger.grants) (codes : next.codes = provider.codes)
    (links : ∀ linkId, next.links.get linkId =
      if linkId = ended.linkId then none else provider.links.get linkId) :
    LedgerSound settings next (ledger.ending (some ended.linkId)) where
  codes := by
    rw [codes]
    intro code entry found
    rcases sound.codes code entry found with ⟨issued, own, first, unused⟩
    exact ⟨issued, own, first, unused⟩
  links := by
    intro linkId record found
    rw [links] at found
    split at found
    · cases found
    · rename_i other
      rcases sound.links linkId record found with ⟨named, going, generation, own⟩
      refine ⟨named, ?_, generation, own⟩
      simp [Ledger.ending, going, other]
  grants := by
    intro grant there
    rcases sound.grants grant there with ⟨access, refresh, issued, past, rotated, refreshed⟩
    exact ⟨access, refresh, issued, past, rotated, refreshed⟩
  kept := by
    intro grant there going
    simp only [Ledger.ending, toList_some, mem_append, mem_singleton, not_or] at going
    rw [links, if_neg going.2]
    exact sound.kept grant there going.1
  numbered := sound.numbered
  codeOnce := sound.codeOnce
  endedGranted := by
    intro linkId there
    simp only [Ledger.ending, toList_some, mem_append, mem_singleton] at there
    rcases there with before | rfl
    · exact sound.endedGranted linkId before
    · exact ⟨ended, member, rfl⟩
  issuedOnce := sound.issuedOnce
  handedOut := sound.handedOut

theorem LedgerSound.consume (code : String) :
    LedgerSound settings { provider with codes := provider.codes.delete code } ledger where
  codes := by
    intro other entry found
    rw [OrderedMap.get_delete] at found
    split at found
    · cases found
    · exact sound.codes other entry found
  links := sound.links
  grants := sound.grants
  kept := sound.kept
  numbered := sound.numbered
  codeOnce := sound.codeOnce
  endedGranted := sound.endedGranted
  issuedOnce := sound.issuedOnce
  handedOut := sound.handedOut

theorem LedgerSound.hand_out (clientId redirectUri : String) (exp : Int) :
    LedgerSound settings provider { ledger with
      handedOut := ledger.handedOut ++
        [signText settings.hmac (ticketPayload clientId redirectUri exp)] } where
  codes := fun code entry found =>
    let ⟨issued, own, first, unused⟩ := sound.codes code entry found
    ⟨issued, own, first, unused⟩
  links := fun linkId record found =>
    let ⟨named, going, generation, own⟩ := sound.links linkId record found
    ⟨named, going, generation, own⟩
  grants := fun grant there =>
    let ⟨access, refresh, issued, past, rotated, refreshed⟩ := sound.grants grant there
    ⟨access, refresh, issued, past, rotated, refreshed⟩
  kept := sound.kept
  numbered := sound.numbered
  codeOnce := sound.codeOnce
  endedGranted := sound.endedGranted
  issuedOnce := sound.issuedOnce
  handedOut := by
    intro token there
    rcases mem_append.mp there with before | last
    · exact sound.handedOut token before
    · exact .inr ⟨clientId, redirectUri, exp, mem_singleton.mp last⟩

theorem LedgerSound.issue {code : String} {entry : CodeEntry}
    (fresh : ∀ issue ∈ ledger.issues, issue.linkId ≠ entry.record.linkId ∧ issue.code ≠ code)
    (own : entry.record.clientId = entry.clientId) (first : entry.record.refreshGen = 0) :
    LedgerSound settings { provider with codes := provider.codes.set code entry }
      { ledger with
        issues := ledger.issues ++
          [⟨entry.record.linkId, code, entry.clientId, entry.redirectUri⟩] } where
  codes := by
    intro other found there
    rw [get_set] at there
    split at there
    · rename_i same
      cases there
      rw [← same]
      refine ⟨by simp, own, first, ?_⟩
      intro grant member link
      rcases (sound.grants grant member).issued with ⟨issue, issued, issueLink, _⟩
      exact (fresh issue issued).1 (issueLink.trans link)
    · rcases sound.codes other found there with ⟨issued, own, first, unused⟩
      exact ⟨mem_append_left _ issued, own, first, unused⟩
  links := fun linkId record found =>
    let ⟨named, going, generation, own⟩ := sound.links linkId record found
    ⟨named, going, generation, own⟩
  grants := by
    intro grant member
    rcases sound.grants grant member with
      ⟨access, refresh, ⟨issue, issued, rest⟩, past, rotated, refreshed⟩
    exact ⟨access, refresh, ⟨issue, mem_append_left _ issued, rest⟩, past, rotated, refreshed⟩
  kept := sound.kept
  numbered := sound.numbered
  codeOnce := sound.codeOnce
  endedGranted := sound.endedGranted
  issuedOnce := by
    intro issue member other otherMember same
    simp only [mem_append, mem_singleton] at member otherMember
    rcases member with before | rfl
    · rcases otherMember with otherBefore | rfl
      · exact sound.issuedOnce issue before other otherBefore same
      · rcases same with link | code
        · exact absurd link (fresh issue before).1
        · exact absurd code (fresh issue before).2
    · rcases otherMember with otherBefore | rfl
      · rcases same with link | code
        · exact absurd link.symm (fresh other otherBefore).1
        · exact absurd code.symm (fresh other otherBefore).2
      · rfl
  handedOut := sound.handedOut

end

/-- The ledger with one more token set. -/
def Ledger.concat (ledger : Ledger) (grant : Grant) : Ledger :=
  { ledger with
    grants := ledger.grants ++ [grant]
    handedOut := ledger.handedOut ++ [grant.access, grant.refresh] }

theorem Ledger.generation_concat (linkId : String) (grant : Grant) :
    (ledger.concat grant).generation linkId =
      ledger.generation linkId + if grant.linkId = linkId then 1 else 0 := by
  rw [generation, concat, filter_append, length_append, generation]
  by_cases same : grant.linkId = linkId <;> simp [same]

theorem Ledger.Rotated.concat {token : String} (rotated : ledger.Rotated token) (grant : Grant) :
    (ledger.concat grant).Rotated token := by
  rcases rotated with ⟨earlier, member, source⟩
  exact ⟨earlier, mem_append_left _ member, source⟩

/-- What a token set is handed out for. -/
inductive Grantable (settings : Settings) (ledger : Ledger) (grant : Grant) : Prop where
  | code (code : String) (redirectUri : String) (source : grant.source = .code code redirectUri)
      (first : ledger.generation grant.linkId = 0)
      (issued : ⟨grant.linkId, code, grant.clientId, redirectUri⟩ ∈ ledger.issues)
  | refresh (earlier : Grant) (member : earlier ∈ ledger.grants)
      (source : grant.source = .refresh earlier.refresh) (link : earlier.linkId = grant.linkId)
      (client : earlier.clientId = grant.clientId)
      (last : earlier.generation + 1 = ledger.generation grant.linkId)

namespace Grantable

variable {grant : Grant}

theorem issue (sound : LedgerSound settings provider ledger)
    (grantable : Grantable settings ledger grant) :
    ∃ issue ∈ ledger.issues, issue.linkId = grant.linkId ∧ issue.clientId = grant.clientId ∧
      ∀ code redirectUri, grant.source = .code code redirectUri →
        issue.code = code ∧ some issue.redirectUri = redirectUri := by
  cases grantable with
  | code code redirectUri source first issued =>
    refine ⟨_, issued, rfl, rfl, ?_⟩
    intro other otherUri same
    rw [source, Source.code.injEq] at same
    exact same
  | refresh earlier member source link client last =>
    rcases (sound.grants earlier member).issued with ⟨issue, issued, issueLink, issueClient, _⟩
    refine ⟨issue, issued, issueLink.trans link, issueClient.trans client, ?_⟩
    intro code redirectUri same
    rw [source] at same
    cases same

theorem rotated (sound : LedgerSound settings provider ledger)
    (grantable : Grantable settings ledger grant) {other : Grant} (member : other ∈ ledger.grants)
    (link : other.linkId = grant.linkId)
    (last : other.generation + 1 = ledger.generation grant.linkId) :
    (ledger.concat grant).Rotated other.refresh := by
  cases grantable with
  | code code redirectUri source first issued =>
    rw [first] at last
    cases last
  | refresh earlier earlierMember source earlierLink client earlierLast =>
    have same := sound.numbered earlier earlierMember other member
      (earlierLink.trans link.symm) (by omega)
    exact ⟨grant, mem_append_right _ (mem_singleton_self grant), by rw [source, same]⟩

end Grantable

theorem not_mem_of_generation_eq_zero {linkId : String} (none : ledger.generation linkId = 0)
    {grant : Grant} (member : grant ∈ ledger.grants) : grant.linkId ≠ linkId := by
  intro same
  have kept : grant ∈ ledger.grants.filter fun grant => decide (grant.linkId = linkId) :=
    mem_filter.mpr ⟨member, decide_eq_true same⟩
  rw [length_eq_zero_iff.mp none] at kept
  cases kept

theorem LedgerSound.grant (sound : LedgerSound settings provider ledger) {grant : Grant}
    (record : LinkRecord)
    (access : grant.access = signText settings.hmac (accessPayload grant.linkId grant.accessExp))
    (refresh : grant.refresh =
      signText settings.hmac (refreshPayload grant.linkId grant.refreshExp grant.generation))
    (number : grant.generation = ledger.generation grant.linkId)
    (grantable : Grantable settings ledger grant) (links : ∀ linkId, next.links.get linkId =
      if linkId = grant.linkId then some record else provider.links.get linkId)
    (named : record.linkId = grant.linkId) (own : record.clientId = grant.clientId)
    (generation : record.refreshGen = grant.generation) (going : grant.linkId ∉ ledger.ended)
    (codes : ∀ code entry, next.codes.get code = some entry →
      provider.codes.get code = some entry ∧ entry.record.linkId ≠ grant.linkId) :
    LedgerSound settings next (ledger.concat grant) where
  codes := by
    intro code entry found
    rcases codes code entry found with ⟨before, other⟩
    rcases sound.codes code entry before with ⟨issued, codeOwn, first, unused⟩
    refine ⟨issued, codeOwn, first, ?_⟩
    intro earlier member
    rcases mem_append.mp member with old | last
    · exact unused earlier old
    · rw [mem_singleton.mp last]
      exact other.symm
  links := by
    intro linkId found there
    rw [links] at there
    split at there
    · rename_i same
      cases there
      subst same
      refine ⟨named, going, ?_, ?_⟩
      · rw [Ledger.generation_concat, if_pos rfl, generation, number]
      · intro other member link
        rcases mem_append.mp member with old | last
        · rcases (sound.grants other old).issued with ⟨issue, issued, issueLink, issueClient, _⟩
          rcases grantable.issue sound with ⟨newIssue, newIssued, newLink, newClient, _⟩
          have same := sound.issuedOnce issue issued newIssue newIssued
            (.inl (by rw [issueLink, link, newLink]))
          rw [own, ← newClient, ← issueClient, same]
        · rw [mem_singleton.mp last, own]
    · rename_i other
      rcases sound.links linkId found there with ⟨foundNamed, foundGoing, count, foundOwn⟩
      refine ⟨foundNamed, foundGoing, ?_, ?_⟩
      · rw [Ledger.generation_concat, if_neg (Ne.symm other), count]
      · intro earlier member link
        rcases mem_append.mp member with old | last
        · exact foundOwn earlier old link
        · rw [mem_singleton.mp last] at link
          exact absurd link.symm other
  grants := by
    intro other member
    rcases mem_append.mp member with old | last
    · rcases sound.grants other old with
        ⟨oldAccess, oldRefresh, issued, past, rotated, refreshed⟩
      refine ⟨oldAccess, oldRefresh, issued, ?_, ?_, ?_⟩
      · rw [Ledger.generation_concat]
        omega
      · rw [Ledger.generation_concat]
        intro below
        by_cases before : other.generation + 1 < ledger.generation other.linkId
        · exact (rotated before).concat grant
        · split at below
          · rename_i link
            exact grantable.rotated sound old link.symm (by rw [link]; omega)
          · exact absurd below before
      · intro token source
        rcases refreshed token source with ⟨earlier, earlierMember, rest⟩
        exact ⟨earlier, mem_append_left _ earlierMember, rest⟩
    · obtain rfl := mem_singleton.mp last
      have issued := grantable.issue sound
      refine ⟨access, refresh, issued, ?_, ?_, ?_⟩
      · rw [Ledger.generation_concat, if_pos rfl]
        omega
      · rw [Ledger.generation_concat, if_pos rfl]
        omega
      · intro token source
        cases grantable with
        | code code redirectUri codeSource _ _ =>
          rw [codeSource] at source
          cases source
        | refresh earlier earlierMember refreshSource link client earlierLast =>
          rw [refreshSource, Source.refresh.injEq] at source
          exact ⟨earlier, mem_append_left _ earlierMember, source, link, client, by omega⟩
  kept := by
    intro other member notEnded
    rw [links]
    split
    · exact ⟨record, rfl⟩
    · rename_i link
      rcases mem_append.mp member with old | last
      · exact sound.kept other old notEnded
      · rw [mem_singleton.mp last] at link
        exact absurd rfl link
  numbered := by
    intro one member other otherMember link same
    rcases mem_append.mp member with old | last
    · rcases mem_append.mp otherMember with otherOld | otherLast
      · exact sound.numbered one old other otherOld link same
      · rw [mem_singleton.mp otherLast] at link same
        have past := (sound.grants one old).past
        rw [link] at past
        omega
    · rw [mem_singleton.mp last] at link same ⊢
      rcases mem_append.mp otherMember with otherOld | otherLast
      · have past := (sound.grants other otherOld).past
        rw [← link] at past
        omega
      · exact (mem_singleton.mp otherLast).symm
  codeOnce := by
    rw [Ledger.concat, filterMap_append, nodup_append]
    refine ⟨sound.codeOnce, ?_, ?_⟩
    · cases code : grant.code? <;> simp [code]
    · intro code before other last
      rcases mem_filterMap.mp before with ⟨earlier, earlierMember, earlierCode⟩
      rcases mem_filterMap.mp last with ⟨added, addedMember, addedCode⟩
      obtain rfl := mem_singleton.mp addedMember
      rintro rfl
      cases grantable with
      | refresh _ _ source _ _ _ => simp [Grant.code?, source] at addedCode
      | code newCode redirectUri source first issued =>
        simp only [Grant.code?, source, some.injEq] at addedCode
        subst addedCode
        cases earlierSource : earlier.source with
        | refresh token => simp [Grant.code?, earlierSource] at earlierCode
        | code oldCode oldUri =>
          simp only [Grant.code?, earlierSource, some.injEq] at earlierCode
          subst earlierCode
          rcases (sound.grants earlier earlierMember).issued with
            ⟨issue, oldIssued, issueLink, _, own⟩
          have same := sound.issuedOnce issue oldIssued _ issued
            (.inr (own oldCode oldUri earlierSource).1)
          rw [same] at issueLink
          exact not_mem_of_generation_eq_zero first earlierMember issueLink.symm
  endedGranted := by
    intro linkId ended
    rcases sound.endedGranted linkId ended with ⟨earlier, member, link⟩
    exact ⟨earlier, mem_append_left _ member, link⟩
  issuedOnce := sound.issuedOnce
  handedOut := by
    intro token there
    rcases mem_append.mp there with before | new
    · rcases sound.handedOut token before with ⟨earlier, member, same⟩ | ticket
      · exact .inl ⟨earlier, mem_append_left _ member, same⟩
      · exact .inr ticket
    · refine .inl ⟨grant, mem_append_right _ (mem_singleton_self grant), ?_⟩
      simpa using new

theorem Ledger.ending_none : ledger.ending none = ledger := by
  simp [ending]

theorem granted_eq {params : ExchangeParams} {clock : Clock} {record : LinkRecord}
    {source : Source} (generation : record.refreshGen = ledger.generation record.linkId)
    (presented : (if params.grantType = some "authorization_code" then
      Source.code (params.code.getD "") params.redirectUri
      else .refresh (params.refreshToken.getD "")) = source)
    (linked : ledger.linkOf source = some record.linkId) :
    ledger.granted settings params clock (settings.mintTokens record clock.access clock.refresh) =
      ledger.concat {
        linkId := record.linkId, generation := record.refreshGen,
        clientId := params.clientId.getD "", source, access := signText settings.hmac
          (accessPayload record.linkId (clock.access + settings.accessTtl)),
        accessExp := clock.access + settings.accessTtl, refresh := signText settings.hmac
          (refreshPayload record.linkId (clock.refresh + settings.refreshTtl) record.refreshGen),
        refreshExp := clock.refresh + settings.refreshTtl } := by
  rw [Ledger.granted, presented, linked, getD_some, ← generation]
  rfl

variable {params : ExchangeParams} {clock : Clock}

theorem replayed_of_code (other : params.grantType ≠ some "refresh_token") :
    ledger.replayed settings params clock = none := by
  rw [Ledger.replayed, if_neg fun both => other both.1]

theorem mem_replayed {grant : Grant} (found : ledger.replayed settings params clock = some grant) :
    grant ∈ ledger.grants ∧ params.refreshToken = some grant.refresh ∧
      clock.verify ≤ grant.refreshExp ∧ params.clientId = some grant.clientId ∧
      ledger.Rotated grant.refresh := by
  rw [Ledger.replayed] at found
  split at found
  · exact ⟨mem_of_find?_eq_some found, by simpa using find?_some found⟩
  · cases found

theorem replayed_of_rotated {grant : Grant}
    (refreshing : params.grantType = some "refresh_token") {client : OAuthClient}
    (known : settings.authenticateClient params.clientId params.clientSecret = .ok client)
    (member : grant ∈ ledger.grants) (presented : params.refreshToken = some grant.refresh)
    (inTime : clock.verify ≤ grant.refreshExp) (own : grant.clientId = client.clientId)
    (rotated : ledger.Rotated grant.refresh) :
    ∃ found, ledger.replayed settings params clock = some found := by
  rw [Ledger.replayed, if_pos ⟨refreshing, by rw [known]; rfl⟩]
  cases found : ledger.grants.find? _ with
  | some other => exact ⟨other, rfl⟩
  | none =>
    have named := authenticateClient_clientId known
    have refused := find?_eq_none.mp found grant member
    rw [← own] at named
    exact absurd (decide_eq_true ⟨presented, inTime, named, rotated⟩) refused

namespace LedgerSound

variable (sound : LedgerSound settings provider ledger)
include sound

variable {now : Int} {params : ExchangeParams} {clock : Clock} {token : Option String}
    {result : OAuthProvider × Except Thrown TokenSet}

theorem redeem {client : OAuthClient} (redeeming : params.grantType = some "authorization_code")
    (known : settings.authenticateClient params.clientId params.clientSecret = .ok client)
    (outcome : Redeeming settings provider client params.code params.redirectUri clock result) :
    LedgerSound settings result.1 (match result.2 with
      | .ok tokens => ledger.granted settings params clock tokens
      | .error _ => ledger) := by
  cases outcome with
  | refused thrown => exact sound
  | consumed text thrown => exact sound.consume text
  | redeemed text entry presented found own there =>
    rcases sound.codes text entry found with ⟨issued, codeOwn, first, unused⟩
    have none : ledger.generation entry.record.linkId = 0 := by
      rw [Ledger.generation, length_eq_zero_iff, filter_eq_nil_iff]
      intro grant member
      simpa using unused grant member
    have named := authenticateClient_clientId known
    have linked : ledger.linkOf (.code text params.redirectUri) = some entry.record.linkId := by
      rw [Ledger.linkOf]
      cases looked : ledger.issues.find? _ with
      | none => exact absurd (find?_eq_none.mp looked _ issued) (by simp)
      | some issue =>
        have same : issue.code = text := by simpa using find?_some looked
        have equal := sound.issuedOnce issue (mem_of_find?_eq_some looked) _ issued
          (.inr same)
        rw [map_some, equal]
    have source : (if params.grantType = some "authorization_code" then
        Source.code (params.code.getD "") params.redirectUri
        else .refresh (params.refreshToken.getD "")) = .code text params.redirectUri := by
      rw [if_pos redeeming, presented, getD_some]
    dsimp only
    rw [granted_eq (by rw [first, none]) source linked]
    refine sound.grant entry.record rfl rfl (by rw [first, none]) ?_ ?_ rfl ?_ rfl ?_ ?_
    · refine .code text entry.redirectUri ?_ none ?_
      · rw [there]
      · rw [named, getD_some, ← own]
        exact issued
    · intro linkId
      rw [get_set]
    · rw [named, getD_some, ← own]
      exact codeOwn
    · intro ended
      rcases sound.endedGranted _ ended with ⟨grant, member, link⟩
      exact unused grant member link
    · intro code other kept
      rw [OrderedMap.get_delete] at kept
      split at kept
      · cases kept
      · rename_i different
        refine ⟨kept, fun link => different ?_⟩
        have same := sound.issuedOnce _ (sound.codes code other kept).issued _ issued (.inl link)
        exact congrArg Issue.code same

theorem refresh {client : OAuthClient} (refreshing : params.grantType = some "refresh_token")
    (known : settings.authenticateClient params.clientId params.clientSecret = .ok client)
    (outcome : Refreshing settings provider ledger client params.refreshToken clock result) :
    let noted := ledger.ending ((ledger.replayed settings params clock).map Grant.linkId)
    LedgerSound settings result.1 (match result.2 with
      | .ok tokens => noted.granted settings params clock tokens
      | .error _ => noted) := by
  have named := authenticateClient_clientId known
  cases outcome with
  | refused thrown dead =>
    cases found : ledger.replayed settings params clock with
    | none =>
      simp only [map_none, Ledger.ending_none]
      exact sound
    | some grant =>
      rcases mem_replayed found with ⟨member, presented, inTime, own, _⟩
      rw [named, some.injEq] at own
      have ended := dead grant member presented inTime own.symm
      refine sound.end_link member rfl fun linkId => ?_
      split
      · rename_i same
        cases there : provider.links.get linkId with
        | none => rfl
        | some record => exact absurd (same ▸ ended) (sound.links linkId record there).going
      · rfl
  | killed grant member presented inTime own rotated thrown =>
    rcases replayed_of_rotated refreshing known member presented inTime own rotated with
      ⟨other, found⟩
    rcases mem_replayed found with ⟨otherMember, otherPresented, _⟩
    rw [presented, some.injEq] at otherPresented
    have same := sound.eq_of_refresh member otherMember otherPresented
    rw [found, ← same]
    refine sound.end_link member rfl fun linkId => ?_
    rw [OrderedMap.get_delete]
  | refreshed grant member presented inTime own record found current =>
    have link := sound.links _ record found
    have notRotated : ¬ledger.Rotated grant.refresh := by
      rw [sound.rotated_iff member, link.generation]
      omega
    have once : ledger.replayed settings params clock = none := by
      cases again : ledger.replayed settings params clock with
      | none => rfl
      | some other =>
        rcases mem_replayed again with ⟨_, otherPresented, _, _, rotated⟩
        rw [presented, some.injEq] at otherPresented
        exact absurd (otherPresented ▸ rotated) notRotated
    have linked : ledger.linkOf (.refresh grant.refresh) = some record.linkId := by
      rw [Ledger.linkOf]
      cases looked : ledger.grants.find? _ with
      | none => exact absurd (find?_eq_none.mp looked _ member) (by simp)
      | some other =>
        have same : other.refresh = grant.refresh := by simpa using find?_some looked
        rw [map_some, link.named, sound.eq_of_refresh (mem_of_find?_eq_some looked) member same]
    have source : (if params.grantType = some "authorization_code" then
        Source.code (params.code.getD "") params.redirectUri
        else .refresh (params.refreshToken.getD "")) = .refresh grant.refresh := by
      rw [refreshing, if_neg (by decide), presented, getD_some]
    have client_eq : params.clientId.getD "" = grant.clientId := by
      rw [named, getD_some, own]
    have number : record.refreshGen + 1 = ledger.generation record.linkId := by
      rw [link.named, link.generation]
    dsimp only
    rw [once, map_none, Ledger.ending_none, @granted_eq settings ledger params clock { record with
      refreshGen := record.refreshGen + 1 } _ number source linked]
    refine sound.grant { record with refreshGen := record.refreshGen + 1 } rfl rfl number
      ?_ ?_ rfl ?_ rfl ?_ ?_
    · exact .refresh grant member rfl link.named.symm client_eq.symm (by rw [current, number])
    · intro linkId
      rw [get_set, link.named]
    · rw [client_eq]
      exact (link.own grant member rfl).symm
    · rw [link.named]
      exact link.going
    · intro code entry kept
      refine ⟨kept, ?_⟩
      rw [link.named]
      exact ((sound.codes code entry kept).unused grant member).symm

theorem exchange (unforged : ledger.Unforged settings params.refreshToken) :
    LedgerSound settings (provider.exchange settings params clock).1
      (noteCall settings provider (.exchange params clock) next ledger) := by
  unfold OAuthProvider.exchange noteCall
  dsimp only
  cases known : settings.authenticateClient params.clientId params.clientSecret with
  | error thrown =>
    have once : ledger.replayed settings params clock = none := by
      rw [Ledger.replayed, known, if_neg (by simp [Except.isOk, Except.toBool])]
    unfold OAuthProvider.exchange
    simp only [known, once, map_none, Ledger.ending_none]
    exact sound
  | ok client =>
    unfold OAuthProvider.exchange
    simp only [known]
    split
    · rename_i redeeming
      rw [replayed_of_code (by rw [redeeming]; decide), map_none, Ledger.ending_none]
      exact sound.redeem redeeming known (exchangeCode_cases _ _ _ _)
    · split
      · rename_i refreshing
        exact sound.refresh refreshing known (sound.exchangeRefresh_cases unforged)
      · rename_i other
        rw [replayed_of_code other, map_none, Ledger.ending_none]
        exact sound

theorem revoke (unforged : ledger.Unforged settings token) :
    LedgerSound settings (provider.revoke settings token now).1
      (ledger.ending ((ledger.minted token now).map Grant.linkId)) := by
  cases found : ledger.minted token now with
  | some grant =>
    rcases sound.verify_minted found with ⟨payload, verified, linked⟩
    unfold OAuthProvider.revoke
    simp only [verified, linked]
    exact sound.end_link (mem_of_find?_eq_some found) rfl fun linkId =>
      OrderedMap.get_delete provider.links grant.linkId linkId
  | none =>
    rw [map_none, Ledger.ending_none]
    have presented : Presented settings ledger token now _ := sound.presented unforged
    unfold OAuthProvider.revoke
    generalize settings.verifyToken now token = answer at presented ⊢
    cases presented with
    | nothing notMinted => exact sound
    | access grant member same inTime =>
      exact ((not_mem_minted found member).1 ⟨same, inTime⟩).elim
    | refresh grant member same inTime =>
      exact ((not_mem_minted found member).2 ⟨same, inTime⟩).elim
    | ticket clientId redirectUri exp notMinted => exact sound

theorem get_of_resolve {link : LinkRecord}
    (resolved : provider.resolve settings token now = .ok (some link)) :
    provider.links.get link.linkId = some link := by
  unfold OAuthProvider.resolve at resolved
  split at resolved
  · cases resolved
  · cases resolved
  · split at resolved
    · cases resolved
    · rcases bind_eq_some_iff.mp (Except.ok.inj resolved) with ⟨linkId, _, found⟩
      rw [(sound.links linkId link found).named, found]

theorem recordAcceptGrant {code : String} :
    LedgerSound settings (provider.recordAcceptGrant settings token code now).1 ledger := by
  unfold OAuthProvider.recordAcceptGrant
  split
  · exact sound
  · exact sound
  · rename_i link resolved
    have there := sound.get_of_resolve resolved
    refine ⟨sound.codes, ?_, sound.grants, ?_, sound.numbered, sound.codeOnce, sound.endedGranted,
      sound.issuedOnce, sound.handedOut⟩
    · intro linkId record found
      rw [get_set] at found
      split at found
      · rename_i same
        cases found
        rw [same]
        rcases sound.links _ link there with ⟨named, going, generation, own⟩
        exact ⟨named, going, generation, own⟩
      · exact sound.links linkId record found
    · intro grant member going
      dsimp only
      rw [get_set]
      split
      · exact ⟨_, rfl⟩
      · exact sound.kept grant member going

theorem issueCode {params : IssueParams} {linkId code : String} {linkedAt : Int}
    (fresh : ∀ issue ∈ ledger.issues, issue.linkId ≠ linkId ∧ issue.code ≠ code) :
    LedgerSound settings (provider.issueCode settings params linkId code linkedAt now).1
      (noteCall settings provider (.issueCode params linkId code linkedAt now) next ledger) := by
  unfold noteCall
  dsimp only
  unfold OAuthProvider.issueCode
  cases valid : settings.validateAuthorization (some params.clientId) (some params.redirectUri)
      (some "code") with
  | error thrown => exact sound
  | ok client =>
    rw [some.inj (validateAuthorization_clientId valid)]
    exact sound.issue fresh rfl rfl

end LedgerSound

theorem LedgerSound.step (sound : LedgerSound settings provider ledger) {call : OAuthCall}
    (assumed : asAssumed settings (provider, ledger) call)
    (taken : (oauthMachine settings).step provider call = some next) :
    LedgerSound settings next (noteCall settings provider call next ledger) := by
  cases call with
  | issueCode params linkId code linkedAt now =>
    cases taken
    exact sound.issueCode assumed
  | issueLinkingTicket clientId redirectUri now =>
    cases taken
    exact sound.hand_out clientId redirectUri (now + settings.codeTtl)
  | exchange params clock =>
    cases taken
    exact sound.exchange assumed
  | resolve token now =>
    cases taken
    exact sound
  | revoke token now =>
    cases taken
    exact sound.revoke assumed
  | recordAcceptGrant token code now =>
    cases taken
    exact sound.recordAcceptGrant

/--
Whatever is presented in whatever order: codes and refresh tokens are exchanged
once and by their own client, the last refresh token of a link is the only one
that can be, and access tokens resolve until they expire or their link ends.
-/
theorem linksHold_throughout {calls : List OAuthCall}
    (assumed : ((oauthMachine settings).recording (noteCall settings)).Guarded
      (asAssumed settings) (.empty, .empty) calls) :
    ((oauthMachine settings).recording (noteCall settings)).Throughout
      (fun config => LinksHold settings config.1 config.2) (.empty, .empty) calls := by
  have agrees : ((oauthMachine settings).recording (noteCall settings)).Throughout
      (fun config => LedgerSound settings config.1 config.2) (.empty, .empty) calls :=
    Machine.recording_throughout_of_guarded
      (fun _ _ _ _ sound met taken => sound.step met taken) LedgerSound.empty assumed
  exact agrees.mono fun _ sound => sound.holds

/-- The digests of the texts of one link under the secret `test-secret`. -/
def testHmac (body : String) : List UInt8 :=
  if body = "eyJsaWQiOiJsbmtfMSIsInR5cCI6ImFjY2VzcyIsImV4cCI6NDYwMDAwMH0" then
    [195, 232, 240, 136, 95, 55, 88, 51, 79, 173, 206, 122, 27, 250, 209, 199, 235, 240, 19, 226,
      168, 227, 254, 194, 54, 36, 114, 35, 5, 26, 218, 118]
  else if body = "eyJsaWQiOiJsbmtfMSIsInR5cCI6InJlZnJlc2giLCJleHAiOjE1NTUzMDAwMDAwLCJnZW4iOjB9" then
    [129, 176, 227, 74, 94, 236, 80, 56, 1, 191, 115, 29, 31, 81, 215, 230, 35, 227, 121, 249, 196,
      135, 162, 189, 52, 66, 161, 76, 196, 11, 4, 100]
  else if body = "eyJsaWQiOiJsbmtfMSIsInR5cCI6ImFjY2VzcyIsImV4cCI6NDYwMDAwNX0" then
    [255, 190, 32, 178, 96, 76, 244, 20, 239, 46, 152, 41, 203, 101, 222, 235, 133, 42, 167, 175,
      240, 96, 116, 213, 54, 20, 162, 233, 230, 253, 189, 96]
  else if body = "eyJsaWQiOiJsbmtfMSIsInR5cCI6InJlZnJlc2giLCJleHAiOjE1NTUzMDAwMDA1LCJnZW4iOjF9" then
    [186, 103, 33, 192, 213, 154, 153, 111, 170, 108, 137, 176, 240, 67, 220, 227, 157, 36, 211, 64,
      103, 178, 225, 228, 213, 69, 252, 6, 101, 89, 229, 134]
  else []

def testSettings : Settings :=
  OAuthProviderOptions.settings ⟨[⟨"alexa-client", "alexa-secret", .alexa,
    ["https://layla.amazon.com/cb"]⟩], none, none, none⟩ testHmac

def replayedRefresh : String :=
  "eyJsaWQiOiJsbmtfMSIsInR5cCI6InJlZnJlc2giLCJleHAiOjE1NTUzMDAwMDAwLCJnZW4iOjB9" ++
    ".gbDjSl7sUDgBv3MdH1HX5iPjefnEh6K9NEKhTMQLBGQ"

def replayedCalls : List OAuthCall :=
  let refresh : ExchangeParams :=
    ⟨some "refresh_token", none, some replayedRefresh, none, some "alexa-client",
      some "alexa-secret"⟩
  [.issueCode ⟨"alexa-client", "https://layla.amazon.com/cb",
      ⟨"acct-1", "home-1", "hub-token-xyz", none⟩⟩ "lnk_1"
      "AAECAwQFBgcICQoLDA0ODxAREhMUFRYX" 1000000 1000000,
    .exchange ⟨some "authorization_code", some "AAECAwQFBgcICQoLDA0ODxAREhMUFRYX", none,
      some "https://layla.amazon.com/cb", some "alexa-client", some "alexa-secret"⟩
      ⟨1000000, 1000000, 1000000⟩,
    .exchange refresh ⟨1000005, 1000005, 1000005⟩,
    .exchange refresh ⟨1000010, 1000010, 1000010⟩]

theorem linksHold_replayed :
    ((((oauthMachine testSettings).recording (noteCall testSettings)).run (.empty, .empty)
      replayedCalls).map fun config => (config.2.grants.length, config.2.ended)) =
        some (2, ["lnk_1"]) ∧
      ((oauthMachine testSettings).recording (noteCall testSettings)).Throughout
        (fun config => LinksHold testSettings config.1 config.2) (.empty, .empty) replayedCalls :=
  ⟨by decide +kernel, linksHold_throughout (by decide +kernel)⟩

end SupremeOs.CloudVoice
