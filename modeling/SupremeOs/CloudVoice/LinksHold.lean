import SupremeOs.CloudVoice.OAuthProvider
import SupremeOs.Support.Machine

/-!
# Who holds an account link

A ledger notes what an observer of the calls sees: the codes that were issued,
the token sets that were handed out, and the links that were ended, by a
revocation or by a refresh token that was presented once more after it had been
rotated.  No entry looks into the provider.

A code should be exchanged once, by the client and with the redirect URI that it
was issued for; the access tokens of a link should resolve while they have not
expired and the link has not ended; and the only refresh token of a link that
can be exchanged should be the last one.
-/

namespace SupremeOs.CloudVoice

open DomainModel Support

/-- What a token set was handed out for. -/
inductive Source where
  | code (code : String) (redirectUri : Option String)
  | refresh (token : String)
deriving DecidableEq

structure Issue where
  linkId : String
  code : String
  clientId : String
  redirectUri : String

structure Grant where
  linkId : String
  /-- How many token sets of the link came before. -/
  generation : Nat
  clientId : String
  source : Source
  access : String
  accessExp : Int
  refresh : String
  refreshExp : Int
deriving DecidableEq

structure Ledger where
  issues : List Issue
  grants : List Grant
  /-- Every signed text that was given away. -/
  handedOut : List String
  ended : List String

def Ledger.empty : Ledger := ⟨[], [], [], []⟩

def Grant.code? (grant : Grant) : Option String :=
  match grant.source with
  | .code code _ => some code
  | .refresh _ => none

namespace Ledger

variable (ledger : Ledger)

def generation (linkId : String) : Nat :=
  (ledger.grants.filter fun grant => decide (grant.linkId = linkId)).length

def linkOf : Source → Option String
  | .code code _ => (ledger.issues.find? fun issue => decide (issue.code = code)).map Issue.linkId
  | .refresh token =>
    (ledger.grants.find? fun grant => decide (grant.refresh = token)).map Grant.linkId

/-- A token set has been handed out for the refresh token. -/
def Rotated (token : String) : Prop :=
  ∃ grant ∈ ledger.grants, grant.source = .refresh token

instance (token : String) : Decidable (ledger.Rotated token) :=
  inferInstanceAs (Decidable (∃ grant ∈ ledger.grants, _))

def granted (settings : Settings) (params : ExchangeParams) (clock : Clock) (tokens : TokenSet) :
    Ledger :=
  let source :=
    if params.grantType = some "authorization_code" then
      .code (params.code.getD "") params.redirectUri
    else .refresh (params.refreshToken.getD "")
  let linkId := (ledger.linkOf source).getD ""
  { ledger with
    grants := ledger.grants ++ [{
      linkId, generation := ledger.generation linkId, clientId := params.clientId.getD "", source,
      access := tokens.access_token, accessExp := clock.access + settings.accessTtl,
      refresh := tokens.refresh_token, refreshExp := clock.refresh + settings.refreshTtl }]
    handedOut := ledger.handedOut ++ [tokens.access_token, tokens.refresh_token] }

def ending (linkId : Option String) : Ledger :=
  { ledger with ended := ledger.ended ++ linkId.toList }

/-- The token set whose refresh token its own client presents once more. -/
def replayed (settings : Settings) (params : ExchangeParams) (clock : Clock) : Option Grant :=
  if params.grantType = some "refresh_token" ∧
      (settings.authenticateClient params.clientId params.clientSecret).isOk = true then
    ledger.grants.find? fun grant => decide (params.refreshToken = some grant.refresh ∧
      clock.verify ≤ grant.refreshExp ∧ params.clientId = some grant.clientId ∧
      ledger.Rotated grant.refresh)
  else none

/-- The token set of an unexpired token. -/
def minted (token : Option String) (now : Int) : Option Grant :=
  ledger.grants.find? fun grant => decide (token = some grant.access ∧ now ≤ grant.accessExp ∨
    token = some grant.refresh ∧ now ≤ grant.refreshExp)

end Ledger

def noteCall (settings : Settings) (provider : OAuthProvider) (call : OAuthCall)
    (_ : OAuthProvider) (ledger : Ledger) : Ledger :=
  match call with
  | .issueCode params linkId code linkedAt now =>
    match (provider.issueCode settings params linkId code linkedAt now).2 with
    | .ok code =>
      { ledger with
        issues := ledger.issues ++ [⟨linkId, code, params.clientId, params.redirectUri⟩] }
    | .error _ => ledger
  | .issueLinkingTicket clientId redirectUri now =>
    { ledger with
      handedOut := ledger.handedOut ++ [settings.issueLinkingTicket clientId redirectUri now] }
  | .exchange params clock =>
    let noted := ledger.ending ((ledger.replayed settings params clock).map Grant.linkId)
    match (provider.exchange settings params clock).2 with
    | .ok tokens => noted.granted settings params clock tokens
    | .error _ => noted
  | .resolve _ _ => ledger
  | .revoke token now => ledger.ending ((ledger.minted token now).map Grant.linkId)
  | .recordAcceptGrant _ _ _ => ledger

def oauthMachine (settings : Settings) : Machine OAuthProvider OAuthCall where
  step provider
    | .issueCode params linkId code linkedAt now =>
      some (provider.issueCode settings params linkId code linkedAt now).1
    | .issueLinkingTicket _ _ _ => some provider
    | .exchange params clock => some (provider.exchange settings params clock).1
    | .resolve _ _ => some provider
    | .revoke token now => some (provider.revoke settings token now).1
    | .recordAcceptGrant token code now => some (provider.recordAcceptGrant settings
      token code now).1

/-- A text with the right signature has been handed out. -/
def Ledger.Unforged (settings : Settings) (ledger : Ledger) (token : Option String) : Prop :=
  ∀ text ∈ token, Authentic settings.hmac text → text ∈ ledger.handedOut

instance (settings : Settings) (ledger : Ledger) (token : Option String) :
    Decidable (ledger.Unforged settings token) := inferInstanceAs (Decidable (∀ text ∈ token, _))

/-- Nobody forges a signature, and no id and no code is drawn twice. -/
def asAssumed (settings : Settings) (config : OAuthProvider × Ledger) : OAuthCall → Prop
  | .issueCode _ linkId code _ _ =>
    ∀ issue ∈ config.2.issues, issue.linkId ≠ linkId ∧ issue.code ≠ code
  | .issueLinkingTicket _ _ _ => True
  | .exchange params _ => config.2.Unforged settings params.refreshToken
  | .resolve token _ | .revoke token _ | .recordAcceptGrant token _ _ =>
    config.2.Unforged settings token

instance (settings : Settings) (config : OAuthProvider × Ledger) :
    ∀ call, Decidable (asAssumed settings config call) := by
  intro call
  unfold asAssumed
  split <;> infer_instance

structure LinksHold (settings : Settings) (provider : OAuthProvider) (ledger : Ledger) : Prop where
  codeOnce : (ledger.grants.filterMap Grant.code?).Nodup
  codeOwn : ∀ grant ∈ ledger.grants, ∀ code redirectUri, grant.source = .code code redirectUri →
    ∃ issue ∈ ledger.issues, issue.code = code ∧ issue.linkId = grant.linkId ∧
      issue.clientId = grant.clientId ∧ some issue.redirectUri = redirectUri
  refreshOwn : ∀ grant ∈ ledger.grants, ∀ token, grant.source = .refresh token →
    ∃ earlier ∈ ledger.grants, earlier.refresh = token ∧ earlier.linkId = grant.linkId ∧
      earlier.clientId = grant.clientId
  resolves : ∀ token now linkId, ledger.Unforged settings token →
    ((∃ link, provider.resolve settings token now = .ok (some link) ∧ link.linkId = linkId) ↔
      ∃ grant ∈ ledger.grants, token = some grant.access ∧ now ≤ grant.accessExp ∧
        grant.linkId = linkId ∧ linkId ∉ ledger.ended)
  refreshes : ∀ params clock, params.grantType = some "refresh_token" →
    ledger.Unforged settings params.refreshToken →
    ((∃ tokens, (provider.exchange settings params clock).2 = .ok tokens) ↔
      (settings.authenticateClient params.clientId params.clientSecret).isOk = true ∧
        ∃ grant ∈ ledger.grants, params.refreshToken = some grant.refresh ∧
          clock.verify ≤ grant.refreshExp ∧ params.clientId = some grant.clientId ∧
          grant.linkId ∉ ledger.ended ∧ ¬ledger.Rotated grant.refresh)
  oneRefreshable : ∀ grant ∈ ledger.grants, ∀ other ∈ ledger.grants,
    grant.linkId = other.linkId → ¬ledger.Rotated grant.refresh → ¬ledger.Rotated other.refresh →
    grant.refresh = other.refresh

section Payloads

variable {linkId other clientId redirectUri : String} {exp otherExp now : Int} {gen otherGen : Nat}

@[simp]
theorem textMember_lid_access : textMember "lid" (accessPayload linkId exp) = some linkId := rfl

@[simp]
theorem textMember_typ_access : textMember "typ" (accessPayload linkId exp) = some "access" := rfl

@[simp]
theorem textMember_lid_refresh :
    textMember "lid" (refreshPayload linkId exp gen) = some linkId := rfl

@[simp]
theorem textMember_typ_refresh :
    textMember "typ" (refreshPayload linkId exp gen) = some "refresh" := rfl

@[simp]
theorem numberMember_gen_refresh :
    numberMember "gen" (refreshPayload linkId exp gen) = some (gen : ℚ) := by
  simp [numberMember, refreshPayload, Json.member]

@[simp]
theorem textMember_lid_ticket :
    textMember "lid" (ticketPayload clientId redirectUri exp) = none := rfl

@[simp]
theorem textMember_typ_ticket :
    textMember "typ" (ticketPayload clientId redirectUri exp) = none := rfl

theorem ofInt_injective {left right : Int} (same : JsonNumber.ofInt left = JsonNumber.ofInt right) :
    left = right := by
  have decimals := congrArg JsonNumber.decimal same
  rw [JsonNumber.decimal_ofInt, JsonNumber.decimal_ofInt] at decimals
  exact_mod_cast decimals

theorem accessPayload_inj :
    accessPayload linkId exp = accessPayload other otherExp ↔ linkId = other ∧ exp = otherExp := by
  constructor
  · intro same
    simp only [accessPayload, Json.object.injEq, List.cons.injEq, Prod.mk.injEq, Json.text.injEq,
      Json.number.injEq, true_and, and_true] at same
    exact ⟨same.1, ofInt_injective same.2⟩
  · rintro ⟨rfl, rfl⟩
    rfl

theorem refreshPayload_inj :
    refreshPayload linkId exp gen = refreshPayload other otherExp otherGen ↔
      linkId = other ∧ exp = otherExp ∧ gen = otherGen := by
  constructor
  · intro same
    simp only [refreshPayload, Json.object.injEq, List.cons.injEq, Prod.mk.injEq, Json.text.injEq,
      Json.number.injEq, true_and, and_true] at same
    exact ⟨same.1, ofInt_injective same.2.1, by exact_mod_cast ofInt_injective same.2.2⟩
  · rintro ⟨rfl, rfl, rfl⟩
    rfl

theorem accessPayload_ne_refreshPayload :
    accessPayload linkId exp ≠ refreshPayload other otherExp gen := by
  intro same
  have kinds := congrArg (textMember "typ") same
  rw [textMember_typ_access, textMember_typ_refresh] at kinds
  exact absurd (Option.some.inj kinds) (by decide)

end Payloads

section Verified

variable {settings : Settings} {now : Int}

theorem verifyToken_signText {payload : Json} {exp : Int}
    (expiry : numberMember "exp" payload = some (exp : ℚ)) :
    settings.verifyToken now (some (signText settings.hmac payload)) =
      .ok (if now ≤ exp then some payload else none) := by
  have something : given (some (signText settings.hmac payload)) =
      some (signText settings.hmac payload) := by
    simp [given, signText, Option.filter]
  rw [Settings.verifyToken, something, Option.bind_some, openText_signText]
  cases payload with
  | null => simp [numberMember, Json.member] at expiry
  | boolean value => simp [numberMember, Json.member] at expiry
  | number value => simp [numberMember, Json.member] at expiry
  | text value => simp [numberMember, Json.member] at expiry
  | array items => simp [numberMember, Json.member] at expiry
  | object members =>
    simp only [expiry, Int.cast_lt]
    split <;> split <;> first | rfl | omega

theorem verifyToken_access {linkId : String} {exp : Int} :
    settings.verifyToken now (some (signText settings.hmac (accessPayload linkId exp))) =
      .ok (if now ≤ exp then some (accessPayload linkId exp) else none) :=
  verifyToken_signText (by simp [numberMember, accessPayload, Json.member])

theorem verifyToken_refresh {linkId : String} {exp : Int} {gen : Nat} :
    settings.verifyToken now (some (signText settings.hmac (refreshPayload linkId exp gen))) =
      .ok (if now ≤ exp then some (refreshPayload linkId exp gen) else none) :=
  verifyToken_signText (by simp [numberMember, refreshPayload, Json.member])

theorem verifyToken_ticket {clientId redirectUri : String} {exp : Int} :
    settings.verifyToken now
        (some (signText settings.hmac (ticketPayload clientId redirectUri exp))) =
      .ok (if now ≤ exp then some (ticketPayload clientId redirectUri exp) else none) :=
  verifyToken_signText (by simp [numberMember, ticketPayload, Json.member])

theorem verifyToken_of_not_authentic {token : Option String}
    (foreign : ∀ text ∈ token, ¬Authentic settings.hmac text) :
    settings.verifyToken now token = .ok none := by
  have closed : (given token).bind (openText settings.hmac) = none := by
    rw [Option.bind_eq_none_iff]
    intro text there
    have presented : token = some text := (Option.filter_eq_some_iff.mp there).1
    cases opened : openText settings.hmac text with
    | none => rfl
    | some payload => exact absurd (authentic_of_openText opened) (foreign text presented)
  rw [Settings.verifyToken, closed]

end Verified

end SupremeOs.CloudVoice
