import SupremeOs.CloudVoice.Tokens
import Mathlib.Data.List.Induction

/-!
# The account links of the voice assistants

A user who has proven who they are gets an authorization code for an assistant's
cloud, which exchanges it for an access and a refresh token.  The tokens name a
link, which the provider keeps; a refresh token carries the generation of the
link, and the link's generation grows with every exchange.

A call reads the clock where the source does, so an exchange has several
readings.  Times are whole milliseconds.
-/

namespace SupremeOs.CloudVoice

open DomainModel Support

inductive Assistant where
  | alexa
  | google
  | homekit
  | siri

structure LinkIdentity where
  accountId : String
  homeId : String
  hubToken : String
  scopes : Option (List String)

structure AcceptGrant where
  code : String
  granteeToken : String

structure LinkRecord where
  linkId : String
  assistant : Assistant
  clientId : String
  refreshGen : Nat
  accountId : String
  homeId : String
  hubToken : String
  scopes : List String
  linkedAt : Int
  acceptGrant : Option AcceptGrant

structure OAuthClient where
  clientId : String
  clientSecret : String
  assistant : Assistant
  redirectUris : List String

structure OAuthError where
  error : String
  message : String
  statusCode : Nat

/-- What a call can throw; reading a field of `null` is a type error. -/
inductive Thrown where
  | oauth (error : OAuthError)
  | typeError

structure CodeEntry where
  record : LinkRecord
  clientId : String
  redirectUri : String
  expiresAt : Int

structure TokenSet where
  access_token : String
  refresh_token : String
  token_type : String
  expires_in : Int

structure OAuthProviderOptions where
  clients : List OAuthClient
  codeTtlMs : Option Int
  accessTtlMs : Option Int
  refreshTtlMs : Option Int

/-- What never changes after the construction. -/
structure Settings where
  /-- The digest of a text under the signing secret. -/
  hmac : String → List UInt8
  clients : OrderedMap String OAuthClient
  codeTtl : Int
  accessTtl : Int
  refreshTtl : Int
  keyed : ∀ clientId client, clients.get clientId = some client → client.clientId = clientId

structure OAuthProvider where
  links : OrderedMap String LinkRecord
  codes : OrderedMap String CodeEntry

def OAuthProvider.empty : OAuthProvider := ⟨.empty, .empty⟩

/-- The clients by their ids, the last one of an id. -/
def registerClients (clients : List OAuthClient) : OrderedMap String OAuthClient :=
  clients.foldl (fun registered client => registered.set client.clientId client) .empty

theorem registerClients_concat (clients : List OAuthClient) (client : OAuthClient) :
    registerClients (clients ++ [client]) =
      (registerClients clients).set client.clientId client := by
  simp [registerClients]

theorem registerClients_keyed (clients : List OAuthClient) (clientId : String)
    (client : OAuthClient) (found : (registerClients clients).get clientId = some client) :
    client.clientId = clientId := by
  induction clients using List.reverseRecOn with
  | nil => simp [registerClients] at found
  | append_singleton clients last ih =>
    rw [registerClients_concat, OrderedMap.get_set] at found
    split at found
    · rename_i same
      rw [← Option.some.inj found, same]
    · exact ih found

def OAuthProviderOptions.settings (opts : OAuthProviderOptions) (hmac : String → List UInt8) :
    Settings where
  hmac := hmac
  clients := registerClients opts.clients
  codeTtl := opts.codeTtlMs.getD (10 * 60 * 1000)
  accessTtl := opts.accessTtlMs.getD (60 * 60 * 1000)
  refreshTtl := opts.refreshTtlMs.getD (180 * 24 * 60 * 60 * 1000)
  keyed := registerClients_keyed opts.clients

def given (parameter : Option String) : Option String :=
  parameter.filter fun text => !text.isEmpty

def accessPayload (linkId : String) (exp : Int) : Json :=
  .object [("lid", .text linkId), ("typ", .text "access"), ("exp", .number (.ofInt exp))]

def refreshPayload (linkId : String) (exp : Int) (gen : Nat) : Json :=
  .object [("lid", .text linkId), ("typ", .text "refresh"), ("exp", .number (.ofInt exp)),
    ("gen", .number (.ofInt gen))]

def ticketPayload (clientId redirectUri : String) (exp : Int) : Json :=
  .object [("c", .text clientId), ("r", .text redirectUri), ("exp", .number (.ofInt exp))]

def textMember (name : String) (payload : Json) : Option String :=
  match payload.member name with
  | some (.text text) => some text
  | _ => none

def numberMember (name : String) (payload : Json) : Option ℚ :=
  match payload.member name with
  | some (.number number) => some number.decimal
  | _ => none

namespace Settings

variable (settings : Settings)

def verifyToken (now : Int) (token : Option String) : Except Thrown (Option Json) :=
  match (given token).bind (openText settings.hmac) with
  | none => .ok none
  | some .null => .error .typeError
  | some payload =>
    match numberMember "exp" payload with
    | none => .ok none
    | some exp => if exp < now then .ok none else .ok (some payload)

def mintTokens (record : LinkRecord) (accessAt refreshAt : Int) : TokenSet where
  access_token := signText settings.hmac
    (accessPayload record.linkId (accessAt + settings.accessTtl))
  refresh_token := signText settings.hmac
    (refreshPayload record.linkId (refreshAt + settings.refreshTtl) record.refreshGen)
  token_type := "bearer"
  expires_in := settings.accessTtl / 1000

def issueLinkingTicket (clientId redirectUri : String) (now : Int) : String :=
  signText settings.hmac (ticketPayload clientId redirectUri (now + settings.codeTtl))

def validateAuthorization (clientId redirectUri responseType : Option String) :
    Except Thrown OAuthClient :=
  match (given clientId).bind settings.clients.get with
  | none => .error (.oauth ⟨"invalid_client", "unknown client_id", 400⟩)
  | some client =>
    if responseType ≠ some "code" then
      .error (.oauth ⟨"unsupported_response_type", "only response_type=code is supported", 400⟩)
    else if (given redirectUri).any client.redirectUris.contains then .ok client
    else
      .error (.oauth ⟨"invalid_request", "redirect_uri not registered for this client", 400⟩)

def authenticateClient (clientId clientSecret : Option String) : Except Thrown OAuthClient :=
  match (given clientId).bind settings.clients.get, given clientSecret with
  | some client, some secret =>
    if secret = client.clientSecret then .ok client
    else .error (.oauth ⟨"invalid_client", "client authentication failed", 401⟩)
  | _, _ => .error (.oauth ⟨"invalid_client", "client authentication failed", 401⟩)

end Settings

def invalidGrant (message : String) : Thrown := .oauth ⟨"invalid_grant", message, 400⟩

structure IssueParams where
  clientId : String
  redirectUri : String
  identity : LinkIdentity

structure ExchangeParams where
  grantType : Option String
  code : Option String
  refreshToken : Option String
  redirectUri : Option String
  clientId : Option String
  clientSecret : Option String

/-- The readings of an exchange: whether it is in time, and for each of the two tokens. -/
structure Clock where
  verify : Int
  access : Int
  refresh : Int

namespace OAuthProvider

/-- `linkId` and `code` are what is drawn, `linkedAt` and `now` what the clock says. -/
def issueCode (settings : Settings) (provider : OAuthProvider) (params : IssueParams)
    (linkId code : String) (linkedAt now : Int) : OAuthProvider × Except Thrown String :=
  match settings.validateAuthorization (some params.clientId) (some params.redirectUri)
      (some "code") with
  | .error thrown => (provider, .error thrown)
  | .ok client =>
    let record : LinkRecord := {
      linkId, assistant := client.assistant, clientId := client.clientId, refreshGen := 0,
      accountId := params.identity.accountId, homeId := params.identity.homeId,
      hubToken := params.identity.hubToken,
      scopes := params.identity.scopes.getD ["control"], linkedAt, acceptGrant := none }
    let entry : CodeEntry := {
      record, clientId := client.clientId, redirectUri := params.redirectUri,
      expiresAt := now + settings.codeTtl }
    ({ provider with codes := provider.codes.set code entry }, .ok code)

def exchangeCode (settings : Settings) (provider : OAuthProvider) (client : OAuthClient)
    (code redirectUri : Option String) (clock : Clock) :
    OAuthProvider × Except Thrown TokenSet :=
  match given code with
  | none => (provider, .error (invalidGrant "unknown or used authorization code"))
  | some code =>
    match provider.codes.get code with
    | none => (provider, .error (invalidGrant "unknown or used authorization code"))
    | some entry =>
      let used := { provider with codes := provider.codes.delete code }
      if entry.expiresAt < clock.verify then
        (used, .error (invalidGrant "authorization code expired"))
      else if entry.clientId ≠ client.clientId then
        (used, .error (invalidGrant "code was issued to a different client"))
      else if some entry.redirectUri ≠ redirectUri then
        (used, .error (invalidGrant "redirect_uri mismatch"))
      else
        ({ used with links := provider.links.set entry.record.linkId entry.record },
          .ok (settings.mintTokens entry.record clock.access clock.refresh))

/-- The refresh of a link whose record has been found under its id. -/
def rotate (settings : Settings) (provider : OAuthProvider) (client : OAuthClient)
    (linkId : String) (record : LinkRecord) (gen : Option ℚ) (clock : Clock) :
    OAuthProvider × Except Thrown TokenSet :=
  if record.clientId ≠ client.clientId then
    (provider, .error (invalidGrant "refresh token does not belong to this client"))
  else if gen ≠ some (record.refreshGen : ℚ) then
    ({ provider with links := provider.links.delete record.linkId },
      .error (invalidGrant "refresh token reuse detected — link revoked"))
  else
    let rotated := { record with refreshGen := record.refreshGen + 1 }
    ({ provider with links := provider.links.set linkId rotated },
      .ok (settings.mintTokens rotated clock.access clock.refresh))

def exchangeRefresh (settings : Settings) (provider : OAuthProvider) (client : OAuthClient)
    (refreshToken : Option String) (clock : Clock) : OAuthProvider × Except Thrown TokenSet :=
  match settings.verifyToken clock.verify refreshToken with
  | .error thrown => (provider, .error thrown)
  | .ok none => (provider, .error (invalidGrant "invalid refresh token"))
  | .ok (some payload) =>
    if textMember "typ" payload ≠ some "refresh" then
      (provider, .error (invalidGrant "invalid refresh token"))
    else
      match textMember "lid" payload with
      | none => (provider, .error (invalidGrant "link revoked"))
      | some linkId =>
        match provider.links.get linkId with
        | none => (provider, .error (invalidGrant "link revoked"))
        | some record =>
          provider.rotate settings client linkId record (numberMember "gen" payload) clock

def exchange (settings : Settings) (provider : OAuthProvider) (params : ExchangeParams)
    (clock : Clock) : OAuthProvider × Except Thrown TokenSet :=
  match settings.authenticateClient params.clientId params.clientSecret with
  | .error thrown => (provider, .error thrown)
  | .ok client =>
    if params.grantType = some "authorization_code" then
      provider.exchangeCode settings client params.code params.redirectUri clock
    else if params.grantType = some "refresh_token" then
      provider.exchangeRefresh settings client params.refreshToken clock
    else
      (provider, .error (.oauth ⟨"unsupported_grant_type",
        "grant_type must be authorization_code or refresh_token", 400⟩))

def resolve (settings : Settings) (provider : OAuthProvider) (accessToken : Option String)
    (now : Int) : Except Thrown (Option LinkRecord) :=
  match settings.verifyToken now accessToken with
  | .error thrown => .error thrown
  | .ok none => .ok none
  | .ok (some payload) =>
    if textMember "typ" payload ≠ some "access" then .ok none
    else .ok ((textMember "lid" payload).bind provider.links.get)

def revoke (settings : Settings) (provider : OAuthProvider) (token : Option String)
    (now : Int) : OAuthProvider × Except Thrown Bool :=
  match settings.verifyToken now token with
  | .error thrown => (provider, .error thrown)
  | .ok none => (provider, .ok false)
  | .ok (some payload) =>
    match textMember "lid" payload with
    | none => (provider, .ok false)
    | some linkId =>
      ({ provider with links := provider.links.delete linkId },
        .ok (provider.links.has linkId))

def recordAcceptGrant (settings : Settings) (provider : OAuthProvider)
    (granteeToken : Option String) (code : String) (now : Int) :
    OAuthProvider × Except Thrown Bool :=
  match provider.resolve settings granteeToken now with
  | .error thrown => (provider, .error thrown)
  | .ok none => (provider, .ok false)
  | .ok (some link) =>
    let enrolled := { link with acceptGrant := some ⟨code, granteeToken.getD ""⟩ }
    ({ provider with links := provider.links.set link.linkId enrolled }, .ok true)

end OAuthProvider

inductive OAuthCall where
  | issueCode (params : IssueParams) (linkId code : String) (linkedAt now : Int)
  | issueLinkingTicket (clientId redirectUri : String) (now : Int)
  | exchange (params : ExchangeParams) (clock : Clock)
  | resolve (accessToken : Option String) (now : Int)
  | revoke (token : Option String) (now : Int)
  | recordAcceptGrant (granteeToken : Option String) (code : String) (now : Int)

end SupremeOs.CloudVoice
