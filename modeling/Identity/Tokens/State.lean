import Identity.Tokens.Jwt

/-! `pkg/oauth`: the state tokens of the headless and of the hosted sign-in, and
`pkg/assurance`: the token that says which checks a client passed. -/

open identity.jwt
namespace identity.oauth

structure StateClaims where
  provider : String
  redirectURI : String
  state : String
  codeVerifier : String
  issuedAt : Int
  expiresAt : Int

structure HostedStateClaims where
  provider : String
  redirectURI : String
  returnTo : String
  state : String
  codeVerifier : String
  csrfToken : String
  appCodeChallenge : String
  projectID : String
  issuedAt : Int
  expiresAt : Int

/-- What the caller of `IssueStateToken` supplies. -/
structure StateRequest where
  provider : String
  redirectURI : String
  state : String
  codeVerifier : String
  expiry : Int
  now : Int

/-- What the caller of `IssueHostedStateToken` supplies. -/
structure HostedStateRequest where
  provider : String
  redirectURI : String
  returnTo : String
  state : String
  codeVerifier : String
  csrfToken : String
  appCodeChallenge : String
  projectID : String
  expiry : Int
  now : Int

def issueStateToken (k : Keys) (q : StateRequest) : Except String String := do
  let provider := strings.toLower (strings.trimSpace q.provider)
  let redirectURI := strings.trimSpace q.redirectURI
  let state := strings.trimSpace q.state
  let codeVerifier := strings.trimSpace q.codeVerifier
  if provider = "" ∨ redirectURI = "" ∨ state = "" ∨ codeVerifier = "" then throw "missing required state-token claim"
  k.signClaims ((∅ : GoMap String ClaimValue)
    |>.insert "provider" (.str provider) |>.insert "redirect_uri" (.str redirectURI)
    |>.insert "oauth_state" (.str state) |>.insert "code_verifier" (.str codeVerifier)
    |>.insert "iat" (.num (unix q.now)) |>.insert "exp" (.num (unix (q.now + q.expiry))))

/-- The claims of a hosted state token. -/
def hostedClaims (q : HostedStateRequest) : ClaimSet :=
  let m : ClaimSet := (∅ : GoMap String ClaimValue)
    |>.insert "flow" (.str "hosted") |>.insert "provider" (.str (strings.toLower (strings.trimSpace q.provider)))
    |>.insert "redirect_uri" (.str (strings.trimSpace q.redirectURI))
    |>.insert "return_to" (.str (strings.trimSpace q.returnTo))
    |>.insert "oauth_state" (.str (strings.trimSpace q.state))
    |>.insert "code_verifier" (.str (strings.trimSpace q.codeVerifier))
    |>.insert "csrf_token" (.str (strings.trimSpace q.csrfToken)) |>.insert "project_id" (.str q.projectID)
    |>.insert "iat" (.num (unix q.now)) |>.insert "exp" (.num (unix (q.now + q.expiry)))
  m.setIf (q.appCodeChallenge != "") "app_code_challenge" (.str q.appCodeChallenge)

def issueHostedStateToken (k : Keys) (q : HostedStateRequest) : Except String String := do
  if strings.toLower (strings.trimSpace q.provider) = "" ∨ strings.trimSpace q.redirectURI = "" ∨
      strings.trimSpace q.returnTo = "" ∨ strings.trimSpace q.state = "" ∨ strings.trimSpace q.codeVerifier = "" ∨
      strings.trimSpace q.csrfToken = "" ∨ q.projectID = "" then throw "missing required hosted-state claim"
  k.signClaims (hostedClaims q)

def getStringClaim (m : ClaimSet) (name : String) : String := strings.trimSpace (m.getString name)

def verifiedClaims (k : Keys) (text : String) : Except String ClaimSet :=
  match k.verify text with
  | none => .error "verify state token"
  | some token => .ok token.claims

def twoMinutes : Int := 120 * second

/-- Neither expired nor issued more than two minutes ahead. -/
def checkStateTimes (what : String) (m : ClaimSet) (now : Int) : Except String Unit :=
  if (m.time "exp").all fun exp => decide (exp * second < now) then .error (what ++ " expired")
  else if (m.time "iat").any fun iat => decide (now + twoMinutes < iat * second) then
    .error (what ++ " iat in the future")
  else .ok ()

/-- What the callback of a headless sign-in presents besides the token. -/
structure StateExpectation where
  provider : String
  redirectURI : String
  returnedState : String
  codeVerifier : String
  now : Int

def verifyStateToken (k : Keys) (text : String) (e : StateExpectation) : Except String StateClaims := do
  let m ← verifiedClaims k text
  let claims : StateClaims :=
    { provider := getStringClaim m "provider", redirectURI := getStringClaim m "redirect_uri"
      state := getStringClaim m "oauth_state", codeVerifier := getStringClaim m "code_verifier"
      issuedAt := (m.time "iat").getD (-62135596800), expiresAt := (m.time "exp").getD (-62135596800) }
  if claims.provider = "" ∨ claims.redirectURI = "" ∨ claims.state = "" ∨ claims.codeVerifier = "" then
    throw "state token missing required claims"
  checkStateTimes "state token" m e.now
  let provider := strings.toLower (strings.trimSpace e.provider)
  if provider ≠ "" ∧ claims.provider ≠ provider then throw "provider mismatch"
  let redirectURI := strings.trimSpace e.redirectURI
  if redirectURI ≠ "" ∧ claims.redirectURI ≠ redirectURI then throw "redirect uri mismatch"
  let state := strings.trimSpace e.returnedState
  if state = "" ∨ claims.state ≠ state then throw "callback state mismatch"
  let verifier := strings.trimSpace e.codeVerifier
  if verifier ≠ "" ∧ claims.codeVerifier ≠ verifier then throw "code verifier mismatch"
  return claims

def verifyHostedStateToken (k : Keys) (text : String) (now : Int) : Except String HostedStateClaims := do
  let m ← verifiedClaims k text
  if getStringClaim m "flow" ≠ "hosted" then throw "not a hosted state token"
  let claims : HostedStateClaims :=
    { provider := getStringClaim m "provider", redirectURI := getStringClaim m "redirect_uri"
      returnTo := getStringClaim m "return_to", state := getStringClaim m "oauth_state"
      codeVerifier := getStringClaim m "code_verifier", csrfToken := getStringClaim m "csrf_token"
      appCodeChallenge := getStringClaim m "app_code_challenge", projectID := getStringClaim m "project_id"
      issuedAt := (m.time "iat").getD (-62135596800), expiresAt := (m.time "exp").getD (-62135596800) }
  if claims.provider = "" ∨ claims.redirectURI = "" ∨ claims.returnTo = "" ∨ claims.state = "" ∨
      claims.codeVerifier = "" ∨ claims.csrfToken = "" then throw "hosted state token missing required claims"
  checkStateTimes "hosted state token" m now
  return claims

end identity.oauth

namespace identity.assurance

def tokenAudience : String := "assurance"

def defaultTokenTTL : Int := 3600 * second

structure TokenClaims where
  project : String
  providers : List String
  deviceID : String
  issuedAt : Int := 0
  expiresAt : Int := 0

/-- A token that names no subject, only the checks a client passed. -/
def mintToken (k : Keys) (claims : TokenClaims) (ttl now : Int) : Except String String := do
  if claims.providers.isEmpty then throw "assurance: minting a token requires at least one passed provider"
  let ttl := if ttl ≤ 0 then defaultTokenTTL else ttl
  let m : ClaimSet := (∅ : GoMap String ClaimValue)
    |>.insert "aud" (.strs [tokenAudience]) |>.insert "amr" (.strs claims.providers)
    |>.insert "iat" (.num (unix now)) |>.insert "exp" (.num (unix (now + ttl)))
  let m := m.setIf (claims.project != "") "project" (.str claims.project)
  k.signClaims (m.setIf (claims.deviceID != "") "device_id" (.str claims.deviceID))

/-- The decoded form of an `amr` claim drops what is empty. -/
def toStringSlice (m : ClaimSet) (key : String) : List String :=
  match m.lookup key with
  | some (.strs texts) => texts.filter fun text => text != ""
  | _ => []

def verifyToken (k : Keys) (text expectedProject : String) (now : Int) : Except String TokenClaims := do
  match k.verify text with
  | none => throw "malformed"
  | some token =>
    k.validate token.claims now
    if !token.claims.audience.contains tokenAudience then throw "\"aud\" not satisfied"
    match token.claims.time "exp" with
    | none => throw "missing expiration"
    | some exp =>
      if token.claims.getString "sub" ≠ "" then throw "assurance tokens carry no subject"
      let claims : TokenClaims :=
        { project := token.claims.getString "project", providers := toStringSlice token.claims "amr"
          deviceID := token.claims.getString "device_id", issuedAt :=
            (token.claims.time "iat").getD 0, expiresAt := exp }
      if claims.providers.isEmpty then throw "no amr"
      if expectedProject ≠ "" ∧ claims.project ≠ expectedProject then throw "project mismatch"
      return claims

end identity.assurance
