import Mathlib.Algebra.Order.Ring.Int
import Identity.GoMap.Basic
import Identity.GoStrings.Basic

/-! `pkg/jwt`: the claims that are signed and the verifiers that read them back. Times
are nanoseconds since the epoch; a claim counts whole seconds. -/

namespace identity.jwt

/-- The values a claim takes. -/
inductive ClaimValue where
  | str (text : String)
  | bool (flag : Bool)
  | num (n : Int)
  | strs (texts : List String)
  | actor (sub : String)
deriving DecidableEq

abbrev ClaimSet := GoMap String ClaimValue

def second : Int := 1000000000

def unix (t : Int) : Int := t / second

/-- A signed token: the type in its header and its claims. -/
structure Token where
  typ : String
  claims : ClaimSet

/-- A signer, the keys its tokens are verified with, and the library's validation of the
    claims at a time. Verification returns what was signed: the signature cannot be forged. -/
structure Keys where
  sign : Token → Except String String
  verify : String → Option Token
  validate : ClaimSet → Int → Except String Unit
  verify_sign : ∀ token text, sign token = .ok text → verify text = some token

namespace ClaimSet
variable (m : ClaimSet) (key : String)

/-- Set a claim that is left out when it is empty. -/
def setIf (m : ClaimSet) (present : Bool) (key : String) (value : ClaimValue) : ClaimSet :=
  if present then m.insert key value else m

/-- A claim read as a string; any other type reads as none. -/
def getString : String :=
  match m.lookup key with
  | some (.str text) => text
  | _ => ""

def getBool : Bool :=
  match m.lookup key with
  | some (.bool flag) => flag
  | _ => false

def numericClaim : Int :=
  match m.lookup key with
  | some (.num n) => n
  | _ => 0

/-- A time claim, none when it is absent. -/
def time : Option Int :=
  match m.lookup key with
  | some (.num n) => some n
  | _ => none

def audience : List String :=
  match m.lookup "aud" with
  | some (.strs texts) => texts
  | _ => []

/-- A string field of the payload decoded into a struct: absent reads as empty, another
    type fails. -/
def decodeString : Except String String :=
  match m.lookup key with
  | none => .ok ""
  | some (.str text) => .ok text
  | some _ => .error "json: cannot unmarshal into Go struct field of type string"

def decodeInt : Except String Int :=
  match m.lookup key with
  | none => .ok 0
  | some (.num n) => .ok n
  | some _ => .error "json: cannot unmarshal into Go struct field of type int64"

def decodeStrings : Except String (List String) :=
  match m.lookup key with
  | none => .ok []
  | some (.strs texts) => .ok texts
  | some _ => .error "json: cannot unmarshal into Go struct field of type []string"

def decodeActor : Except String String :=
  match m.lookup key with
  | none => .ok ""
  | some (.actor sub) => .ok sub
  | some _ => .error "json: cannot unmarshal into Go struct field of type jwt.DelegatedActor"

def decodeBool : Except String (Option Bool) :=
  match m.lookup key with
  | none => .ok none
  | some (.bool flag) => .ok (some flag)
  | some _ => .error "json: cannot unmarshal into Go struct field of type bool"

variable {m key}

@[simp]
lemma lookup_setIf (present : Bool) (other : String) (value : ClaimValue) :
    (m.setIf present other value).lookup key = if present ∧ key = other then some value else m.lookup key := by
  unfold setIf
  cases present with
  | true => simp [GoMap.lookup_insert_eq]
  | false => simp

@[simp]
lemma getString_eq (hlookup : m.lookup key = some (.str text)) : m.getString key = text := by
  rw [getString, hlookup]

@[simp]
lemma getString_absent (hlookup : m.lookup key = none) : m.getString key = "" := by
  rw [getString, hlookup]

end ClaimSet

/-- The fields of an access token; a ticket for one purpose is one with a purpose. -/
structure Claims where
  sub : String
  email : String := ""
  emailVerified : Bool := false
  name : String := ""
  role : String := ""
  tenant : String := ""
  project : String := ""
  avatarURL : String := ""
  isMinor : Bool := false
  anonymous : Bool := false
  kind : String := ""
  sid : String := ""
  audience : List String := []
  issuer : String := ""
  purpose : String := ""
  binding : String := ""
  authTime : Int := 0
  issuedAt : Int := 0
  expiresAt : Int := 0
deriving DecidableEq

def Claims.claimsMap (c : Claims) (now expiry : Int) : ClaimSet :=
  let m : ClaimSet := (∅ : GoMap String ClaimValue)
    |>.insert "sub" (.str c.sub) |>.insert "email" (.str c.email) |>.insert "name" (.str c.name)
    |>.insert "role" (.str c.role) |>.insert "tenant" (.str c.tenant) |>.insert "avatar_url" (.str c.avatarURL)
    |>.insert "iat" (.num (unix now)) |>.insert "exp" (.num (unix (now + expiry)))
  let m := m.setIf (c.email != "") "email_verified" (.bool c.emailVerified)
  let m := m.setIf (c.project != "") "project" (.str c.project)
  let m := m.setIf c.isMinor "is_minor" (.bool true)
  let m := m.setIf c.anonymous "anonymous" (.bool true)
  let m := m.setIf (c.kind != "") "kind" (.str c.kind)
  let m := m.setIf (c.sid != "") "sid" (.str c.sid)
  let m := m.setIf (c.purpose != "") "purpose" (.str c.purpose)
  let m := m.setIf (c.binding != "") "bnd" (.str c.binding)
  let m := m.setIf (0 < c.authTime) "auth_time" (.num c.authTime)
  let m := m.setIf (!c.audience.isEmpty) "aud" (.strs c.audience)
  m.setIf (c.issuer != "") "iss" (.str c.issuer)

namespace Keys
variable (k : Keys)

def signClaims (claims : ClaimSet) : Except String String := k.sign ⟨"JWT", claims⟩

def signAccessToken (claims : Claims) (now expiry : Int) : Except String String :=
  k.signClaims (claims.claimsMap now expiry)

end Keys

def delegatedAccessTokenType : String := "at+jwt"

/-- The token with a signature of a known key and the type the profile asks for. -/
def verificationKey (k : Keys) (text profile : String) : Except String Token :=
  match k.verify text with
  | none => .error "verifying token"
  | some token =>
    if profile = delegatedAccessTokenType ∧ token.typ ≠ delegatedAccessTokenType ∨
        profile = "JWT" ∧ token.typ ≠ "" ∧ token.typ ≠ "JWT" then .error "token profile mismatch"
    else .ok token

/-- `%q`, for text without characters that it escapes. -/
def quoted (text : String) : String := "\"" ++ text ++ "\""

/-- The audience rule of `verifyTokenProfile`. -/
def checkAudience (audience : List String) (expectedAudience : String) (requireAudience : Bool) : Except String Unit :=
  if expectedAudience = "" then .ok ()
  else if audience.isEmpty then
    if requireAudience then .error ("audience missing: expected=" ++ quoted expectedAudience) else .ok ()
  else if audience.contains expectedAudience then .ok ()
  else
    .error ("audience mismatch: token aud=[" ++ " ".intercalate audience ++ "] expected=" ++ quoted expectedAudience)

def readClaims (m : ClaimSet) (exp : Int) : Claims where
  sub := m.getString "sub"
  email := m.getString "email"
  emailVerified := m.getBool "email_verified"
  name := m.getString "name"
  role := m.getString "role"
  tenant := m.getString "tenant"
  project := m.getString "project"
  avatarURL := m.getString "avatar_url"
  isMinor := m.getBool "is_minor"
  anonymous := m.getBool "anonymous"
  kind := m.getString "kind"
  sid := m.getString "sid"
  audience := m.audience
  issuer := m.getString "iss"
  purpose := m.getString "purpose"
  binding := m.getString "bnd"
  authTime := m.numericClaim "auth_time"
  -- an absent time decodes to Go's zero time
  issuedAt := (m.time "iat").getD (-62135596800)
  expiresAt := exp

/-- The verification every kind of access token goes through. A token without a subject is
    never one. -/
def verifyTokenProfile (k : Keys) (text expectedTenant expectedAudience : String) (requireAudience : Bool)
    (profile : String) (now : Int) : Except String Claims := do
  let token ← verificationKey k text profile
  k.validate token.claims now
  match token.claims.time "exp" with
  | none => throw "token missing or zero expiration"
  | some exp =>
    if exp * second < now then throw "token expired"
    let claims := readClaims token.claims exp
    if claims.sub = "" then throw "token missing sub claim"
    if expectedTenant ≠ "" ∧ claims.tenant ≠ expectedTenant then
      throw ("tenant mismatch: token tenant=" ++ quoted claims.tenant ++ " expected=" ++ quoted expectedTenant)
    checkAudience claims.audience expectedAudience requireAudience
    return claims

/-- A token with a purpose authenticates no request. -/
def verifyAccessToken (k : Keys) (text expectedTenant expectedAudience : String) (requireAudience : Bool) (now : Int) :
    Except String Claims := do
  let claims ← verifyTokenProfile k text expectedTenant expectedAudience requireAudience "JWT" now
  if claims.purpose ≠ "" then
    throw ("token has purpose=" ++ quoted claims.purpose ++ " and authenticates no request")
  return claims

def verifyPurposeToken (k : Keys) (text expectedTenant expectedAudience : String) (requireAudience : Bool)
    (wantPurpose : String) (now : Int) : Except String Claims := do
  if wantPurpose = "" then throw "VerifyPurposeToken: wantPurpose is required"
  let claims ← verifyTokenProfile k text expectedTenant expectedAudience requireAudience "JWT" now
  if claims.purpose ≠ wantPurpose then
    throw ("token purpose=" ++ quoted claims.purpose ++ ", want " ++ quoted wantPurpose)
  return claims

/-- The claims of an agent's token for one resource. -/
structure DelegatedAccessClaims where
  sub : String
  kind : String
  actor : String
  issuer : String
  project : String
  audience : List String
  clientID : String
  scope : String
  grantID : String
  sid : String
  issuedAt : Int
  expiresAt : Int
  jwtID : String
  isMinor : Bool

/-- The claims of a teammate's token for one claim on one workstation. -/
structure TeammateAccessClaims where
  sub : String
  kind : String
  actor : String
  issuer : String
  project : String
  audience : List String
  claimID : String
  workstationID : String
  companyID : String
  issuedAt : Int
  expiresAt : Int
  jwtID : String

/-- One audience, and not the empty one. -/
def soleAudience (audience : List String) : Bool :=
  match audience with
  | [only] => only != ""
  | _ => false

def DelegatedAccessClaims.validate (c : DelegatedAccessClaims) : Except String Unit :=
  if c.sub = "" ∨ c.kind ≠ "agent" ∨ c.actor = "" ∨ c.actor = c.sub ∨ c.issuer = "" ∨ c.project = "" ∨
      soleAudience c.audience = false ∨ c.clientID = "" ∨ c.scope = "" ∨ c.grantID = "" ∨ c.sid = "" ∨ c.jwtID = "" ∨
      c.issuedAt ≤ 0 ∨ c.expiresAt ≤ c.issuedAt then .error "invalid delegated access-token claims"
  else .ok ()

def TeammateAccessClaims.validate (c : TeammateAccessClaims) : Except String Unit :=
  if c.sub = "" ∨ c.kind ≠ "agent" ∨ c.actor = "" ∨ c.actor = c.sub ∨ c.issuer = "" ∨ c.project = "" ∨
      soleAudience c.audience = false ∨ c.claimID = "" ∨ c.workstationID = "" ∨ c.companyID = "" ∨ c.jwtID = "" ∨
      c.issuedAt ≤ 0 ∨ c.expiresAt ≤ c.issuedAt then .error "invalid teammate access-token claims"
  else .ok ()

def DelegatedAccessClaims.claimsMap (c : DelegatedAccessClaims) : Except String ClaimSet := do
  c.validate
  return (∅ : GoMap String ClaimValue)
    |>.insert "sub" (.str c.sub) |>.insert "kind" (.str c.kind) |>.insert "act" (.actor c.actor)
    |>.insert "iss" (.str c.issuer) |>.insert "project" (.str c.project) |>.insert "aud" (.strs c.audience)
    |>.insert "client_id" (.str c.clientID) |>.insert "scope" (.str c.scope) |>.insert "grant_id" (.str c.grantID)
    |>.insert "sid" (.str c.sid) |>.insert "iat" (.num c.issuedAt) |>.insert "exp" (.num c.expiresAt)
    |>.insert "jti" (.str c.jwtID) |>.insert "is_minor" (.bool c.isMinor)

def TeammateAccessClaims.claimsMap (c : TeammateAccessClaims) : Except String ClaimSet := do
  c.validate
  return (∅ : GoMap String ClaimValue)
    |>.insert "sub" (.str c.sub) |>.insert "kind" (.str c.kind) |>.insert "act" (.actor c.actor)
    |>.insert "iss" (.str c.issuer) |>.insert "project" (.str c.project) |>.insert "aud" (.strs c.audience)
    |>.insert "claim_id" (.str c.claimID) |>.insert "workstation_id" (.str c.workstationID)
    |>.insert "company_id" (.str c.companyID) |>.insert "iat" (.num c.issuedAt) |>.insert "exp" (.num c.expiresAt)
    |>.insert "jti" (.str c.jwtID)

namespace Keys
variable (k : Keys)

def signDelegatedAccessToken (claims : DelegatedAccessClaims) : Except String String := do
  let m ← claims.claimsMap
  k.sign ⟨delegatedAccessTokenType, m⟩

def signTeammateAccessToken (claims : TeammateAccessClaims) : Except String String := do
  let m ← claims.claimsMap
  k.sign ⟨delegatedAccessTokenType, m⟩

end Keys

def maxDelegatedAccessTokenBytes : Nat := 32768

/-- Not longer than allowed, three parts and no white space. -/
def boundedCompact (text : String) : Bool :=
  decide (strings.len text ≤ maxDelegatedAccessTokenBytes) && text.toList.count '.' == 2 &&
    !strings.containsAny text " \t\r\n"

/-- The payload decoded into the struct. -/
def decodeDelegated (m : ClaimSet) : Except String DelegatedAccessClaims := do
  return { sub := ← m.decodeString "sub", kind := ← m.decodeString "kind", actor := ← m.decodeActor "act"
           issuer := ← m.decodeString "iss", project := ← m.decodeString "project"
           audience := ← m.decodeStrings "aud", clientID := ← m.decodeString "client_id"
           scope := ← m.decodeString "scope", grantID := ← m.decodeString "grant_id", sid := ← m.decodeString "sid"
           issuedAt := ← m.decodeInt "iat", expiresAt := ← m.decodeInt "exp", jwtID := ← m.decodeString "jti"
           isMinor := (← m.decodeBool "is_minor").getD false }

def decodeTeammate (m : ClaimSet) : Except String TeammateAccessClaims := do
  return { sub := ← m.decodeString "sub", kind := ← m.decodeString "kind", actor := ← m.decodeActor "act"
           issuer := ← m.decodeString "iss", project := ← m.decodeString "project"
           audience := ← m.decodeStrings "aud", claimID := ← m.decodeString "claim_id"
           workstationID := ← m.decodeString "workstation_id", companyID := ← m.decodeString "company_id"
           issuedAt := ← m.decodeInt "iat", expiresAt := ← m.decodeInt "exp", jwtID := ← m.decodeString "jti" }

def verifyDelegatedAccessToken (k : Keys) (text issuer project resource : String) (now : Int) :
    Except String DelegatedAccessClaims :=
  if boundedCompact text = false then .error "delegated access requires a bounded compact JWT"
  else if issuer = "" ∨ project = "" ∨ resource = "" then
    .error "delegated verification requires issuer, project and resource"
  else do
    let profile ← verifyTokenProfile k text "" resource true delegatedAccessTokenType now
    if profile.purpose ≠ "" then throw "purpose token is not delegated access"
    let token ← verificationKey k text delegatedAccessTokenType
    let isMinor ← token.claims.decodeBool "is_minor"
    if isMinor = none then throw "delegated access requires explicit owner age standing"
    let claims ← decodeDelegated token.claims
    claims.validate
    if claims.issuer ≠ issuer ∨ claims.project ≠ project ∨ claims.audience.head? ≠ some resource ∨
        unix now < claims.issuedAt then throw "delegated token binding mismatch"
    return claims

def verifyTeammateAccessToken (k : Keys) (text issuer project audience : String) (now : Int) :
    Except String TeammateAccessClaims :=
  if boundedCompact text = false then .error "teammate access requires a bounded compact JWT"
  else if issuer = "" ∨ project = "" ∨ audience = "" then
    .error "teammate verification requires issuer, project and audience"
  else do
    let profile ← verifyTokenProfile k text "" audience true delegatedAccessTokenType now
    if profile.purpose ≠ "" then throw "purpose token is not teammate access"
    let token ← verificationKey k text delegatedAccessTokenType
    let claims ← decodeTeammate token.claims
    claims.validate
    if claims.issuer ≠ issuer ∨ claims.project ≠ project ∨ claims.audience.head? ≠ some audience ∨
        unix now < claims.issuedAt then throw "teammate token binding mismatch"
    return claims

end identity.jwt
