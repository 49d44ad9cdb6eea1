import Mathlib.Algebra.Order.Ring.Int
import Identity.GoStrings.Basic
import Identity.Service.Errors

namespace identity.service

/-- A parsed URL as the registration checks read it. `withHost` is the text of
    the URL once its host has been overwritten. -/
structure Url where
  scheme : String
  opaquePart : String
  hasUser : Bool
  host : String
  hostname : String
  port : String
  withHost : String → String

structure OAuthResourceBounds where
  resource : String
  product : String
  scopes : List String
deriving DecidableEq

structure OAuthClientRegistration where
  name : String
  redirectURIs : List String
  resources : List OAuthResourceBounds
  grantTypes : List String
  disabled : Bool
deriving DecidableEq

/-- A project's client registration. Every update advances `revision`. -/
structure OAuthClient where
  id : String
  kind : String
  registration : OAuthClientRegistration
  revision : Int
  createdAt : Int
  updatedAt : Int
deriving DecidableEq

def oauthGrantAuthorizationCode : String := "authorization_code"
def oauthGrantRefreshToken : String := "refresh_token"
def oauthGrantAgentMachine : String := "agent_machine"
def oauthClientNativePublic : String := "native_public"
def maxOAuthRedirects : Nat := 16
def maxOAuthResources : Nat := 16
def maxOAuthScopes : Nat := 64
def maxOAuthURIBytes : Nat := 2048
def maxOAuthScopeBytes : Nat := 128
def maxOAuthProductBytes : Nat := 128
def maxOAuthClientNameBytes : Nat := 200
def maxInt64 : Int := 2 ^ 63 - 1

def invalidOAuthClient (reason : String) : Err := .wrapped .invalidArgument reason

/-- A non-empty list of at most `limit` distinct strings. -/
def boundedOAuthStrings (values : List String) (limit : Nat) : Bool :=
  values.length != 0 && values.length ≤ limit && decide values.Nodup

def oauthURI (parse : String → Option Url) (raw : String) : Except Err Url := do
  if raw == "" || strings.len raw > maxOAuthURIBytes || strings.containsAny raw "#*\\" ||
      strings.containsFunc raw (fun r => r ≤ ' ' || r > '~') then
    throw (invalidOAuthClient "invalid absolute URI")
  match parse raw with
  | none => throw (invalidOAuthClient "invalid absolute URI")
  | some u =>
    if u.scheme == "" || u.hasUser || strings.hasSuffix u.host ":" then
      throw (invalidOAuthClient "invalid absolute URI")
    if u.port != "" then
      match strconv.atoi u.port with
      | none => throw (invalidOAuthClient "invalid URI port")
      | some port =>
        if port < 1 || port > 65535 then throw (invalidOAuthClient "invalid URI port")
    return u

def oauthRedirect (parse : String → Option Url) (raw : String) : Except Err Url := do
  let u ← oauthURI parse raw
  if u.opaquePart != "" || u.host == "" || u.hostname == "" || strings.hasSuffix u.host ":" then
    throw (invalidOAuthClient "redirect must be an HTTPS or literal-loopback HTTP URI")
  if u.scheme == "https" then
    return u
  if u.scheme == "http" && (u.hostname == "127.0.0.1" || u.hostname == "::1") then
    return u
  throw (invalidOAuthClient "redirect must be an HTTPS or literal-loopback HTTP URI")

def validOAuthScope (scope : String) : Bool :=
  scope != "" && strings.len scope ≤ maxOAuthScopeBytes &&
    scope.toList.all fun r => 0x21 ≤ r.toNat && r.toNat ≤ 0x7e && r != '"' && r != '\\'

def validOAuthClientName (name : String) : Bool :=
  strings.trimSpace name != "" && strings.len name ≤ maxOAuthClientNameBytes &&
    !strings.containsFunc name (fun r => unicode.isControl r || unicode.isFormat r)

def normalizeProductSlug (raw : String) : String := strings.trimSpace (strings.toLower raw)

def validOAuthClientID (id : String) : Bool :=
  id != "" && strings.len id ≤ 128 && !strings.containsFunc id fun r =>
    (r < 'a' || r > 'z') && (r < 'A' || r > 'Z') && (r < '0' || r > '9') && r != '-' && r != '_'

/-- The loop of `Validate` over the registered resources, with the names seen so far. -/
def OAuthClientRegistration.validateResources (parse : String → Option Url) (seen : List String) :
    List OAuthResourceBounds → Except Err Unit
  | [] => .ok ()
  | bound :: rest => do
    let invalid := invalidOAuthClient "resource must be an absolute HTTPS URI or URN without a fragment"
    match oauthURI parse bound.resource with
    | .error _ => throw invalid
    | .ok u =>
      if (u.scheme != "https" && u.scheme != "urn") ||
          (u.scheme == "https" && (u.hostname == "" || u.opaquePart != "")) ||
          (u.scheme == "urn" && u.opaquePart == "") then
        throw invalid
    if seen.contains bound.resource then
      throw (invalidOAuthClient "resource registrations must be distinct")
    if bound.product != "" && (bound.product != normalizeProductSlug bound.product ||
        strings.len bound.product > maxOAuthProductBytes || strings.containsAny bound.product " /?#\\" ||
        strings.containsFunc bound.product unicode.isControl) then
      throw (invalidOAuthClient "invalid resource product")
    if !boundedOAuthStrings bound.scopes maxOAuthScopes then
      throw (invalidOAuthClient "register 1 to 64 distinct scopes per resource")
    if !bound.scopes.all validOAuthScope then
      throw (invalidOAuthClient "invalid OAuth scope token")
    validateResources parse (bound.resource :: seen) rest

def OAuthClientRegistration.validate (parse : String → Option Url) (r : OAuthClientRegistration) :
    Except Err Unit := do
  if !validOAuthClientName r.name then
    throw (invalidOAuthClient
      "client name is required and must be at most 200 bytes without control or format characters")
  if !boundedOAuthStrings r.redirectURIs maxOAuthRedirects then
    throw (invalidOAuthClient "register 1 to 16 distinct redirects")
  r.redirectURIs.forM fun redirect => discard (oauthRedirect parse redirect)
  if r.resources.length == 0 || r.resources.length > maxOAuthResources then
    throw (invalidOAuthClient "register 1 to 16 resources")
  validateResources parse [] r.resources
  if !boundedOAuthStrings r.grantTypes 3 || !r.grantTypes.contains oauthGrantAuthorizationCode then
    throw (invalidOAuthClient "authorization_code is required; refresh_token and agent_machine are optional")
  if !r.grantTypes.all (fun grant => grant == oauthGrantAuthorizationCode ||
      grant == oauthGrantRefreshToken || grant == oauthGrantAgentMachine) then
    throw (invalidOAuthClient "unsupported grant type")

/-- A loopback redirect may differ from a registered one in its port only. The
    registered text parses, because the registration was validated first. -/
def redirectMatches (parse : String → Option Url) (redirect : String) (candidate : Url)
    (registered : String) : Bool :=
  redirect == registered ||
    (candidate.scheme == "http" &&
      match oauthRedirect parse registered with
      | .ok u => u.scheme == "http" && u.hostname == candidate.hostname && u.withHost candidate.host == redirect
      | .error _ => false)

/-- Registration bounds only; no consent and no credential is involved. -/
def OAuthClient.validateOAuthRequest (parse : String → Option Url) (c : OAuthClient)
    (redirect resource : String) (scopes : List String) (grant : String) : Except Err Unit := do
  if c.kind != oauthClientNativePublic || c.revision ≤ 0 || c.registration.disabled then
    throw (.sentinel .permissionDenied)
  c.registration.validate parse
  if !c.registration.grantTypes.contains grant then
    throw (.sentinel .permissionDenied)
  let candidate ← oauthRedirect parse redirect
  if !c.registration.redirectURIs.any (redirectMatches parse redirect candidate) ||
      !boundedOAuthStrings scopes maxOAuthScopes then
    throw (.sentinel .permissionDenied)
  match c.registration.resources.find? fun bound => bound.resource == resource with
  | none => throw (.sentinel .permissionDenied)
  | some bound =>
    if !scopes.all bound.scopes.contains then
      throw (.sentinel .permissionDenied)

/-- Durable access needs the client's own opt-in to the machine grant. -/
def OAuthClient.validateMachineRequest (parse : String → Option Url) (c : OAuthClient)
    (resource : String) (scopes : List String) : Except Err Unit := do
  if c.kind != oauthClientNativePublic || c.revision ≤ 0 || c.registration.disabled ||
      !(c.registration.validate parse).isOk ||
      !c.registration.grantTypes.contains oauthGrantAgentMachine ||
      !boundedOAuthStrings scopes maxOAuthScopes || scopes.contains "openid" then
    throw (.sentinel .permissionDenied)
  match c.registration.resources.find? fun bound => bound.resource == resource && bound.product != "" with
  | none => throw (.sentinel .permissionDenied)
  | some bound =>
    if !scopes.all bound.scopes.contains then
      throw (.sentinel .permissionDenied)

def validateNewOAuthClient (parse : String → Option Url) (client : OAuthClient) : Except Err Unit := do
  if !validOAuthClientID client.id || client.kind != oauthClientNativePublic || client.revision != 1 ||
      client.createdAt ≤ 0 || client.createdAt != client.updatedAt then
    throw (invalidOAuthClient "invalid initial client record")
  client.registration.validate parse

def validateOAuthClientUpdate (parse : String → Option Url) (id : String) (expected : Int)
    (registration : OAuthClientRegistration) (atMs : Int) : Except Err Unit := do
  if !validOAuthClientID id || expected ≤ 0 || expected == maxInt64 || atMs ≤ 0 then
    throw (invalidOAuthClient "invalid client update")
  registration.validate parse

end identity.service
