import Identity.Invitations.Accept

/-! `internal/repo/postgres`: the domains of a project's tenants, the tenants themselves and the
attempts that their domain calls make. Each call of a store is one step. -/

open identity.service identity.postgres identity.invitations
namespace identity.verification

inductive DomainStatus where
  | pending
  | verified
  | failed
deriving DecidableEq

inductive VerificationMethod where
  | dnsTXT
  | email
deriving DecidableEq

/-- A row of `domains`. -/
structure Domain where
  id : String := ""
  tenantID : String
  domain : String
  verificationMethod : VerificationMethod
  status : DomainStatus := .pending
  verifiedAtMs : Int := 0
  legacyTXTChallenge : Bool := false
deriving DecidableEq

/-- An attempt to be counted against the tenant's cap. -/
structure DomainAttempt where
  tenantID : String
  atMs : Int
  maxPerWindow : Int
  windowStartMs : Int
deriving DecidableEq

/-- A row of `domain_attempts`. -/
structure AttemptRow where
  tenantID : String
  attemptedAtMs : Int
deriving DecidableEq

/-- The tables of a project. `recorded` keeps every attempt that was ever recorded; no step
    reads it. -/
structure DomainDb where
  domains : GoMap String Domain
  tenants : GoMap String TenantStatus
  members : String → TenantDb
  attempts : List AttemptRow
  recorded : List AttemptRow

/-- What is committed in a project before the calls of a run. -/
structure ProjectRows where
  domains : GoMap String Domain
  tenants : GoMap String TenantStatus
  members : String → GoMap String TenantMembership
  removals : String → GoMap String Int
  nextID : String → Nat
  attempts : List AttemptRow
  named : tenants.lookup "" = none

def ProjectRows.db (rows : ProjectRows) : DomainDb where
  domains := rows.domains
  tenants := rows.tenants
  members tenantID :=
    ⟨.idle (rows.members tenantID), .idle (rows.removals tenantID), (∅ : GoMap String Nat), rows.nextID tenantID⟩
  attempts := rows.attempts
  recorded := rows.attempts

/-- What a step meets: the clock, a new id and the answer of the resolver, none when the lookup
    fails. -/
structure Instant where
  nowMs : Int
  newID : String := "id"
  records : Option (List String) := none

inductive Request where
  | getDomain (domainID : String)
  | getTenant (tenantID : String)
  | getTenantStatus (tenantID : String)
  | getMembership (tenantID userID : String)
  | listMembershipsForTenant (tenantID : String)
  | now
  | recordDomainAttempt (a : DomainAttempt)
  | lookupTXT (host : String)
  | setDomainStatus (domainID : String) (status : DomainStatus) (verifiedAtMs : Int)
  | setTenantStatus (tenantID : String) (from' to' : TenantStatus)
  | grantMembership (tenantID userID : String) (source : MembershipSource) (role : Role)
  | createDomain (d : Domain)
deriving DecidableEq

@[reducible] def Request.Response : Request → Type
  | getDomain _ => Option Domain
  | getTenant _ => Option TenantStatus
  | getTenantStatus _ => Option TenantStatus
  | getMembership _ _ => Option TenantMembership
  | listMembershipsForTenant _ => List TenantMembership
  | now => Int
  | recordDomainAttempt _ => Except Err Unit
  | lookupTXT _ => Option (List String)
  | setDomainStatus _ _ _ => Except Err Unit
  | setTenantStatus _ _ _ => Except Err Bool
  | grantMembership _ _ _ _ => Except Err (Option TenantMembership)
  | createDomain _ => Except Err String

/-- The steps of a run, the latest first. -/
abbrev CallTrace : Type := List (Event Request.Response)

/-- The name that a status has in a message. -/
def statusName : TenantStatus → String
  | .latent => "latent"
  | .claimed => "claimed"
  | .suspended => "suspended"

namespace DomainDb
variable (db : DomainDb)

/-- The transaction holds the tenant's lock from before it counts until it has committed, so
    it is one step. -/
def recordDomainAttempt (nowMs : Int) (a : DomainAttempt) : Except Err Unit × DomainDb :=
  if a.tenantID = "" then (.error (.wrapped .invalidArgument "project_id and tenant_id are required"), db)
  else if a.maxPerWindow ≤ 0 then (.error (.wrapped .invalidArgument "max_per_window must be positive"), db)
  else
    let made := db.attempts.countP fun row => row.tenantID == a.tenantID &&
      decide (a.windowStartMs ≤ row.attemptedAtMs)
    if a.maxPerWindow ≤ made then (.error (.sentinel .domainAttemptsLimited), db)
    else
      let row : AttemptRow := ⟨a.tenantID, if a.atMs = 0 then nowMs else a.atMs⟩
      let pruned := (row :: db.attempts).filter fun row =>
        !(row.tenantID == a.tenantID && decide (row.attemptedAtMs < a.windowStartMs))
      (.ok (), { db with attempts := pruned, recorded := row :: db.recorded })

/-- A verified domain is moved to no other status, and at most one row of a name is verified. -/
def setDomainStatus (nowMs : Int) (domainID : String) (status : DomainStatus) (verifiedAtMs : Int) :
    Except Err Unit × DomainDb :=
  if domainID = "" then (.error (.wrapped .invalidArgument "project_id and domain_id are required"), db)
  else
    match db.domains.lookup domainID with
    | none => (.ok (), db)
    | some d =>
      let verifiedAtMs := if status = .verified ∧ verifiedAtMs = 0 then nowMs else verifiedAtMs
      let written := { db with domains := db.domains.insert domainID { d with status, verifiedAtMs } }
      if d.status = status then (.ok (), db)
      else if status ≠ .verified then
        if d.status = .verified then (.ok (), db) else (.ok (), written)
      else if db.domains.entries.any fun entry =>
          entry.1 != domainID && entry.2.status == .verified && strings.toLower entry.2.domain ==
            strings.toLower d.domain then
        (.error (.prefixed "postgres: SetDomainStatus" .alreadyExists), db)
      else (.ok (), written)

def setTenantStatus (tenantID : String) (from' to' : TenantStatus) : Except Err Bool × DomainDb :=
  if tenantID = "" then (.error (.wrapped .invalidArgument "project_id and tenant_id are required"), db)
  else if from' = to' then
    (.error (.wrapped .invalidArgument ("a move between two different tenant statuses, not \"" ++ statusName from' ++
      "\" to \"" ++ statusName to' ++ "\"")), db)
  else if db.tenants.lookup tenantID = some from' then
    (.ok true, { db with tenants := db.tenants.insert tenantID to' })
  else (.ok false, db)

/-- Refused when another tenant has verified the name or the tenant already holds it. -/
def createDomain (newID : String) (d : Domain) : Except Err String × DomainDb :=
  if d.tenantID = "" then (.error (.wrapped .invalidArgument "missing tenant_id"), db)
  else if d.domain = "" then (.error (.wrapped .invalidArgument "missing domain"), db)
  else
    let id := if d.id = "" then newID else d.id
    let sameName := fun (other : Domain) => strings.toLower other.domain == strings.toLower d.domain
    if db.domains.rows.any fun other => sameName other && other.status == .verified &&
      other.tenantID != d.tenantID then
      (.error (.prefixed "postgres: CreateDomain: verified by another tenant" .alreadyExists), db)
    else if (db.domains.lookup id).isSome || db.domains.rows.any fun other => sameName other &&
      other.tenantID == d.tenantID then
      (.error (.prefixed "postgres: CreateDomain" .alreadyExists), db)
    else (.ok id, { db with domains := db.domains.insert id { d with id, legacyTXTChallenge := false } })

/-- The memberships and the attempts are as they were. -/
def Alike (db' : DomainDb) : Prop := db'.members = db.members ∧ db'.attempts = db.attempts ∧ db'.recorded = db.recorded

lemma alike_setDomainStatus (nowMs : Int) (domainID : String) (status : DomainStatus) (verifiedAtMs : Int) :
    db.Alike (db.setDomainStatus nowMs domainID status verifiedAtMs).2 := by
  unfold setDomainStatus
  split
  · exact ⟨rfl, rfl, rfl⟩
  cases db.domains.lookup domainID with
  | none => exact ⟨rfl, rfl, rfl⟩
  | some d =>
    dsimp only
    split_ifs
    all_goals exact ⟨rfl, rfl, rfl⟩

lemma alike_setTenantStatus (tenantID : String) (from' to' : TenantStatus) :
    db.Alike (db.setTenantStatus tenantID from' to').2 := by
  unfold setTenantStatus
  split_ifs
  all_goals exact ⟨rfl, rfl, rfl⟩

lemma alike_createDomain (newID : String) (d : Domain) : db.Alike (db.createDomain newID d).2 := by
  unfold createDomain
  dsimp only
  generalize (if d.id = "" then newID else d.id) = id
  split_ifs
  all_goals exact ⟨rfl, rfl, rfl⟩

end DomainDb

def serve : Handler Request.Response Instant DomainDb
  | .getDomain domainID, _, db => (if domainID = "" then none else db.domains.lookup domainID, db)
  | .getTenant tenantID, _, db => (if tenantID = "" then none else db.tenants.lookup tenantID, db)
  | .getTenantStatus tenantID, _, db => (if tenantID = "" then none else db.tenants.lookup tenantID, db)
  | .getMembership tenantID userID, _, db =>
    (if tenantID = "" ∨ userID = "" then none else (db.members tenantID).members.committed.lookup userID, db)
  | .listMembershipsForTenant tenantID, _, db =>
    (if tenantID = "" then [] else (db.members tenantID).members.committed.rows, db)
  | .now, instant, db => (instant.nowMs, db)
  | .recordDomainAttempt a, instant, db => db.recordDomainAttempt instant.nowMs a
  | .lookupTXT _, instant, db => (instant.records, db)
  | .setDomainStatus domainID status verifiedAtMs, instant, db =>
    db.setDomainStatus instant.nowMs domainID status verifiedAtMs
  | .setTenantStatus tenantID from' to', _, db => db.setTenantStatus tenantID from' to'
  | .grantMembership tenantID userID source role, instant, db =>
    if tenantID = "" then (.error requiredIDs, db)
    else
      let (result, tenant) :=
        atomically { nowMs := instant.nowMs } (identity.postgres.grantMembership 0 userID source role)
          (db.members tenantID)
      (result, { db with members := Function.update db.members tenantID tenant })
  | .createDomain d, instant, db => db.createDomain instant.newID d

/-! `internal/service`: registering an email domain on a tenant and verifying it. -/

abbrev DomainCall (α : Type) := Call Request.Response α

abbrev ask (r : Request) : DomainCall (Request.Response r) := Call.ask r

/-- What the calls of a project read of its settings. The limit and the window are at least 1 as
    the getters of the configuration answer them. -/
structure DomainConfig where
  projectID : String
  sha256Hex : String → String
  tenantDomainAttemptsLimit : Int
  tenantDomainAttemptsWindowMs : Int
  limit_pos : 0 < tenantDomainAttemptsLimit
  window_pos : 0 < tenantDomainAttemptsWindowMs

def normalizeHostname (label host : String) : Except Err String :=
  let lowered := strings.toLower (strings.trimSpace host)
  let h := if strings.hasSuffix lowered "." then (lowered.dropEnd 1).toString else lowered
  if h = "" then .error (.wrapped .invalidArgument ("missing " ++ label))
  else if strings.containsAny h " \t/@:" || !strings.containsAny h "." then
    .error (.wrapped .invalidArgument ("invalid " ++ label ++ " \"" ++ host ++ "\""))
  else .ok h

def normalizeDomain (domain : String) : Except Err String := normalizeHostname "domain" domain

def normalizeVerificationMethod (method : String) : Except Err VerificationMethod :=
  match strings.trimSpace (strings.toLower method) with
  | "" => .ok .dnsTXT
  | "dns_txt" => .ok .dnsTXT
  | "email" => .ok .email
  | _ =>
    .error (.wrapped .invalidArgument ("verification_method \"" ++ method ++ "\" (want \"dns_txt\" or \"email\")"))

section Challenges
variable (cfg : DomainConfig)

def domainVerifyTXTPrefix : String := "identity-domain-verify="

/-- The value of the record; its name is the host. -/
def txtOwnershipChallenge (start scope host : String) : String :=
  start ++ cfg.sha256Hex (scope ++ ":" ++ strings.toLower host)

def dnsTXTChallenge (tenantID domain : String) : String :=
  txtOwnershipChallenge cfg domainVerifyTXTPrefix
    (toString (strings.len cfg.projectID) ++ ":" ++ cfg.projectID ++ ":" ++ toString (strings.len tenantID) ++
      ":" ++ tenantID)
    domain

def legacyDNSTXTChallenge (domain : String) : String :=
  txtOwnershipChallenge cfg domainVerifyTXTPrefix cfg.projectID domain

def checkDNSTXT (d : Domain) : DomainCall (Except Err Unit) := do
  match ← ask (.lookupTXT d.domain) with
  | none => return .error (.wrapped .permissionDenied ("DNS TXT challenge not found for " ++ d.domain))
  | some records =>
    if records.any fun rec => strings.trimSpace rec == dnsTXTChallenge cfg d.tenantID d.domain ||
        d.legacyTXTChallenge && strings.trimSpace rec == legacyDNSTXTChallenge cfg d.domain then return .ok ()
    else return .error (.wrapped .permissionDenied ("DNS TXT challenge not found for " ++ d.domain))

end Challenges

def requireGovernableTenant (tenantID : String) : DomainCall (Except Err Unit) := do
  match ← ask (.getTenantStatus tenantID) with
  | some .claimed => return .ok ()
  | some .latent => return .ok ()
  | some .suspended => return .error (.wrapped .permissionDenied "the tenant is suspended")
  | none => return .error (.sentinel .permissionDenied)

def authorizeTenantAdmin (tenantID callerID : String) : DomainCall (Except Err Unit) := do
  match ← ask (.getMembership tenantID callerID) with
  | none => return .error (.sentinel .permissionDenied)
  | some m =>
    if m.governs then requireGovernableTenant tenantID else return .error (.sentinel .permissionDenied)

section Calls
variable (cfg : DomainConfig)

def recordAttempt (tenantID : String) : DomainCall (Except Err Unit) := do
  let now ← ask .now
  ask (.recordDomainAttempt
    { tenantID, atMs := now, maxPerWindow := cfg.tenantDomainAttemptsLimit,
      windowStartMs := now - cfg.tenantDomainAttemptsWindowMs })

/-- The challenge of the new registration is computed from it. -/
def createDomain (callerID tenantID domain method : String) : DomainCall (Except Err Unit) := do
  if callerID = "" then return .error (.sentinel .unauthenticated)
  else if strings.trimSpace tenantID = "" then return .error (.wrapped .invalidArgument "missing tenant_id")
  else
    match normalizeDomain domain with
    | .error err => return .error err
    | .ok normDomain =>
      match normalizeVerificationMethod method with
      | .error err => return .error err
      | .ok verificationMethod =>
        match ← authorizeTenantAdmin (strings.trimSpace tenantID) callerID with
        | .error err => return .error err
        | .ok () =>
          match ← recordAttempt cfg (strings.trimSpace tenantID) with
          | .error err => return .error err
          | .ok () =>
            let created ← ask (.createDomain
              { tenantID := strings.trimSpace tenantID, domain := normDomain, verificationMethod })
            return created.map fun _ => ()

/-- An owner or admin, or anybody while the tenant is latent and has no member. `status` is the
    tenant's as it was read before. -/
def authorizeVerify (tenantID : String) (status : TenantStatus) (callerID : String) :
    DomainCall (Except Err Unit) := do
  match ← authorizeTenantAdmin tenantID callerID with
  | .ok () => return .ok ()
  | .error err =>
    if err.is .permissionDenied = false then return .error err
    else if status ≠ .latent then return .error err
    else
      let members ← ask (.listMembershipsForTenant tenantID)
      if members.length ≠ 0 then return .error (.sentinel .permissionDenied) else return .ok ()

/-- A failed check is recorded on a claim that was not verified. -/
def failVerification (d : Domain) (err : Err) : DomainCall (Except Err Unit) := do
  if d.status ≠ .verified then
    let _ ← ask (.setDomainStatus d.id .failed 0)
    return .error err
  else return .error err

/-- The caller becomes an owner; one who has been suspended meanwhile does not, and that is
    no failure. -/
def makeOwner (tenantID callerID domainID : String) : DomainCall (Except Err Unit) := do
  match ← ask (.grantMembership tenantID callerID .added .owner) with
  | .error err =>
    if err.is .memberSuspended = false then return .error err
    else
      let _ ← ask (.getDomain domainID)
      return .ok ()
  | .ok _ =>
    let _ ← ask (.getDomain domainID)
    return .ok ()

/-- Claim the tenant if it was latent; whether it moved is not looked at. -/
def claimTenant (d : Domain) (status : TenantStatus) (callerID : String) : DomainCall (Except Err Unit) := do
  if status = .latent then
    match ← ask (.setTenantStatus d.tenantID .latent .claimed) with
    | .error err => return .error err
    | .ok _ => makeOwner d.tenantID callerID d.id
  else makeOwner d.tenantID callerID d.id

def markVerified (d : Domain) (status : TenantStatus) (callerID : String) : DomainCall (Except Err Unit) := do
  match ← ask (.setDomainStatus d.id .verified 0) with
  | .error err =>
    if err.is .alreadyExists then
      return .error (.wrapped .alreadyExists (d.domain ++ " is verified by another tenant"))
    else return .error err
  | .ok () => claimTenant d status callerID

/-- What follows once the caller may verify. -/
def checkAndClaim (d : Domain) (status : TenantStatus) (callerID : String) : DomainCall (Except Err Unit) := do
  match d.verificationMethod with
  | .email => return .error (.wrapped .unimplemented "email domain verification")
  | .dnsTXT =>
    match ← recordAttempt cfg d.tenantID with
    | .error err => return .error err
    | .ok () =>
      match ← checkDNSTXT cfg d with
      | .error err => failVerification d err
      | .ok () => markVerified d status callerID

def verifyDomain (callerID domainID : String) : DomainCall (Except Err Unit) := do
  if callerID = "" then return .error (.sentinel .unauthenticated)
  else if strings.trimSpace domainID = "" then return .error (.wrapped .invalidArgument "missing domain_id")
  else
    match ← ask (.getDomain (strings.trimSpace domainID)) with
    | none => return .error (.wrapped .notFound "domain")
    | some d =>
      match ← ask (.getTenant d.tenantID) with
      | none => return .error (.wrapped .notFound "tenant")
      | some status =>
        match ← authorizeVerify d.tenantID status callerID with
        | .error err => return .error err
        | .ok () => checkAndClaim cfg d status callerID

/-- An operator suspends a claimed tenant; the operator's credential, the reason and the audit
    record are left out. -/
def adminSuspendTenant (tenantID : String) : DomainCall (Except Err Unit) := do
  match ← ask (.getTenant tenantID) with
  | none => return .error (.wrapped .notFound "tenant")
  | some .suspended => return .ok ()
  | some .latent => return .error (.wrapped .tenantStatusConflict "the tenant is latent")
  | some .claimed =>
    match ← ask (.setTenantStatus tenantID .claimed .suspended) with
    | .error err => return .error err
    | .ok moved =>
      match ← ask (.getTenant tenantID) with
      | none => return .error (.wrapped .notFound "tenant")
      | some status =>
        if moved = false ∧ status ≠ .suspended then
          return .error (.wrapped .tenantStatusChanged ("the tenant is now " ++ statusName status))
        else return .ok ()

/-- The calls on the domains of a project. -/
inductive DomainTask where
  | create (callerID tenantID domain method : String)
  | verify (callerID domainID : String)
  | suspendTenant (tenantID : String)

def DomainTask.program : DomainTask → DomainCall (Except Err Unit)
  | create callerID tenantID domain method => createDomain cfg callerID tenantID domain method
  | verify callerID domainID => verifyDomain cfg callerID domainID
  | suspendTenant tenantID => adminSuspendTenant tenantID

abbrev DomainPool := Pool Request.Response DomainDb (Except Err Unit)

/-- The calls of a run, over the tables of a project. -/
def domainPool (rows : ProjectRows) (tasks : List DomainTask) : DomainPool :=
  Pool.start rows.db (tasks.map (DomainTask.program cfg))

end Calls
end identity.verification
