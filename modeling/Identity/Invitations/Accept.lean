import Identity.Invitations.Create

/-! Accepting an invitation, with the calls that may come between. Each call of a store is one
step: its transaction run alone. -/

open identity.service identity.postgres ReadCommitted
namespace identity.invitations

inductive TenantStatus where
  | latent
  | claimed
  | suspended
deriving DecidableEq

/-- What an acceptance reads of the caller's account. -/
structure Account where
  email : String
  emailVerified : Bool
deriving DecidableEq

/-- What a step meets. -/
structure Moment where
  nowMs : Int
  admin : Except Err Unit := .ok ()
  tokenHash : String := "hash"
  user : Option Account := none
  tenantStatus : Option TenantStatus := some .claimed

/-- The invitations of a project and the memberships of its tenants. -/
structure Project where
  invites : InvitationDb
  members : String → TenantDb

inductive Request where
  | getInvitationByTokenHash (tokenHash : String)
  | setInvitationStatus (id : Nat) (status : InvitationStatus) (acceptedAtMs : Int)
  | getUserInProject (userID : String)
  | getTenantStatus (tenantID : String)
  | grantMembership (tenantID userID : String) (source : MembershipSource) (role : Role)
  | requireTenantAdmin (tenantID callerID : String)
  | removeMembership (tenantID userID : String)
  | now
  | randomToken
  | createInvitation (inv : TenantInvitation) (limits : InvitationLimits)
deriving DecidableEq

@[reducible] def Request.Response : Request → Type
  | getInvitationByTokenHash _ => Option (Nat × TenantInvitation)
  | setInvitationStatus _ _ _ => Unit
  | getUserInProject _ => Option Account
  | getTenantStatus _ => Option TenantStatus
  -- with whether the membership was written
  | grantMembership _ _ _ _ => Except Err (Option TenantMembership) × Bool
  | requireTenantAdmin _ _ => Except Err Unit
  | removeMembership _ _ => Except Err (Option TenantMembership)
  | now => Int
  | randomToken => String
  | createInvitation _ _ => Except Err Nat

/-- The steps of a run, the latest first. -/
abbrev CallTrace : Type := List (Event Request.Response)

namespace InvitationDb
variable (db : InvitationDb)

def getInvitationByTokenHash (tokenHash : String) : Option (Nat × TenantInvitation) :=
  if tokenHash = "" then none
  else
    (db.rows.committed.entries.find? fun entry => entry.2.tokenHash == tokenHash).map fun entry => (entry.1, entry.2)

/-- An unknown id is a no-op. -/
def setInvitationStatus (nowMs : Int) (id : Nat) (status : InvitationStatus) (acceptedAtMs : Int) : InvitationDb :=
  let acceptedAtMs := if status = .accepted ∧ acceptedAtMs = 0 then nowMs else acceptedAtMs
  match db.rows.committed.lookup id with
  | none => db
  | some inv => { db with rows := db.rows.put id { inv with status, acceptedAtMs } }

end InvitationDb

/-- A transaction on a tenant's memberships, run alone. -/
def atomically (moment : Moment) (call : MembershipCall) (db : TenantDb) :
    Except Err (Option TenantMembership) × TenantDb :=
  let ran := call.exec identity.postgres.handle (Stream'.const { time := moment.nowMs }) db
  (ran.1, ran.2.2)

def serve : Handler Request.Response Moment Project
  | .getInvitationByTokenHash tokenHash, _, p => (p.invites.getInvitationByTokenHash tokenHash, p)
  | .setInvitationStatus id status acceptedAtMs, moment, p =>
    ((), { p with invites := p.invites.setInvitationStatus moment.nowMs id status acceptedAtMs })
  | .getUserInProject _, moment, p => (moment.user, p)
  | .getTenantStatus _, moment, p => (moment.tenantStatus, p)
  | .grantMembership tenantID userID source role, moment, p =>
    let (result, db) := atomically moment (grantMembership 0 userID source role) (p.members tenantID)
    ((result, decide (db.members.committed.lookup userID ≠ (p.members tenantID).members.committed.lookup userID)),
      { p with members := Function.update p.members tenantID db })
  | .requireTenantAdmin _ _, moment, p => (moment.admin, p)
  | .removeMembership tenantID userID, moment, p =>
    let (result, db) := atomically moment (removeMembership 0 userID) (p.members tenantID)
    (result, { p with members := Function.update p.members tenantID db })
  | .now, moment, p => (moment.nowMs, p)
  | .randomToken, moment, p => (moment.tokenHash, p)
  | .createInvitation inv limits, moment, p =>
    let ran := (createInvitation 0 inv limits).exec handle (Stream'.const { nowMs := moment.nowMs }) p.invites
    (ran.1, { p with invites := ran.2.2 })

abbrev ServiceCall (α : Type) := Call Request.Response α

abbrev ask (r : Request) : ServiceCall (Request.Response r) := Call.ask r

/-- The stores, call by call. -/
def servicePort : InvitationPort Request.Response where
  requireTenantAdmin tenantID callerID := ask (.requireTenantAdmin tenantID callerID)
  randomToken := ask .randomToken
  now := ask .now
  createInvitation inv limits := ask (.createInvitation inv limits)

/-- The clock is read only for an invitation that expires. -/
def invitationExpired (inv : TenantInvitation) : ServiceCall Bool := do
  if inv.expiresAtMs > 0 then
    let now ← ask .now
    return decide (inv.expiresAtMs < now)
  else return false

def requireGovernableTenant (tenantID : String) : ServiceCall (Except Err Unit) := do
  match ← ask (.getTenantStatus tenantID) with
  | some .claimed => return .ok ()
  | some .latent => return .ok ()
  | some .suspended => return .error (.wrapped .permissionDenied "the tenant is suspended")
  | none => return .error (.sentinel .permissionDenied)

/-- Whether the caller's account is the invited one. -/
def checkInvited (toASCII : emailaddr.ToASCII) (callerID : String) (inv : TenantInvitation) :
    ServiceCall (Except Err Unit) := do
  match ← ask (.getUserInProject callerID) with
  | none => return .error (.wrapped .notFound "caller")
  | some caller =>
    if emailaddr.sameMailbox toASCII caller.email inv.email = false then
      return .error (.wrapped .permissionDenied "invitation was issued to a different email")
    else if caller.emailVerified = false then
      return .error (.wrapped .emailVerificationRequired "verify your email before accepting an invitation")
    else requireGovernableTenant inv.tenantID

/-- Grant the membership and mark the invitation accepted. -/
def redeem (callerID : String) (id : Nat) (inv : TenantInvitation) : ServiceCall (Except Err Unit) := do
  match ← ask (.grantMembership inv.tenantID callerID .invited inv.role) with
  | (.error err, _) => return .error err
  | (.ok _, _) =>
    let now ← ask .now
    ask (.setInvitationStatus id .accepted now)
    return .ok ()

def acceptPending (toASCII : emailaddr.ToASCII) (callerID : String) (id : Nat) (inv : TenantInvitation) :
    ServiceCall (Except Err Unit) := do
  if ← invitationExpired inv then
    ask (.setInvitationStatus id .expired 0)
    return .error (.wrapped .permissionDenied "invitation expired")
  else
    match ← checkInvited toASCII callerID inv with
    | .error err => return .error err
    | .ok () => redeem callerID id inv

def acceptTenantInvitation (toASCII : emailaddr.ToASCII) (sha256Hex : String → String) (callerID rawToken : String) :
    ServiceCall (Except Err Unit) := do
  if callerID = "" then return .error (.sentinel .unauthenticated)
  else if strings.trimSpace rawToken = "" then return .error (.wrapped .invalidArgument "missing token")
  else
    match ← ask (.getInvitationByTokenHash (sha256Hex (strings.trimSpace rawToken))) with
    | none => return .error (.wrapped .notFound "invitation")
    | some (id, inv) =>
      if inv.status ≠ .pending then return .error (.wrapped .permissionDenied "invitation is not pending")
      else acceptPending toASCII callerID id inv

/-- The audit record of a removal is left out. -/
def removeTenantMember (callerID tenantID targetUserID : String) : ServiceCall (Except Err Unit) := do
  if callerID = "" then return .error (.sentinel .unauthenticated)
  else if strings.trimSpace tenantID = "" then return .error (.wrapped .invalidArgument "missing tenant_id")
  else if strings.trimSpace targetUserID = "" then return .error (.wrapped .invalidArgument "missing user_id")
  else
    match ← ask (.requireTenantAdmin (strings.trimSpace tenantID) callerID) with
    | .error err => return .error err
    | .ok () =>
      match ← ask (.removeMembership (strings.trimSpace tenantID) (strings.trimSpace targetUserID)) with
      | .error err => return .error err
      | .ok _ => return .ok ()

/-- The calls on the invitations of a project. -/
inductive InvitationTask where
  | accept (callerID rawToken : String)
  | create (task : CreateTask)
  | remove (callerID tenantID targetUserID : String)

section Settings
variable (cfg : InvitationConfig) (toASCII : emailaddr.ToASCII) (sha256Hex : String → String)

def InvitationTask.program : InvitationTask → ServiceCall (Except Err Unit)
  | accept callerID rawToken => acceptTenantInvitation toASCII sha256Hex callerID rawToken
  | create task => do
    let result ← createTenantInvitation servicePort cfg toASCII task
    return result.map fun _ => ()
  | remove callerID tenantID targetUserID => removeTenantMember callerID tenantID targetUserID

abbrev ProjectPool := Pool Request.Response Project (Except Err Unit)

/-- The calls of a run, over the invitations of a project and the memberships of its tenants. -/
def projectPool (table : InvitationRows) (members : String → GoMap String TenantMembership) (tasks :
    List InvitationTask) :
    ProjectPool :=
  Pool.start
    ⟨⟨.idle table.rows, (∅ : GoMap CreateLock Nat), table.nextID⟩,
      fun tenantID => ⟨.idle (members tenantID), .idle ∅, (∅ : GoMap String Nat), 0⟩⟩
    (tasks.map fun task => task.program cfg toASCII sha256Hex)

end Settings
end identity.invitations
