import Identity.Flows.SignIn.Issue

open identity.repository identity.memory
namespace identity.service

structure QrSessionInfo where
  status : String
  newDeviceInfo : String
  newDeviceIP : String
  expiresAt : Int

/-- The answer to a poll; tokens come with the status `approved` only. -/
structure PollQrResult where
  status : String
  user : Option User := none
  accessToken : String := ""
  refreshToken : String := ""
  expiresIn : Int := 0

def findQrLoginSession (sessionID : String) : ServiceCall (Option QrLoginSessionRecord) :=
  Routine.ask (Request.signIn (.findQrLoginSession sessionID))

def updateQrLoginSession (nodeID : String) (patch : Fields) : ServiceCall Unit :=
  attemptRequest (.signIn (.updateQrLoginSession nodeID patch)) fun answer => answer

def consumeQrLoginSession (nodeID : String) (atMs : Int) : ServiceCall Unit :=
  attemptRequest (.signIn (.consumeQrLoginSession nodeID atMs)) fun answer => answer

/-- How long past its window an approved hand-off can still be collected. -/
def qrApprovalCollectionGraceMs : Int := 30000

/-- An open session past the point a poll may collect it. -/
def qrCollectionClosed (session : QrLoginSessionRecord) (now : Int) : Bool :=
  if session.status = "pending" then session.expiresAt < now
  else if session.status = "approved" then session.expiresAt + qrApprovalCollectionGraceMs < now
  else false

namespace AuthService
variable (p : Platform) (s : AuthService)

/-- Best effort: the answer of the write is ignored. -/
def expireQrLogin (nodeID : String) (now : Int) : ServiceCall Unit := do
  let _ ← (updateQrLoginSession nodeID (fields [("status", .str "expired"), ("updated_at", .int now)])).attempt
  return

/-- The status to display; a pending session past its window is marked expired. -/
def shownQrStatus (session : QrLoginSessionRecord) (now : Int) : ServiceCall String :=
  if session.status = "pending" ∧ session.expiresAt < now then do
    expireQrLogin session.nodeID now
    return "expired"
  else pure session.status

def getQrLoginSession (sessionID : String) : ServiceCall QrSessionInfo := do
  refuseIf (sessionID = "") (.wrapped .invalidArgument "session_id is required")
  match ← findQrLoginSession sessionID with
  | none => throw (.wrapped .notFound "QR login session not found")
  | some session =>
    let now ← nowMs
    let status ← shownQrStatus session now
    return ⟨status, session.newDeviceInfo, session.newDeviceIP, session.expiresAt⟩

/-- The approver must itself be an account that could sign in. -/
def checkQrApprover (userID : String) : ServiceCall Unit := do
  let user ← getCurrentUser userID
  s.checkAccountStatus user

/-- The write of a decision. It does not look at the status the session has by now. -/
def decideQrLogin (session : QrLoginSessionRecord) (approve : Bool) (userID : String) (client : ClientInfo)
    (now : Int) : ServiceCall String :=
  if approve then do
    s.checkQrApprover userID
    updateQrLoginSession session.nodeID (fields [("status", .str "approved"), ("user_id", .str userID),
      ("approved_device_info", .str (s.truncate client.userAgent 512)), ("updated_at", .int now)])
    return "approved"
  else do
    updateQrLoginSession session.nodeID (fields [("status", .str "rejected"), ("updated_at", .int now)])
    return "rejected"

def expireIfPending (session : QrLoginSessionRecord) (now : Int) : ServiceCall Unit :=
  if session.status = "pending" then expireQrLogin session.nodeID now else pure ()

/-- A decision that comes too late. -/
def refuseExpiredQrLogin (session : QrLoginSessionRecord) (now : Int) : ServiceCall String := do
  expireIfPending session now
  throw (.sentinel .qrLoginExpired)

def approveQrLogin (sessionID : String) (approve : Bool) (userID : String) (client : ClientInfo) :
    ServiceCall String := do
  refuseIf (sessionID = "") (.wrapped .invalidArgument "session_id is required")
  match ← findQrLoginSession sessionID with
  | none => throw (.wrapped .notFound "QR login session not found")
  | some session =>
    let now ← nowMs
    if session.expiresAt < now then refuseExpiredQrLogin session now
    else do
      refuseIf (session.status ≠ "pending") (.wrapped .qrLoginNotPending ("status=" ++ session.status))
      s.decideQrLogin session approve userID client now

def checkQrAccess (user : User) : ServiceCall Unit :=
  if user.isAnonymous then pure () else s.enforceAccountAccessLogin user

/-- The gates on the account an approved session hands over to. -/
def checkQrCollector (user : User) : ServiceCall Unit := do
  s.checkAccountStatus user
  s.checkQrAccess user
  check (s.enforceVerifiedEmail user)

/-- The approved session is consumed before tokens are minted; a poll that loses the
    race answers `consumed`. -/
def collectQrLogin (session : QrLoginSessionRecord) (now : Int) (client : ClientInfo) :
    ServiceCall PollQrResult := do
  refuseIf (session.userID = "") (.text "approved session has no user")
  match ← getUser session.userID with
  | none => throw (.wrapped .notFound "user not found")
  | some user =>
    s.checkQrCollector user
    match ← (consumeQrLoginSession session.nodeID now).attempt with
    | .error err => if err.is .qrLoginNotPending then return { status := "consumed" } else throw err
    | .ok _ =>
      let issued ← s.issueSignInTokens p user client 0 0
      return ⟨"approved", some issued.user, issued.accessToken, issued.refreshToken, s.jwtExpirySeconds⟩

/-- What a poll with the right secret answers. -/
def answerQrPoll (session : QrLoginSessionRecord) (now : Int) (client : ClientInfo) : ServiceCall PollQrResult :=
  if qrCollectionClosed session now then do
    expireQrLogin session.nodeID now
    return { status := "expired" }
  else if ["pending", "rejected", "consumed", "expired"].contains session.status then
    pure { status := session.status }
  else s.collectQrLogin p session now client

def pollQrLogin (sessionID pollSecret : String) (client : ClientInfo) : ServiceCall PollQrResult := do
  refuseIf (sessionID = "") (.wrapped .invalidArgument "session_id is required")
  if pollSecret = "" then return { status := "expired" }
  else
    match ← findQrLoginSession sessionID with
    | none => return { status := "expired" }
    | some session =>
      if p.sha256Hex pollSecret ≠ session.pollSecretHash then return { status := "expired" }
      else
        let now ← nowMs
        s.answerQrPoll p session now client

end AuthService

/-- The calls on a QR session once it has been initiated. -/
inductive QrCall where
  | get (sessionID : String)
  | approve (sessionID : String) (approve : Bool) (userID : String) (client : ClientInfo)
  | poll (sessionID pollSecret : String) (client : ClientInfo)

inductive QrResult where
  | info (result : Except Err QrSessionInfo)
  | decision (result : Except Err String)
  | polled (result : Except Err PollQrResult)

structure QrInvocation where
  settings : AuthService
  call : QrCall

def QrInvocation.program (p : Platform) (i : QrInvocation) : Call Request.Response QrResult :=
  match i.call with
  | .get sessionID => do
    return .info (← (AuthService.getQrLoginSession sessionID).call)
  | .approve sessionID approve userID client => do
    return .decision (← (i.settings.approveQrLogin sessionID approve userID client).call)
  | .poll sessionID pollSecret client => do
    return .polled (← (i.settings.pollQrLogin p sessionID pollSecret client).call)

end identity.service
