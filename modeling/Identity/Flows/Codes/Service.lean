import Identity.Flows.Basic

open identity.repository identity.memory
namespace identity.service

/-- The configuration of emailed and texted codes. -/
structure CodeConfig where
  passwordlessCodeTTLSeconds : Int
  passwordlessCodeMaxAttempts : Int
  phoneCodeTTLSeconds : Int
  phoneCodeMaxAttempts : Int
  smsEnabled : Bool

/-- The configuration, and what the send cooldowns, the minor-data rules and the SMS
    provider say to one call. -/
structure CodeService where
  cfg : CodeConfig
  emailThrottleAllows : String → Int → Bool
  phoneThrottleAllows : String → Int → Bool
  blocksChildFor : User → Bool
  smsSend : String → String → Except String Unit

def defaultEmailCodeTTLSeconds : Int := 300

def defaultPhoneCodeTTLSeconds : Int := 300

def defaultCodeMaxAttempts : Int := 5

/-- A configured value, or the default where none is configured. -/
def positiveOr (configured default : Int) : Int := if 0 < configured then configured else default

def formatExpiresIn (seconds : Int) : String :=
  if 3600 ≤ seconds then
    if seconds.tdiv 3600 = 1 then "1 hour" else toString (seconds.tdiv 3600) ++ " hours"
  else if seconds.tdiv 60 ≤ 1 then "1 minute"
  else toString (seconds.tdiv 60) ++ " minutes"

/-- The trimmed number, and whether it is a plus sign and digits. -/
def normalizePhone (raw : String) : String × Bool :=
  let phone := strings.trimSpace raw
  match phone.toList with
  | '+' :: digit :: rest => (phone, (digit :: rest).all fun r => '0' ≤ r && r ≤ '9')
  | _ => (phone, false)

def findCode (channel : CodeChannel) (holder : String) : ServiceCall (Option OneTimeCodeRecord) :=
  Routine.ask (Request.signIn (.findCode channel holder))

def upsertCode (channel : CodeChannel) (code : OneTimeCodeRecord) : ServiceCall String :=
  Routine.ask (Request.signIn (.upsertCode channel code))

def incrementCodeAttempts (channel : CodeChannel) (nodeID : String) : ServiceCall Unit :=
  attemptRequest (.signIn (.incrementCodeAttempts channel nodeID)) fun answer => answer

def consumeCode (channel : CodeChannel) (holder : String) (atMs : Int) : ServiceCall OneTimeCodeRecord :=
  attemptRequest (.signIn (.consumeCode channel holder atMs)) fun answer => answer

def setUserPhoneVerified (userID phoneNumber : String) (atMs : Int) : ServiceCall Unit :=
  attemptRequest (.user (.setUserPhoneVerified userID phoneNumber atMs)) fun answer => answer

/-- The drawn text stands for the six digits. -/
def generateEmailLoginCode : ServiceCall String := randText

/-- A wrong guess is counted, and the guess that reaches the cap burns the code. What
    the store answers is only logged. -/
def recordWrongGuess (channel : CodeChannel) (holder : String) (rec : OneTimeCodeRecord) : ServiceCall Unit := do
  let _ ← (incrementCodeAttempts channel rec.nodeID).attempt
  if 0 < rec.maxAttempts ∧ rec.maxAttempts ≤ rec.attemptCount + 1 then do
    let now ← nowMs
    let _ ← (consumeCode channel holder now).attempt
    return
  else return

/-- The guess against the code that was found. A right one consumes whatever code the
    holder has by then. -/
def judgeGuess (p : Platform) (channel : CodeChannel) (holder code : String) (rec : OneTimeCodeRecord) :
    ServiceCall Unit :=
  if rec.codeHash ≠ p.sha256Hex code then do
    recordWrongGuess channel holder rec
    throw (.sentinel channel.invalid)
  else do
    let now ← nowMs
    match ← (consumeCode channel holder now).attempt with
    | .error _ => throw (.sentinel channel.invalid)
    | .ok _ => return

/-- The part both channels share: `accepts` is what a channel checks besides the code's
    age and its attempts. -/
def verifyCode (p : Platform) (channel : CodeChannel) (accepts : OneTimeCodeRecord → Bool) (holder code : String) :
    ServiceCall Unit := do
  match ← findCode channel holder with
  | none => throw (.sentinel channel.invalid)
  | some rec =>
    refuseIf (rec.consumedAt ≠ 0) (.sentinel channel.invalid)
    let now ← nowMs
    refuseIf (rec.expiresAt ≤ now ∨ accepts rec = false) (.sentinel channel.invalid)
    refuseIf (0 < rec.maxAttempts ∧ rec.maxAttempts ≤ rec.attemptCount) (.sentinel channel.invalid)
    judgeGuess p channel holder code rec

namespace CodeService
variable (p : Platform) (s : CodeService)

def emailCodeTTL : Int := positiveOr s.cfg.passwordlessCodeTTLSeconds defaultEmailCodeTTLSeconds

def emailCodeMaxAttempts : Int := positiveOr s.cfg.passwordlessCodeMaxAttempts defaultCodeMaxAttempts

def phoneCodeTTL : Int := positiveOr s.cfg.phoneCodeTTLSeconds defaultPhoneCodeTTLSeconds

def phoneCodeMaxAttempts : Int := positiveOr s.cfg.phoneCodeMaxAttempts defaultCodeMaxAttempts

/-- Rendering and sending the mail come after the code is stored and change nothing. -/
def sendEmailLoginCodeNow (email : String) : ServiceCall Unit := do
  let asked ← nowMs
  if s.emailThrottleAllows email asked = false then return
  else do
    let code ← generateEmailLoginCode
    let now ← nowMs
    let _ ← upsertCode .email
      { holder := email
        codeHash := p.sha256Hex code
        expiresAt := now + s.emailCodeTTL * 1000
        createdAt := now
        maxAttempts := s.emailCodeMaxAttempts }
    return

def verifyAndConsumeEmailLoginCode (email code : String) : ServiceCall Unit :=
  verifyCode p .email (fun _ => true) email code

/-- An anonymous account gains credentials by upgrading, an agent never. -/
def refuseCredentialAttach (userID : String) : ServiceCall Unit := do
  match ← getUser userID with
  | none => return
  | some user =>
    refuseIf user.isAgent (.sentinel .agentCredential)
    refuseIf user.isAnonymous (.wrapped .anonymousMustUpgrade ("attaching one here would leave the account subject " ++
      "to the anonymous retention sweep despite holding a working credential"))

/-- Store a fresh code for the number and text it. -/
def textPhoneCode (userID phone : String) : ServiceCall Unit := do
  let code ← generateEmailLoginCode
  let now ← nowMs
  let _ ← upsertCode .phone
    { holder := userID
      phoneNumber := phone
      codeHash := p.sha256Hex code
      expiresAt := now + s.phoneCodeTTL * 1000
      createdAt := now
      maxAttempts := s.phoneCodeMaxAttempts }
  match s.smsSend phone
    ("Your verification code is " ++ code ++ ". It expires in " ++ formatExpiresIn s.phoneCodeTTL ++ ".") with
  | .error detail => throw (.wrapped .smsDisabled detail)
  | .ok _ => return

def requestPhoneVerification (userID phoneNumber : String) : ServiceCall Unit := do
  refuseIf (s.cfg.smsEnabled = false) (.sentinel .smsDisabled)
  refuseIf (userID = "") (.wrapped .unauthenticated "missing user id")
  refuseCredentialAttach userID
  refuseIf ((normalizePhone phoneNumber).2 = false)
    (.wrapped .invalidArgument "phone number must be E.164 (e.g. +14155550123)")
  match ← getUser userID with
  | none => throw (.wrapped .notFound "user not found")
  | some user =>
    refuseIf (s.blocksChildFor user) (.sentinel .minorDataMinimized)
    refuseIf (user.phoneVerified ∧ user.phoneNumber = (normalizePhone phoneNumber).1) (.sentinel .phoneAlreadyVerified)
    let asked ← nowMs
    if s.phoneThrottleAllows userID asked = false then return
    else s.textPhoneCode p userID (normalizePhone phoneNumber).1

def verifyPhoneCode (userID phoneNumber code : String) : ServiceCall User := do
  refuseIf (s.cfg.smsEnabled = false) (.sentinel .smsDisabled)
  refuseIf (userID = "") (.wrapped .unauthenticated "missing user id")
  refuseCredentialAttach userID
  refuseIf ((normalizePhone phoneNumber).2 = false ∨ strings.trimSpace code = "") (.sentinel .phoneCodeInvalid)
  verifyCode p .phone (fun rec => rec.phoneNumber == (normalizePhone phoneNumber).1) userID code
  let now ← nowMs
  setUserPhoneVerified userID (normalizePhone phoneNumber).1 now
  match ← getUser userID with
  | none => throw (.wrapped .notFound "user not found")
  | some user => return user

end CodeService

/-- The calls on the codes of addresses and of users. -/
inductive CodeCall where
  | sendEmail (email : String)
  | verifyEmail (email code : String)
  | sendPhone (userID phoneNumber : String)
  | verifyPhone (userID phoneNumber code : String)

inductive CodeResult where
  | sent (result : Except Err Unit)
  | verifiedEmail (result : Except Err Unit)
  | verifiedPhone (result : Except Err User)

structure CodeInvocation where
  settings : CodeService
  call : CodeCall

def CodeInvocation.program (p : Platform) (i : CodeInvocation) : Call Request.Response CodeResult :=
  match i.call with
  | .sendEmail email => do
    return .sent (← (i.settings.sendEmailLoginCodeNow p email).call)
  | .verifyEmail email code => do
    return .verifiedEmail (← (CodeService.verifyAndConsumeEmailLoginCode p email code).call)
  | .sendPhone userID phoneNumber => do
    return .sent (← (i.settings.requestPhoneVerification p userID phoneNumber).call)
  | .verifyPhone userID phoneNumber code => do
    return .verifiedPhone (← (i.settings.verifyPhoneCode p userID phoneNumber code).call)

/-- Calls in progress on the codes of one store. -/
abbrev CodePool := Pool Request.Response Repo CodeResult

end identity.service
