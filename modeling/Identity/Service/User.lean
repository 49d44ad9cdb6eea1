import Mathlib.Algebra.Order.Ring.Int
import Identity.GoMap.Basic
import Identity.GoStrings.Basic
import Identity.Service.Errors

namespace identity.service

/-- The kind of an account. `unset` is the empty string, which `CreateUser`
    replaces by `person`; a store accepts any other text it is given. -/
inductive UserKind where
  | unset
  | person
  | agent
  | other (text : String)
deriving DecidableEq, Repr

def statusActive : String := "active"
def statusPendingParentalConsent : String := "pending_parental_consent"
def statusPendingDeletion : String := "pending_deletion"
def statusDeactivated : String := "deactivated"
def statusInvited : String := "invited"
def roleAdmin : String := "admin"

/-- A user row. Times are epoch milliseconds. The age band and the minor flag,
    which the service derives and never stores, are left out. -/
structure User where
  id : String := ""
  email : String := ""
  name : String := ""
  avatarURL : String := ""
  role : String := ""
  createdAt : Int := 0
  updatedAt : Int := 0
  totpRequired : Bool := false
  status : String := ""
  recoveryEmail : String := ""
  quotaBytes : Int := 0
  lastLoginAtMs : Int := 0
  passwordHash : String := ""
  failedLoginCount : Int := 0
  lockedUntil : Int := 0
  emailVerified : Bool := false
  emailVerifiedAt : Int := 0
  idvVerified : Bool := false
  idvVerifiedAt : Int := 0
  phoneNumber : String := ""
  phoneVerified : Bool := false
  phoneVerifiedAt : Int := 0
  dateOfBirthMs : Int := 0
  market : String := ""
  username : String := ""
  accountAddress : String := ""
  mergedIntoUserID : String := ""
  passwordChangeRequired : Bool := false
  kind : UserKind := .unset
  ownerUserID : String := ""
  pendingOwnerUserID : String := ""
  deletionScheduledAtMs : Int := 0
  externalID : String := ""
  isAnonymous : Bool := false
  anonymousLastSeenMs : Int := 0

/-- A blank status is a legacy row and counts as active; the status is not trimmed. -/
def isActiveStatus (status : String) : Bool :=
  strings.toLower status == "" || strings.toLower status == statusActive

/-- An active account may sign in, and so may one pending deletion. -/
def statusCanSignIn (status : String) : Bool :=
  isActiveStatus status || strings.equalFold status statusPendingDeletion

def User.isAgent (u : User) : Bool := u.kind == .agent

/-- A person's account that was neither merged away nor made anonymously. -/
def isPermanentPerson (u : User) : Bool :=
  !u.isAgent && !u.isAnonymous && u.mergedIntoUserID == ""

def isActivePerson (u : User) : Bool := isPermanentPerson u && isActiveStatus u.status

def isEligibleAgentOwner (u : User) : Bool := isActivePerson u

/-- The ASCII fold under which the stores compare addresses. -/
def foldEmail (email : String) : String := String.ofList (email.toList.map unicode.asciiLower)

/-- One merge: which account survives, which is retired, and what moves. -/
structure AccountMerge where
  survivorID : String
  otherID : String
  moveUsername : Bool := false
  movePassword : Bool := false
  moveEmail : Bool := false
  swapAddress : Bool := false
  atMs : Int

def AccountMerge.mergeable (u : User) : Bool :=
  u.status == statusActive && u.mergedIntoUserID == "" && !u.isAgent

/-- What moves from the retired account to the survivor. -/
def AccountMerge.moves (m : AccountMerge) (survivor other : User) : User × User :=
  let (survivor, other) :=
    if m.moveUsername then
      ({ survivor with username := other.username }, { other with username := "" })
    else (survivor, other)
  let survivor := if m.movePassword then { survivor with passwordHash := other.passwordHash } else survivor
  let (survivor, other) :=
    if m.moveEmail then
      ({ survivor with
          email := other.email
          emailVerified := other.emailVerified
          emailVerifiedAt := other.emailVerifiedAt },
        { other with email := "", emailVerified := false, emailVerifiedAt := 0 })
    else (survivor, other)
  if m.swapAddress then
    ({ survivor with accountAddress := other.accountAddress },
      { other with accountAddress := survivor.accountAddress })
  else (survivor, other)

/-- The merge's change to the two account rows, or nothing at all. -/
def AccountMerge.applyToUsers (m : AccountMerge) (survivor other : Option User) :
    Except Err (User × User) :=
  match survivor, other with
  | some survivor, some other =>
    if m.otherID == m.survivorID || !mergeable other || !mergeable survivor then
      .error (.sentinel .mergeConflict)
    else if (m.moveUsername && survivor.username != "") || (m.movePassword && survivor.passwordHash != "") ||
        (m.moveEmail && survivor.email != "") then
      .error (.sentinel .mergeConflict)
    else
      let moved := m.moves survivor other
      .ok ({ moved.1 with updatedAt := m.atMs },
        { moved.2 with
          status := statusDeactivated
          mergedIntoUserID := m.survivorID
          updatedAt := m.atMs })
  | _, _ => .error (.sentinel .mergeConflict)

/-- Agents of the retired account, and transfers waiting on either account, go to
    the survivor. -/
def AccountMerge.applyToAgent (m : AccountMerge) (u : User) : User :=
  let u := if u.ownerUserID == m.otherID then { u with ownerUserID := m.survivorID } else u
  if u.pendingOwnerUserID == m.otherID || u.pendingOwnerUserID == m.survivorID then
    { u with pendingOwnerUserID := if u.ownerUserID == m.survivorID then "" else m.survivorID }
  else u

/-- An already-normalised request to create an agent. -/
structure AgentCreation where
  callerID : String
  requestID : String
  fingerprint : String
  agent : User
  ownerLimit : Int

/-- Survives the agent it names, so that a retry cannot recreate it. -/
structure AgentCreationReceipt where
  callerID : String
  requestID : String
  fingerprint : String
  agentID : String
  ownerID : String
  invalidated : Bool := false
deriving DecidableEq

def agentCreationKeyMaxBytes : Nat := 128
def agentRefusalNotAllowed : String := "caller may not manage this agent"

def validateAgentCreationKey (key : String) : Except Err Unit :=
  if strings.len key > agentCreationKeyMaxBytes || strings.containsFunc key unicode.isControl then
    .error (.wrapped .invalidArgument "client_request_id must be at most 128 UTF-8 bytes without controls")
  else .ok ()

def checkAgentCreationAuthority (caller owner : Option User) : Except Err Unit :=
  match caller, owner with
  | some caller, some owner =>
    if !isEligibleAgentOwner caller || !isEligibleAgentOwner owner ||
        (caller.id != owner.id && !strings.equalFold caller.role roleAdmin) then
      .error (.wrapped .permissionDenied agentRefusalNotAllowed)
    else .ok ()
  | _, _ => .error (.wrapped .permissionDenied agentRefusalNotAllowed)

def checkAgentCreationReplay (receipt : AgentCreationReceipt) (request : AgentCreation)
    (agent : Option User) : Except Err User :=
  match agent with
  | none => .error (.wrapped .permissionDenied agentRefusalNotAllowed)
  | some agent =>
    if receipt.invalidated || !agent.isAgent || !isActiveStatus agent.status ||
        agent.ownerUserID != receipt.ownerID then
      .error (.wrapped .permissionDenied agentRefusalNotAllowed)
    else if receipt.fingerprint != request.fingerprint then
      .error (.wrapped .alreadyExists "client_request_id already used for another request")
    else .ok agent

/-- Whether a change of a user row fences the creation receipts that name it. -/
def agentCreationAuthorityLost (before after : User) : Bool :=
  before.ownerUserID != after.ownerUserID || before.kind != after.kind ||
    (!isActiveStatus after.status && before.status != after.status) ||
    (!before.isAnonymous && after.isAnonymous) ||
    (before.mergedIntoUserID != after.mergedIntoUserID && after.mergedIntoUserID != "") ||
    (strings.equalFold before.role roleAdmin && !strings.equalFold after.role roleAdmin)

lemma creation_kept_self (u : User) : agentCreationAuthorityLost u u = false := by
  cases hactive : isActiveStatus u.status <;> simp [agentCreationAuthorityLost]

def validateAgentCreation (request : AgentCreation) : Except Err Unit :=
  if request.agent.id != "" || !request.agent.isAgent || request.agent.ownerUserID == "" ||
      request.callerID == "" || strings.len request.fingerprint != 64 || request.ownerLimit ≤ 0 then
    .error (.wrapped .invalidArgument "invalid agent creation receipt")
  else validateAgentCreationKey request.requestID

def invalidateAgentCreationReceipts (receipts : GoMap (String × String) AgentCreationReceipt)
    (userID : String) : GoMap (String × String) AgentCreationReceipt :=
  receipts.mapRows fun receipt =>
    if receipt.agentID == userID || receipt.ownerID == userID || receipt.callerID == userID then
      { receipt with invalidated := true }
    else receipt

end identity.service
