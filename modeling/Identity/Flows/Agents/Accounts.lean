import Identity.Flows.Accounts.Merging

open identity.repository identity.memory
namespace identity.service
open Routine (keeps_pure)

def settleAgentTransfer (agentID pendingOwnerID : String) (accept : Bool) (atMs : Int) : ServiceCall Bool :=
  attemptRequest (.user (.settleAgentTransfer agentID pendingOwnerID accept atMs)) fun answer => answer

def setAgentOwnership (agentID expectedOwnerID ownerID pendingOwnerID : String) (atMs : Int) : ServiceCall Bool :=
  attemptRequest (.user (.setAgentOwnership agentID expectedOwnerID ownerID pendingOwnerID atMs)) fun answer => answer

/-- `CountUsers` under an owner filter, which selects what the owner's listing does. -/
def countUsers (ownerID : String) : ServiceCall Int := do
  let agents ← listOwnedAgents ownerID
  return agents.length

def defaultAgentsMaxPerOwner : Int := 25
def maxAgentsMaxPerOwner : Int := 500
def agentNameMaxRunes : Nat := 200
def agentAvatarURLMaxBytes : Nat := 2048

/-- The configuration of agent accounts, the URL parser, and the digest of a creation's
    length-prefixed values. -/
structure AgentRules where
  agentsEnabled : Bool
  agentsMaxPerOwner : Int
  parseURL : String → Option Url
  agentCreationFingerprint : List String → String

def errAgentRefused : Err := .wrapped .permissionDenied agentRefusalNotAllowed

def errAgentOwnerNotEligible : Err :=
  .wrapped .invalidArgument "the owner must be an active person account in this project"

namespace AgentRules
variable (s : AgentRules)

def agentsPerOwnerLimit : Int :=
  if s.agentsMaxPerOwner ≤ 0 then defaultAgentsMaxPerOwner
  else if s.agentsMaxPerOwner > maxAgentsMaxPerOwner then maxAgentsMaxPerOwner
  else s.agentsMaxPerOwner

/-- The caller of an agent operation, and whether they administer the project. -/
def agentCaller (callerID : String) : ServiceCall (User × Bool) := do
  refuseIf (!s.agentsEnabled) (.sentinel .agentsDisabled)
  refuseIf (callerID = "") (.sentinel .unauthenticated)
  match ← getUser callerID with
  | none => throw errAgentRefused
  | some caller =>
    refuseIf (!isPermanentPerson caller) errAgentRefused
    refuseIf (!isActiveStatus caller.status) (.sentinel .accountNotActive)
    return (caller, strings.equalFold caller.role roleAdmin)

/-- Admits the agent's owner and an administrator. -/
def authorizeAgentAction (callerID agentID : String) : ServiceCall User := do
  let agentID := strings.trimSpace agentID
  let (caller, isAdmin) ← s.agentCaller callerID
  refuseIf (agentID = "") (.wrapped .invalidArgument "agent_user_id is required")
  match ← getUser agentID with
  | none => throw errAgentRefused
  | some agent =>
    refuseIf (!agent.isAgent ∨ (agent.ownerUserID ≠ caller.id ∧ !isAdmin)) errAgentRefused
    return agent

/-- The trimmed name and avatar URL of an agent. -/
def normalizeAgentProfile (name avatarURL : String) : Except Err (String × String) :=
  let name := strings.trimSpace name
  let avatarURL := strings.trimSpace avatarURL
  if name = "" then .error (.wrapped .invalidArgument "name is required")
  else if name.length > agentNameMaxRunes then
    .error (.wrapped .invalidArgument "name is longer than 200 characters")
  else if avatarURL = "" then .ok (name, "")
  else if strings.len avatarURL > agentAvatarURLMaxBytes then
    .error (.wrapped .invalidArgument "avatar_url is longer than 2048 bytes")
  else
    match s.parseURL avatarURL with
    | some u =>
      if u.scheme ≠ "https" ∨ u.host = "" then
        .error (.wrapped .invalidArgument "avatar_url must be an absolute https URL")
      else .ok (name, avatarURL)
    | none => .error (.wrapped .invalidArgument "avatar_url must be an absolute https URL")

/-- The count and the write that follows are separate steps. -/
def checkAgentCapacity (ownerID : String) : ServiceCall Unit := do
  let n ← countUsers ownerID
  refuseIf (n ≥ s.agentsPerOwnerLimit) (.sentinel .agentLimitReached)

/-- The owner a creation names: the caller, or whom an administrator names. -/
def creationOwner (caller : User) (isAdmin : Bool) (ownerUserID : String) : ServiceCall User :=
  let id := strings.trimSpace ownerUserID
  if id ≠ "" ∧ id ≠ caller.id then do
    refuseIf (!isAdmin) errAgentRefused
    match ← getUser id with
    | none => throw errAgentOwnerNotEligible
    | some owner =>
      refuseIf (!isEligibleAgentOwner owner) errAgentOwnerNotEligible
      return owner
  else pure caller

/-- The row a creation asks for. -/
def newAgent (name avatarURL ownerID : String) (now : Int) : User where
  kind := .agent
  ownerUserID := ownerID
  name := name
  avatarURL := avatarURL
  role := "member"
  status := statusActive
  createdAt := now
  updatedAt := now

def agentCreation (caller owner : User) (name avatarURL clientRequestID : String) (now : Int) : AgentCreation where
  callerID := caller.id
  requestID := clientRequestID
  fingerprint := s.agentCreationFingerprint [name, avatarURL, owner.id]
  agent := newAgent name avatarURL owner.id now
  ownerLimit := s.agentsPerOwnerLimit

def createAgent (callerID name avatarURL ownerUserID clientRequestID : String) : ServiceCall User := do
  let (caller, isAdmin) ← s.agentCaller callerID
  let (name, avatarURL) ← check (s.normalizeAgentProfile name avatarURL)
  let owner ← creationOwner caller isAdmin ownerUserID
  check (validateAgentCreationKey clientRequestID)
  let now ← nowMs
  let (agent, _) ← attemptRequest
    (.user (.createAgent (s.agentCreation caller owner name avatarURL clientRequestID now))) fun answer => answer
  return agent

/-- The agent's owner is no longer there as a person. -/
def isOrphanAgent (agent : User) : ServiceCall Bool :=
  if agent.ownerUserID = "" then pure true
  else do
    let owner ← getUser agent.ownerUserID
    return !owner.any isPermanentPerson

/-- Write the owners while the agent still has the owner it was read with. -/
def writeOwnership (agent : User) (ownerID pendingOwnerID : String) (now : Int) : ServiceCall Unit := do
  let written ← setAgentOwnership agent.id agent.ownerUserID ownerID pendingOwnerID now
  refuseIf (!written) errAgentRefused

/-- Give an orphan to a new owner at once. -/
def reassignOrphanAgent (agent : User) (newOwnerID : String) : ServiceCall User := do
  s.checkAgentCapacity newOwnerID
  let now ← nowMs
  writeOwnership agent newOwnerID "" now
  revokeAllUserSessions agent.id now
  return { agent with ownerUserID := newOwnerID, pendingOwnerUserID := "", updatedAt := now }

/-- Offer an agent to another owner, who has to accept it; an orphan is handed over. -/
def transferAgent (callerID agentID newOwnerID : String) : ServiceCall User := do
  let agent ← s.authorizeAgentAction callerID agentID
  let newOwnerID := strings.trimSpace newOwnerID
  refuseIf (newOwnerID = "") (.wrapped .invalidArgument "new_owner_user_id is required")
  if newOwnerID = agent.ownerUserID then return agent
  else do
    match ← getUser newOwnerID with
    | none => throw errAgentOwnerNotEligible
    | some newOwner =>
      refuseIf (!isEligibleAgentOwner newOwner) errAgentOwnerNotEligible
      if ← isOrphanAgent agent then s.reassignOrphanAgent agent newOwner.id
      else do
        let now ← nowMs
        writeOwnership agent agent.ownerUserID newOwner.id now
        return { agent with pendingOwnerUserID := newOwner.id, updatedAt := now }

/-- The caller and an agent that is offered to them. -/
def pendingTransferTo (callerID agentID : String) : ServiceCall (User × User) := do
  let agentID := strings.trimSpace agentID
  let (caller, _) ← s.agentCaller callerID
  refuseIf (agentID = "") (.wrapped .invalidArgument "agent_user_id is required")
  match ← getUser agentID with
  | none => throw errAgentRefused
  | some agent =>
    refuseIf (!agent.isAgent ∨ agent.pendingOwnerUserID = "" ∨ agent.pendingOwnerUserID ≠ caller.id) errAgentRefused
    return (caller, agent)

/-- Answer the offer that was read, in one conditional write. -/
def answerTransfer (agent : User) (accept : Bool) (now : Int) : ServiceCall Unit := do
  let settled ← settleAgentTransfer agent.id agent.pendingOwnerUserID accept now
  refuseIf (!settled) errAgentRefused

def acceptAgentTransfer (callerID agentID : String) : ServiceCall User := do
  let (caller, agent) ← s.pendingTransferTo callerID agentID
  s.checkAgentCapacity caller.id
  let now ← nowMs
  answerTransfer agent true now
  revokeAllUserSessions agent.id now
  return { agent with ownerUserID := caller.id, pendingOwnerUserID := "", updatedAt := now }

def declineAgentTransfer (callerID agentID : String) : ServiceCall User := do
  let (_, agent) ← s.pendingTransferTo callerID agentID
  let now ← nowMs
  answerTransfer agent false now
  return { agent with pendingOwnerUserID := "", updatedAt := now }

def cancelAgentTransfer (callerID agentID : String) : ServiceCall User := do
  let agent ← s.authorizeAgentAction callerID agentID
  if agent.pendingOwnerUserID = "" then return agent
  else do
    let now ← nowMs
    answerTransfer agent false now
    return { agent with pendingOwnerUserID := "", updatedAt := now }

end AgentRules

/-- A call that may move an agent to another owner. -/
inductive TransferCall where
  | transfer (rules : AgentRules) (callerID agentID newOwnerID : String)
  | accept (rules : AgentRules) (callerID agentID : String)
  | decline (rules : AgentRules) (callerID agentID : String)
  | cancel (rules : AgentRules) (callerID agentID : String)
  | mergeUsers (actorID survivorID otherID : String) (takeAddress : Bool)
  | mergeOwnAccounts (auth : AuthService) (survivorID : String) (authTimeSec : Int)
      (otherIdentifier otherPassword : String) (takeAddress : Bool)

def TransferCall.flow : TransferCall → ServiceCall User
  | transfer rules callerID agentID newOwnerID => rules.transferAgent callerID agentID newOwnerID
  | accept rules callerID agentID => rules.acceptAgentTransfer callerID agentID
  | decline rules callerID agentID => rules.declineAgentTransfer callerID agentID
  | cancel rules callerID agentID => rules.cancelAgentTransfer callerID agentID
  | mergeUsers actorID survivorID otherID takeAddress => AdminService.mergeUsers actorID survivorID otherID takeAddress
  | mergeOwnAccounts auth survivorID authTimeSec otherIdentifier otherPassword takeAddress =>
    auth.mergeOwnAccounts survivorID authTimeSec otherIdentifier otherPassword takeAddress

/-- A row that keeps its name, its owner and the owner it waits for. -/
@[grind]
structure SameOwners (u u' : User) : Prop where
  id : u'.id = u.id
  owner : u'.ownerUserID = u.ownerUserID
  pending : u'.pendingOwnerUserID = u.pendingOwnerUserID

lemma SameOwners.refl (u : User) : SameOwners u u := ⟨rfl, rfl, rfl⟩

def ownedRead (caller : Nat) (ownerID : String) (agents : List User) : StoreEvent :=
  ⟨caller, .user (.listOwnedAgents ownerID), agents⟩

section Guard
variable (call : TransferCall) (caller : Nat) (own : Trace)

/-- The call has counted fewer agents than the owner may have. -/
@[grind =]
def Counted (rules : AgentRules) (ownerID : String) : Prop :=
  ∃ agents, ownedRead caller ownerID agents ∈ own ∧ (agents.length : Int) < rules.agentsPerOwnerLimit

/-- The call is its caller's acceptance of what is offered to them. -/
def Accepts (pendingOwnerID : String) : Prop :=
  ∃ rules callerID agentID actor, call = .accept rules callerID agentID ∧
    accountRead caller callerID (some actor) ∈ own ∧ actor.id = pendingOwnerID ∧
      Counted caller own rules pendingOwnerID

/-- The owner stays, and someone else is offered the agent. -/
def Offers (expectedOwnerID ownerID pendingOwnerID : String) : Prop :=
  ownerID = expectedOwnerID ∧ ∃ newOwnerID newOwner, newOwnerID ≠ expectedOwnerID ∧
    accountRead caller newOwnerID (some newOwner) ∈ own ∧ newOwner.id = pendingOwnerID

/-- The call hands over an agent it has found without an owner. -/
def Reassigns (expectedOwnerID ownerID pendingOwnerID : String) : Prop :=
  pendingOwnerID = "" ∧ ∃ rules callerID agentID newOwnerID actor newOwner,
    call = .transfer rules callerID agentID newOwnerID ∧ accountRead caller callerID (some actor) ∈ own ∧
    isPermanentPerson actor = true ∧
    (expectedOwnerID = actor.id ∨ strings.equalFold actor.role roleAdmin = true) ∧
    accountRead caller (strings.trimSpace newOwnerID) (some newOwner) ∈ own ∧ newOwner.id = ownerID ∧
    isEligibleAgentOwner newOwner = true ∧ Counted caller own rules ownerID ∧
    (expectedOwnerID = "" ∨ ∃ found, accountRead caller expectedOwnerID found ∈ own ∧
      found.any isPermanentPerson = false)

/-- The guard allows what a transfer asks: reads, the end of sessions, and the two writes to
    an agent under what the call has read. -/
@[grind]
structure AdmitsSteps (guard : Trace → Request → Prop) : Prop where
  plain : ∀ {own q}, q.isPlain = true → guard own q
  sessions : ∀ {own q}, q.leavesUsers = true → guard own q
  settle : ∀ {own agentID pendingOwnerID accept atMs}, clockRead caller atMs ∈ own →
    (accept = true → Accepts call caller own pendingOwnerID) →
    guard own (.user (.settleAgentTransfer agentID pendingOwnerID accept atMs))
  set : ∀ {own agentID expectedOwnerID ownerID pendingOwnerID atMs}, clockRead caller atMs ∈ own →
    (Offers caller own expectedOwnerID ownerID pendingOwnerID ∨
      Reassigns call caller own expectedOwnerID ownerID pendingOwnerID) →
    guard own (.user (.setAgentOwnership agentID expectedOwnerID ownerID pendingOwnerID atMs))

/-- What such a call may ask, given the steps it has taken. -/
def TransferGuard : Request → Prop
  | .user (.settleAgentTransfer _ pendingOwnerID accept atMs) =>
    clockRead caller atMs ∈ own ∧ (accept = true → Accepts call caller own pendingOwnerID)
  | .user (.setAgentOwnership _ expectedOwnerID ownerID pendingOwnerID atMs) =>
    clockRead caller atMs ∈ own ∧ (Offers caller own expectedOwnerID ownerID pendingOwnerID ∨
      Reassigns call caller own expectedOwnerID ownerID pendingOwnerID)
  | .user (.applyAccountMerge m) => clockRead caller m.atMs ∈ own
  | q => LeavesRows SameOwners q

end Guard

lemma transferGuard_of_passwordStep (hstep : PasswordStep q) : TransferGuard call caller own q := by
  have hleaves : LeavesRows SameOwners q := hstep.leavesRows fun u n m => ⟨rfl, rfl, rfl⟩
  unfold TransferGuard
  split
  iterate 3
    cases hstep with
    | read hread => cases hread
  exact hleaves

namespace AgentRules
variable (s : AgentRules) {guard : Trace → Request → Prop} (hadmits : AdmitsSteps call caller guard)
include hadmits

/-- The caller, read as an active person, with what their role says. -/
lemma agentCaller_keeps (callerID : String) : (s.agentCaller callerID).Yields caller guard
      (fun own' result => own <:+ own' ∧ accountRead caller callerID (some result.1) ∈ own' ∧
        isPermanentPerson result.1 = true ∧
        (result.2 = true → strings.equalFold result.1.role roleAdmin = true)) own := by
  refine .past fun _ => ?_
  refine .past fun _ => ?_
  refine .getUser (hadmits.plain rfl) fun found => ?_
  cases found with
  | none => trivial
  | some actor =>
    refine .past fun hperson => ?_
    refine .past fun _ => ?_
    exact keeps_pure.mpr ⟨List.suffix_cons _ _, .head _, by simpa using hperson, id⟩

/-- The agent, read after a caller who owns it or administers the project. -/
lemma authorizeAgentAction_keeps (callerID agentID : String) :
    (s.authorizeAgentAction callerID agentID).Yields caller guard
      (fun own' agent => own <:+ own' ∧ ∃ actor, accountRead caller callerID (some actor) ∈ own' ∧
        isPermanentPerson actor = true ∧
        (agent.ownerUserID = actor.id ∨ strings.equalFold actor.role roleAdmin = true)) own := by
  refine (s.agentCaller_keeps hadmits callerID).seq ?_
  rintro own1 ⟨actor, isAdmin⟩ ⟨hsuffix1, hactor, hperson, hadmin⟩
  refine .past fun _ => ?_
  refine .getUser (hadmits.plain rfl) fun found => ?_
  cases found with
  | none => trivial
  | some agent =>
    refine .past fun hallowed => ?_
    refine keeps_pure.mpr ⟨hsuffix1.later, actor, .tail _ hactor, hperson, ?_⟩
    grind

lemma revokeAllUserSessions_keeps (userID : String) (now : Int) :
    (revokeAllUserSessions userID now).Asks caller guard own := by
  refine .ask ?_ fun _ => Routine.keeps_ask.mpr ⟨?_, fun _ => trivial⟩
  · exact hadmits.sessions rfl
  · exact hadmits.sessions rfl

lemma checkAgentCapacity_keeps (ownerID : String) :
    (s.checkAgentCapacity ownerID).Yields caller guard
      (fun own' _ => own <:+ own' ∧ Counted caller own' s ownerID) own := by
  refine .bind (.ask (hadmits.plain rfl) fun agents => ?_)
  refine keeps_pure.mpr (keeps_refuseIf.mpr ⟨fun _ => trivial, fun hroom => ⟨List.suffix_cons _ _, agents, ?_, ?_⟩⟩)
  · exact .head _
  · exact lt_of_not_ge hroom

lemma writeOwnership_keeps (hclock : clockRead caller now ∈ own)
    (hwrite : Offers caller own agent.ownerUserID ownerID pendingOwnerID ∨
      Reassigns call caller own agent.ownerUserID ownerID pendingOwnerID) :
    (writeOwnership agent ownerID pendingOwnerID now).Asks caller guard own :=
  .attemptRequest (hadmits.set hclock hwrite) fun _ =>
    ⟨fun _ _ => keeps_refuseIf.mpr ⟨fun _ => trivial, fun _ => trivial⟩, fun _ _ => trivial⟩

/-- Whether the owner is gone, and where that was read. -/
lemma isOrphanAgent_keeps (agent : User) : (isOrphanAgent agent).Yields caller guard
      (fun own' orphan => own <:+ own' ∧ (orphan = true → agent.ownerUserID = "" ∨
        ∃ found, accountRead caller agent.ownerUserID found ∈ own' ∧ found.any isPermanentPerson = false)) own := by
  refine .ite (fun hempty => ?_) fun _ => ?_
  · exact keeps_pure.mpr ⟨List.suffix_refl _, fun _ => .inl hempty⟩
  refine .getUser (hadmits.plain rfl) fun found => ?_
  refine keeps_pure.mpr ⟨List.suffix_cons _ _, fun horphan => .inr ⟨found, .head _, ?_⟩⟩
  simpa using horphan

omit hadmits in
lemma transferAgent_keeps (hadmits : AdmitsSteps (.transfer s callerID agentID newOwnerID) caller guard) :
    (s.transferAgent callerID agentID newOwnerID).Asks caller guard own := by
  refine (s.authorizeAgentAction_keeps hadmits callerID agentID).seq ?_
  rintro own1 agent ⟨-, actor, hactor, hperson, hauthority⟩
  refine .past fun _ => ?_
  refine .ite (fun _ => trivial) fun hother => ?_
  refine .getUser (hadmits.plain rfl) fun found => ?_
  cases found with
  | none => trivial
  | some newOwner =>
    refine .past fun heligible => ?_
    refine (isOrphanAgent_keeps hadmits agent).seq ?_
    rintro own3 orphan ⟨hsuffix3, horphan⟩
    have hnewOwner : accountRead caller (strings.trimSpace newOwnerID) (some newOwner) ∈ own3 :=
      hsuffix3.subset (.head _)
    have hactor : accountRead caller callerID (some actor) ∈ own3 := hsuffix3.subset (.tail _ hactor)
    refine .ite (fun hgone => ?_) fun _ => ?_
    · -- the owner is gone: the agent changes hands at once
      refine (s.checkAgentCapacity_keeps hadmits newOwner.id).seq ?_
      rintro own4 - ⟨hsuffix4, agents, hagents, hroom⟩
      refine .nowMs (hadmits.plain rfl) fun now => ?_
      have hsub : own3 ⊆ clockRead caller now :: own4 := hsuffix4.later.subset
      have hreassigns : Reassigns (.transfer s callerID agentID newOwnerID) caller (clockRead caller now :: own4)
          agent.ownerUserID newOwner.id "" := by
        refine ⟨rfl, s, callerID, agentID, newOwnerID, actor, newOwner, rfl, hsub hactor, hperson, hauthority,
          hsub hnewOwner, rfl,
          by simpa using heligible, ⟨agents, .tail _ hagents, hroom⟩, (horphan hgone).imp_right ?_⟩
        rintro ⟨found, hfound, hperson⟩
        exact ⟨found, hsub hfound, hperson⟩
      refine .bind ((writeOwnership_keeps hadmits (.head _) (.inr hreassigns)).mono (fun own5 _ _ => ?_)
        fun _ _ h => h)
      exact .bind ((revokeAllUserSessions_keeps hadmits agent.id now).mono (fun _ _ _ => trivial) fun _ _ h => h)
    -- the owner is there: the agent is offered
    refine .nowMs (hadmits.plain rfl) fun now => ?_
    have hoffers : Offers caller (clockRead caller now :: own3) agent.ownerUserID agent.ownerUserID newOwner.id :=
      ⟨rfl, _, newOwner, hother, .tail _ hnewOwner, rfl⟩
    exact .bind ((writeOwnership_keeps hadmits (.head _) (.inl hoffers)).mono (fun _ _ _ => trivial) fun _ _ h => h)

/-- An offer the caller has read as made to them. -/
lemma pendingTransferTo_keeps (callerID agentID : String) : (s.pendingTransferTo callerID agentID).Yields caller guard
      (fun own' result => accountRead caller callerID (some result.1) ∈ own' ∧
        result.2.pendingOwnerUserID = result.1.id) own := by
  refine (s.agentCaller_keeps hadmits callerID).seq ?_
  rintro own1 ⟨actor, isAdmin⟩ ⟨hsuffix1, hactor, hadmin⟩
  refine .past fun _ => ?_
  refine .getUser (hadmits.plain rfl) fun found => ?_
  cases found with
  | none => trivial
  | some agent =>
    refine .past fun hoffered => ?_
    refine keeps_pure.mpr ⟨.tail _ hactor, ?_⟩
    by_contra hnot
    exact hoffered (.inr (.inr hnot))

lemma answerTransfer_keeps (hclock : clockRead caller now ∈ own)
    (haccept : accept = true → Accepts call caller own agent.pendingOwnerUserID) :
    (answerTransfer agent accept now).Asks caller guard own :=
  .attemptRequest (hadmits.settle hclock haccept) fun _ =>
    ⟨fun _ _ => keeps_refuseIf.mpr ⟨fun _ => trivial, fun _ => trivial⟩, fun _ _ => trivial⟩

omit hadmits in
lemma acceptAgentTransfer_keeps (hadmits : AdmitsSteps (.accept s callerID agentID) caller guard) :
    (s.acceptAgentTransfer callerID agentID).Asks caller guard own := by
  refine (s.pendingTransferTo_keeps hadmits callerID agentID).seq ?_
  rintro own1 ⟨actor, agent⟩ ⟨hactor, hpending⟩
  refine (s.checkAgentCapacity_keeps hadmits actor.id).seq ?_
  rintro own2 - ⟨hsuffix2, agents, hagents, hroom⟩
  refine .nowMs (hadmits.plain rfl) fun now => ?_
  have haccepts : Accepts (.accept s callerID agentID) caller (clockRead caller now :: own2)
    agent.pendingOwnerUserID :=
    ⟨s, callerID, agentID, actor, rfl, .tail _ (hsuffix2.subset hactor), hpending.symm, agents,
      .tail _ (hpending ▸ hagents), hroom⟩
  refine .bind ((answerTransfer_keeps hadmits (.head _) fun _ => haccepts).mono (fun own3 _ _ => ?_) fun _ _ h => h)
  exact .bind ((revokeAllUserSessions_keeps hadmits agent.id now).mono (fun _ _ _ => trivial) fun _ _ h => h)

/-- Declining or cancelling: the offer goes and the owner stays. -/
lemma withdraw_keeps (agent : User) : (do
      let now ← nowMs
      answerTransfer agent false now
      return { agent with pendingOwnerUserID := "", updatedAt := now } : ServiceCall User).Asks caller
      guard own := by
  refine .nowMs (hadmits.plain rfl) fun now => ?_
  exact .bind ((answerTransfer_keeps hadmits (.head _) (by simp)).mono (fun _ _ _ => trivial) fun _ _ h => h)

lemma declineAgentTransfer_keeps (callerID agentID : String) :
    (s.declineAgentTransfer callerID agentID).Asks caller guard own := by
  refine (s.pendingTransferTo_keeps hadmits callerID agentID).seq ?_
  rintro own1 ⟨actor, agent⟩ -
  exact withdraw_keeps hadmits agent

lemma cancelAgentTransfer_keeps (callerID agentID : String) :
    (s.cancelAgentTransfer callerID agentID).Asks caller guard own := by
  refine (s.authorizeAgentAction_keeps hadmits callerID agentID).seq ?_
  rintro own1 agent -
  exact .ite (fun _ => trivial) fun _ => withdraw_keeps hadmits agent

end AgentRules

lemma admits_transferGuard : AdmitsSteps call caller (TransferGuard call caller) where
  plain := fun hplain => transferGuard_of_passwordStep (.read hplain)
  sessions {own q} hleaves := by
    unfold TransferGuard
    split
    · cases hleaves
    · cases hleaves
    · cases hleaves
    · exact leavesRows_of_leavesUsers SameOwners.refl hleaves
  settle hclock haccept := ⟨hclock, haccept⟩
  set hclock hwrite := ⟨hclock, hwrite⟩

/-- Every call keeps to the guard, whatever it is answered. -/
lemma TransferCall.keeps (call : TransferCall) : call.flow.Asks caller (TransferGuard call caller) [] := by
  cases call with
  | transfer rules callerID agentID newOwnerID => exact rules.transferAgent_keeps admits_transferGuard
  | accept rules callerID agentID => exact rules.acceptAgentTransfer_keeps admits_transferGuard
  | decline rules callerID agentID => exact rules.declineAgentTransfer_keeps admits_transferGuard callerID agentID
  | cancel rules callerID agentID => exact rules.cancelAgentTransfer_keeps admits_transferGuard callerID agentID
  | mergeUsers actorID survivorID otherID takeAddress =>
    exact mergeUsers_keeps (fun _ _ _ => transferGuard_of_passwordStep) fun _ _ _ _ _ _ _ _ hclock => hclock
  | mergeOwnAccounts auth survivorID authTimeSec otherIdentifier otherPassword takeAddress =>
    exact mergeOwnAccounts_keeps auth (fun _ _ _ => transferGuard_of_passwordStep)
      fun _ _ _ _ _ _ _ _ _ hclock => hclock

end identity.service
