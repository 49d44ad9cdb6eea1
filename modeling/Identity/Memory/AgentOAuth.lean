import Mathlib.Data.List.Sort
import Identity.Memory.Revocation

open identity.service
namespace identity.memory

def Repo.createOAuthClient (r : Repo) (p : Platform) (client : OAuthClient) : Except Err Unit × Repo :=
  match validateNewOAuthClient p.parseURL client with
  | .error err => (.error err, r)
  | .ok () =>
    if (r.oauthClients.lookup client.id).isSome then (.error (.sentinel .alreadyExists), r)
    else (.ok (), { r with oauthClients := r.oauthClients.insert client.id client })

/-- Advances the revision of exactly the expected one and ends every machine and
    grant of the client. A stale or missing client answers none. -/
def Repo.updateOAuthClient (r : Repo) (p : Platform) (id : String) (expected : Int)
    (registration : OAuthClientRegistration) (atMs : Int) : Except Err (Option OAuthClient) × Repo :=
  match validateOAuthClientUpdate p.parseURL id expected registration atMs with
  | .error err => (.error err, r)
  | .ok () =>
    match r.oauthClients.lookup id with
    | none => (.ok none, r)
    | some client =>
      if client.revision ≠ expected then (.ok none, r)
      else
        let next := { client with
          registration := registration
          revision := client.revision + 1
          updatedAt := atMs }
        let r := { r with oauthClients := r.oauthClients.insert id next }
        let r := r.revokeMachines (fun machine => machine.clientID == id) atMs
        (.ok (some next), r.revokeGrants (fun grant => grant.clientID == id) atMs)

def Repo.createAgentAuthorization (r : Repo) (p : Platform) (request : AgentAuthorization) :
    Except Err Unit × Repo :=
  match validateAgentAuthorization request with
  | .error err => (.error err, r)
  | .ok () =>
    if (r.agentAuthorizations.lookup request.id).isSome then (.error (.sentinel .alreadyExists), r)
    else
      match r.oauthClients.lookup request.clientID with
      | none => (.error (.sentinel .permissionDenied), r)
      | some client =>
        if client.revision ≠ request.clientRevision ||
            !(client.validateOAuthRequest p.parseURL request.redirectURI request.resource request.scopes
              oauthGrantAuthorizationCode).isOk then
          (.error (.sentinel .permissionDenied), r)
        else
          (.ok (), { r with agentAuthorizations := r.agentAuthorizations.insert request.id request })

def Repo.getAgentAuthorization (r : Repo) (id : String) : Option AgentAuthorization :=
  r.agentAuthorizations.lookup id

/-- An unknown code answers the grant of the empty id, which is never stored. -/
def Repo.findAgentAuthorizationByCode (r : Repo) (hash : String) : Option AgentAuthorization :=
  r.agentAuthorizations.lookup ((r.agentOAuthCodes.lookup hash).getD "")

def Repo.findAgentAuthorizationByRefresh (r : Repo) (hash : String) : Option AgentAuthorization :=
  match r.agentOAuthRefresh.lookup hash with
  | none => none
  | some token => r.agentAuthorizations.lookup token.authorizationID

/-- The rows a grant of these ids rests on, as they are now. -/
def Repo.oauthAuthorityLocked (r : Repo) (ownerID agentID sid clientID : String) : AgentOAuthAuthority where
  owner := r.users.lookup ownerID
  agent := r.users.lookup agentID
  humanSession := r.sessions.findRow fun s => s.sid == sid
  client := r.oauthClients.lookup clientID
  hasGuardian := r.guardianEdges.anyRow fun edge => edge.childUserID == ownerID

/-- The authority a mutation is judged under: the grant's own rows, or for a
    consent decision those the caller names. -/
def Repo.mutationAuthority (r : Repo) (current : AgentAuthorization) (m : AgentOAuthMutation) :
    AgentOAuthAuthority :=
  let rows := if m.operation = .approve || m.operation = .deny then
      r.oauthAuthorityLocked m.ownerID m.agentID m.humanSID current.clientID
    else r.oauthAuthorityLocked current.ownerID current.agentID current.humanSID current.clientID
  { rows with machine := r.agentMachines.lookup current.machineID }

/-- A code hash names one grant only. -/
def Repo.codeTaken (r : Repo) (id codeHash : String) : Bool :=
  codeHash != "" &&
    match r.agentOAuthCodes.lookup codeHash with
    | none => false
    | some prior => prior != "" && prior != id

/-- Store the new aggregate of a grant and index its code. -/
def Repo.commitAuthorization (r : Repo) (id : String) (next : AgentAuthorization) : Repo :=
  { r with
    agentAuthorizations := r.agentAuthorizations.insert id next
    agentOAuthCodes := if next.codeHash = "" then r.agentOAuthCodes
      else r.agentOAuthCodes.insert next.codeHash id }

/-- Consume the presented refresh record of a rotation and record the next one. -/
def Repo.commitRefresh (r : Repo) (id : String) (m : AgentOAuthMutation) : Repo :=
  let r := if m.operation = .rotate then
      { r with
        agentOAuthRefresh := r.agentOAuthRefresh.modify m.refreshHash fun token =>
          { token with consumedAtMs := m.atMs } }
    else r
  if m.nextRefreshHash = "" then r
  else
    { r with
      agentOAuthRefresh := r.agentOAuthRefresh.insert m.nextRefreshHash
        { hash := m.nextRefreshHash, authorizationID := id, expiresAtMs := m.refreshExpiresAtMs } }

/-- One locked read, decision and write. A replayed refresh commits the revocation
    it triggers although the call answers an error. -/
def Repo.mutateAgentAuthorization (r : Repo) (p : Platform) (id : String) (m : AgentOAuthMutation) :
    Except Err AgentAuthorization × Repo :=
  match r.agentAuthorizations.lookup id with
  | none => (.error (.sentinel .agentOAuthGrant), r)
  | some current =>
    match applyAgentOAuthMutation p current (r.mutationAuthority current m)
        (r.agentOAuthRefresh.lookup m.refreshHash) m with
    | .refused err => (.error err, r)
    | .applied next =>
      if m.nextRefreshHash != "" && (r.agentOAuthRefresh.lookup m.nextRefreshHash).isSome then
        (.error (.sentinel .alreadyExists), r)
      else if r.codeTaken id next.codeHash then (.error (.sentinel .alreadyExists), r)
      else (.ok next, (r.commitAuthorization id next).commitRefresh id m)
    | .replayed next err =>
      if r.codeTaken id next.codeHash then (.error (.sentinel .alreadyExists), r)
      else (.error err, r.commitAuthorization id next)

/-- The consented grants whose request and grant windows both ended before
    `beforeMs`; a machine's children are never swept. -/
def sweepable (beforeMs : Int) (g : AgentAuthorization) : Bool :=
  g.machineID == "" && max g.expiresAtMs g.grantExpiresAtMs > 0 &&
    max g.expiresAtMs g.grantExpiresAtMs < beforeMs

def Repo.deleteExpiredAgentAuthorizations (r : Repo) (beforeMs limit : Int) : Except Err Unit × Repo :=
  if limit < 1 || limit > 500 then (.error (.sentinel .invalidArgument), r)
  else
    let expired := (((r.agentAuthorizations.entries.filter fun entry => sweepable beforeMs entry.2).map
      fun entry => entry.1).insertionSort (· ≤ ·)).take limit.toNat
    let r := expired.foldl
      (fun r' id =>
        { r' with
          agentOAuthCodes :=
            r'.agentOAuthCodes.erase (((r'.agentAuthorizations.lookup id).map (·.codeHash)).getD "")
          agentAuthorizations := r'.agentAuthorizations.erase id })
      r
    (.ok (), { r with
      agentOAuthRefresh := r.agentOAuthRefresh.keep fun token => !expired.contains token.authorizationID })

/-- A repeat of the identical registration answers the machine as it is now; it
    never overwrites one. -/
def Repo.createAgentMachine (r : Repo) (p : Platform) (input : AgentMachine) (fingerprint : String) :
    Except Err (Option AgentMachine) × Repo :=
  match validateAgentMachine input with
  | .error err => (.error err, r)
  | .ok () =>
    let a := r.oauthAuthorityLocked input.ownerID "" input.registrationSID input.clientID
    if !a.validMachineRegistration p input || a.fingerprint p != fingerprint then
      (.error (.sentinel .agentOAuthGrant), r)
    else
      match r.agentMachineRegistrations.lookup input.id with
      | some initial =>
        if !sameAgentMachineRegistration initial input then (.error (.sentinel .alreadyExists), r)
        else (.ok (r.agentMachines.lookup input.id), r)
      | none =>
        (.ok (some input), { r with
          agentMachineRegistrations := r.agentMachineRegistrations.insert input.id input
          agentMachines := r.agentMachines.insert input.id input })

/-- A new selection ends the children it no longer allows. -/
def Repo.mutateAgentMachine (r : Repo) (p : Platform) (id : String) (m : AgentMachineMutation) :
    Except Err AgentMachine × Repo :=
  match applyAgentMachineMutation (r.agentMachines.lookup id) m with
  | .error err => (.error err, r)
  | .ok next =>
    if m.operation ≠ .revoke &&
        !(r.agentMachines.lookup id).any (fun current =>
          (r.oauthAuthorityLocked current.ownerID "" "" current.clientID).validMachine p current) then
      (.error (.sentinel .agentOAuthGrant), r)
    else
      let r := { r with agentMachines := r.agentMachines.insert id next }
      (.ok next, r.revokeGrants (fun g => g.machineID == id && !next.allows g.agentID) m.atMs)

/-- The authority a machine's child would rest on. -/
def Repo.agentMachineAuthority (r : Repo) (id agent : String) : AgentOAuthAuthority :=
  match r.agentMachines.lookup id with
  | none => {}
  | some m => { r.oauthAuthorityLocked m.ownerID agent "" m.clientID with machine := some m }

/-- Answers the machine's child for the agent, creating it the first time. A child
    is never replaced, and a key serves one child only. -/
def Repo.ensureAgentMachineDelegation (r : Repo) (p : Platform) (id : String)
    (candidate : AgentAuthorization) (enginePublicKey fingerprint : String) :
    Except Err AgentAuthorization × Repo :=
  match r.agentMachines.lookup id with
  | none => (.error (.sentinel .agentOAuthGrant), r)
  | some m =>
    let a := { r.oauthAuthorityLocked m.ownerID candidate.agentID "" m.clientID with machine := some m }
    match validateMachineDelegation p m a candidate enginePublicKey fingerprint with
    | .error err => (.error err, r)
    | .ok () =>
      match r.agentAuthorizations.findRow fun child =>
          child.machineID == id && child.agentID == candidate.agentID with
      | some child =>
        if !a.valid p child || child.machinePublicKey != candidate.machinePublicKey then
          (.error (.sentinel .agentOAuthGrant), r)
        else (.ok child, r)
      | none =>
        if (r.agentAuthorizations.lookup candidate.id).isSome then (.error (.sentinel .alreadyExists), r)
        else if r.agentAuthorizations.anyRow fun other =>
            other.machineID == id && other.machinePublicKey == candidate.machinePublicKey then
          (.error (.sentinel .alreadyExists), r)
        else
          (.ok candidate, { r with agentAuthorizations := r.agentAuthorizations.insert candidate.id candidate })

def Repo.getAgentMachineDelegation (r : Repo) (machine agent : String) : Option AgentAuthorization :=
  r.agentAuthorizations.findRow fun grant => grant.machineID == machine && grant.agentID == agent

/-- Expired challenges are dropped on the way, also when the call then refuses. -/
def Repo.createAgentMachineChallenge (r : Repo) (input : AgentMachineChallenge) : Except Err Unit × Repo :=
  if !validAgentMachineChallenge input then (.error (.sentinel .invalidArgument), r)
  else if !(r.agentMachines.lookup input.machineID).any (fun machine => machine.revokedAtMs == 0) then
    (.error (.sentinel .agentOAuthGrant), r)
  else
    let live := r.agentMachineChallenges.keep fun challenge => !(challenge.expiresAtMs ≤ input.createdAtMs)
    let count := (live.rows.filter fun challenge => challenge.machineID == input.machineID).length
    let r := { r with agentMachineChallenges := live }
    if (live.lookup input.id).isSome then (.error (.sentinel .alreadyExists), r)
    else if count ≥ maxAgentMachineChallenges then (.error (.sentinel .agentMachineChallengeLimit), r)
    else (.ok (), { r with agentMachineChallenges := live.insert input.id input })

def Repo.consumeAgentMachineChallenge (r : Repo) (id : String) (now : Int) : Bool × Repo :=
  match r.agentMachineChallenges.lookup id with
  | none => (false, r)
  | some challenge =>
    if challenge.createdAtMs > now || challenge.expiresAtMs ≤ now then (false, r)
    else (true, { r with agentMachineChallenges := r.agentMachineChallenges.erase id })

/-- Which of the expired challenges fall within the limit depends on the iteration
    order. -/
def Repo.deleteExpiredAgentMachineChallenges (r : Repo) (before limit : Int) : Except Err Unit × Repo :=
  if limit < 1 || limit > 10000 then (.error (.sentinel .invalidArgument), r)
  else
    let expired := (r.agentMachineChallenges.entries.filter fun entry => entry.2.expiresAtMs ≤ before).take
      limit.toNat
    (.ok (), { r with
      agentMachineChallenges := expired.foldl (fun table entry => table.erase entry.1) r.agentMachineChallenges })

end identity.memory
