import Identity.Memory.Authority.Machines
import Identity.Memory.Authority.Merge
import Identity.Repository.Frame

open identity.service identity.memory
namespace identity.repository
open Sustains
open GuardianRequest (handle)
open Request (suppliedUserIDs timestamps)
open SessionRequest (handle)
open UserRequest (handle)
section
variable {r : Repo}

lemma UserRequest.handle_sustains (hinv : Inv r) (hnow : 0 < now) (q : UserRequest)
    (htimes : ∀ atMs ∈ q.timestamps, 0 < atMs)
    (hids : ∀ u, q = .createUser u → ∀ n, u.id ≠ memID n) : Sustains r (q.handle now r).2 := by
  have hkeyed := hinv.keyed
  by_cases haccount : q.onAccount = true
  · obtain ⟨userID, atMs, htime, hstep⟩ := handle_accountStep haccount now r
    exact hstep.sustains hkeyed (htime.elim (fun heq => heq ▸ hnow) (htimes atMs))
  cases q with
  | createUser u =>
    dsimp only [handle, Repo.createUser]
    split
    · rfl
    · exact insertUser_sustains hkeyed (hids u rfl)
  | updateUserNode userID patch =>
    dsimp only [handle, Repo.updateUserNode]
    split
    · rfl
    · rename_i u hu
      exact writeUser_sustains hkeyed hu (applyUserFields_id u patch) hnow
  | deleteUser userID =>
    dsimp only [handle, Repo.deleteUser]
    split
    · rfl
    · exact deleteUserLocked_sustains hinv hnow userID
  | deleteStaleAnonymousUsers beforeMs limit =>
    dsimp only [handle, Repo.deleteStaleAnonymousUsers]
    split
    · rfl
    · exact foldl_sustains Inv (fun _ _ h hbefore => (h.advances hbefore).inv)
        (fun r' victim h => deleteUserLocked_sustains h hnow victim.1) _ hinv
  | createAgent request =>
    dsimp only [handle, Repo.createAgent]
    split
    · rfl
    split
    · rfl
    split
    · split <;> rfl
    split
    · rfl
    · exact allocateAgent_sustains hkeyed request
  | applyAccountMerge m => exact applyAccountMerge_sustains hkeyed (htimes _ (by simp [timestamps]))
  | _ => first | rfl | exact absurd rfl haccount

lemma SessionRequest.handle_sustains (hkeyed : Keyed r) (hnow : 0 < now)
    (q : SessionRequest) (htimes : ∀ atMs ∈ q.timestamps, 0 < atMs) : Sustains r (q.handle now r).2 := by
  cases q with
  | createSession s => exact createSession_sustains hkeyed s
  | getSessionBySid | findRefreshTokenByHash | findRefreshTokenByHashIncludingConsumed | queryRefreshTokenNodes =>
    rfl
  | revokeSession sid atMs =>
    dsimp only [handle, Repo.revokeSession]
    split
    · rfl
    split
    · rfl
    · exact revokeSessionRow_sustains r _ (htimes _ (by simp [timestamps]))
  | revokeSessionsForUser userID atMs =>
    dsimp only [handle, Repo.revokeSessionsForUser]
    split
    · rfl
    · exact foldl_sustains (fun _ => True) (fun _ _ _ _ => trivial)
        (fun r' entry _ => revokeSessionRow_sustains r' entry.1 (htimes _ (by simp [timestamps]))) _ trivial
  | createRefreshToken t => exact sustains_of_eq rfl rfl rfl rfl rfl rfl (Nat.le_succ _)
  | deleteRefreshToken nodeID =>
    dsimp only [handle, Repo.deleteRefreshToken]
    split
    · rfl
    rename_i token htoken
    exact (revokeAgentOAuthSIDLocked_revokeOnly r token.sid hnow).sustains.trans
      (sustains_of_eq rfl rfl rfl rfl rfl rfl le_rfl)
  | deleteRefreshTokensForUser userID => exact deleteRefreshTokensForUser_sustains r hnow userID
  | consumeRefreshTokenByHash hash atMs =>
    dsimp only [handle, Repo.consumeRefreshTokenByHash]
    split
    · rfl
    split
    · rfl
    · exact sustains_of_eq rfl rfl rfl rfl rfl rfl le_rfl

lemma GuardianRequest.handle_sustains (hkeyed : Keyed r) (hnow : 0 < now)
    (q : GuardianRequest) (hids : ∀ u edge consent, q = .createManagedChildAccount u edge consent →
      ∀ n, u.id ≠ memID n) : Sustains r (q.handle now r).2 := by
  cases q with
  | upsertGuardianEdge e =>
    dsimp only [handle, Repo.upsertGuardianEdge]
    split
    · rfl
    split
    · rfl
    · exact sustains_of_eq rfl rfl rfl rfl rfl rfl le_rfl
  | deleteGuardianEdge guardianUserID childUserID =>
    exact deleteGuardianEdge_sustains r hnow guardianUserID childUserID
  | getGuardianEdge | listGuardiansOfChild | listChildrenOfGuardian | getActiveParentalConsentForChild
  | listActiveParentalConsentsForChild => rfl
  | createParentalConsent consent =>
    dsimp only [handle, Repo.createParentalConsent]
    split
    · rfl
    split
    · rfl
    · exact sustains_of_eq rfl rfl rfl rfl rfl rfl le_rfl
  | markParentalConsentRevoked consentID revokedByUserID atMs =>
    dsimp only [handle, Repo.markParentalConsentRevoked]
    split
    · rfl
    · exact sustains_of_eq rfl rfl rfl rfl rfl rfl le_rfl
  | createManagedChildAccount u edge consent =>
    exact createManagedChildAccount_sustains hkeyed (hids u edge consent rfl) edge consent

lemma AgentRequest.handle_advances (hinv : Inv r) (p : Platform) (q : AgentRequest)
    (htimes : ∀ atMs ∈ q.timestamps, 0 < atMs) : Advances r (q.handle p r).2 := by
  have hrefl := (refl r).advances hinv
  cases q with
  | createOAuthClient client => exact (createOAuthClient_sustains r p client).advances hinv
  | getOAuthClient | getAgentAuthorization | findAgentAuthorizationByCode | findAgentAuthorizationByRefresh
  | agentOAuthAuthority | getAgentMachine | agentMachineAuthority | getAgentMachineDelegation
  | getAgentMachineChallenge => exact hrefl
  | updateOAuthClient id expected registration atMs =>
    exact (updateOAuthClient_sustains r p id expected registration (htimes _ (by simp [timestamps]))).advances hinv
  | createAgentAuthorization request => exact createAgentAuthorization_advances hinv p request
  | mutateAgentAuthorization id m => exact mutateAgentAuthorization_advances hinv p id m
  | deleteExpiredAgentAuthorizations beforeMs limit =>
    exact deleteExpiredAgentAuthorizations_advances hinv beforeMs limit
  | createAgentMachine input fingerprint => exact createAgentMachine_advances hinv p input fingerprint
  | mutateAgentMachine id m => exact mutateAgentMachine_advances hinv p id m
  | ensureAgentMachineDelegation id candidate enginePublicKey fingerprint =>
    exact ensureAgentMachineDelegation_advances hinv p id candidate enginePublicKey fingerprint
  | createAgentMachineChallenge input => exact (createAgentMachineChallenge_sustains r input).advances hinv
  | consumeAgentMachineChallenge id now => exact (consumeAgentMachineChallenge_sustains r id now).advances hinv
  | deleteExpiredAgentMachineChallenges before limit =>
    exact (deleteExpiredAgentMachineChallenges_sustains r before limit).advances hinv

lemma sustains_of_signInOnly (h : SignInOnly r r') : Sustains r r' := by
  rw [h.frame]
  exact sustains_of_eq rfl rfl rfl rfl rfl rfl h.seq_le

lemma sustains_of_credentialsOnly (h : CredentialsOnly r r') : Sustains r r' := by
  rw [h.frame]
  exact sustains_of_eq rfl rfl rfl rfl rfl rfl h.seq_le

/-- One operation, whatever it is and whatever it answers. -/
lemma handle_advances (hinv : Inv r) (p : Platform) (hq : q.Admissible) (tick : Tick) :
    Advances r (handle p q tick r).2 := by
  cases q with
  | user q =>
    refine (UserRequest.handle_sustains hinv tick.pos q hq.timestamps_pos fun u heq => ?_).advances hinv
    grind [suppliedUserIDs]
  | session q => exact (SessionRequest.handle_sustains hinv.keyed tick.pos q hq.timestamps_pos).advances hinv
  | guardian q =>
    refine (GuardianRequest.handle_sustains hinv.keyed tick.pos q fun u edge consent heq => ?_).advances hinv
    grind [suppliedUserIDs]
  | agent q => exact AgentRequest.handle_advances hinv p q hq.timestamps_pos
  | signIn q => exact (sustains_of_signInOnly (SignInRequest.handle_signInOnly r q)).advances hinv
  | credential q => exact (sustains_of_credentialsOnly (CredentialRequest.handle_credentialsOnly r q)).advances hinv
  | clock | random | compare => exact (refl r).advances hinv

/-- A whole run, from a store that has the invariant. -/
lemma run_advances (p : Platform) (hinv : Inv r) (ops : List (Request × Tick))
    (hops : ∀ op ∈ ops, op.1.Admissible) : Advances r (run p r ops) := by
  induction ops generalizing r with
  | nil => exact (refl r).advances hinv
  | cons op rest ih =>
    have hstep := handle_advances hinv p (hops op (by simp)) op.2
    have hrest := ih hstep.inv fun other hother => hops other (by simp [hother])
    exact ⟨hrest.inv, hstep.persists.trans hrest.persists⟩

end

/-- After any operations on an empty store, a live consented grant names an active
    person who owns its active agent, an unrevoked session of that person, and a
    client at the revision it was granted under. -/
theorem live_grant_has_live_authority (p : Platform) (ops : List (Request × Tick))
    (hops : ∀ op ∈ ops, op.1.Admissible) (key : String) (g : AgentAuthorization)
    (hg : (run p new ops).agentAuthorizations.lookup key = some g) (happroved : g.decision = .approved)
    (hlive : g.revokedAtMs = 0) (hconsented : g.machineID = "") :
    (run p new ops).HasActiveOwner g.ownerID ∧ (run p new ops).HasActiveAgent g.agentID g.ownerID ∧
      (run p new ops).HasActiveSession g.humanSID g.ownerID ∧
      (run p new ops).HasClientAt g.clientID g.clientRevision := by
  have hinv := (run_advances p inv_new ops hops).inv
  obtain ⟨howner, hagent, hsession, hclient⟩ := hinv.supported.grants key g hg happroved hlive hconsented
  exact ⟨howner, hagent, hsession, hclient⟩

/-- A platform that knows the two addresses used below; every digest is the same. -/
def samplePlatform : Platform where
  parseURL raw :=
    if raw = "https://app.example/cb" then
      some ⟨"https", "", false, "app.example", "app.example", "", fun host => "https://" ++ host ++ "/cb"⟩
    else if raw = "https://api.example" then
      some ⟨"https", "", false, "api.example", "api.example", "", fun host => "https://" ++ host⟩
    else none
  sha256Hex _ := "e3b0c44298fc1c149afbf4c8996fb92427ae41e4649b934ca495991b7852b855"
  marshalAuthority _ := ""

/-- The same platform with the digests of the tokens used in later samples. -/
def tokenPlatform : Platform :=
  { samplePlatform with
    sha256Hex := fun text =>
      if text = "reset-1" then "24ffdd4b62216e2c93a49532e76c54b06bb9444e41af5f8f1eec3d21918ba465"
      else if text = "refresh-1" then "bd473e5dcdce2510c2df4f0c5a54a605fa3647fe74afae20a8cdb8b91b1a1f63"
      else if text = "refresh-2" then "f865a88f563b9fbc4c224f6fbabd2ec9f810efefc61b212bda20ee64a6fb2840"
      else if text = "refresh-3" then "4482e973ec11c6135fee76b488ae112dbad4fd03fea792ace9c0cf7875e714fe"
      else samplePlatform.sha256Hex text }

def sampleTick : Tick := ⟨20, by decide, ""⟩

/-- Turns of one call after the other, all at the same time. -/
def sampleTurns (callers : List Nat) : List (Nat × Tick) := callers.map fun caller => (caller, sampleTick)

def sampleClient : OAuthClient where
  id := "client-1"
  kind := oauthClientNativePublic
  registration :=
    { name := "App"
      redirectURIs := ["https://app.example/cb"]
      resources := [⟨"https://api.example", "drive", ["read"]⟩]
      grantTypes := [oauthGrantAuthorizationCode, oauthGrantRefreshToken, oauthGrantAgentMachine]
      disabled := false }
  revision := 1
  createdAt := 5
  updatedAt := 5

/-- A person, an agent of theirs, a session and a client. -/
def sampleAccounts : List (Request × Tick) :=
  [(.user (.createUser { id := "owner-1", status := "active", kind := .person }), sampleTick),
   (.user (.createUser { id := "agent-1", status := "active", kind := .agent, ownerUserID := "owner-1" }),
    sampleTick),
   (.session (.createSession { sid := "sid-1", userID := "owner-1", createdAtMs := 3 }), sampleTick),
   (.agent (.createOAuthClient sampleClient), sampleTick)]

lemma sampleAccounts_admissible : ∀ op ∈ sampleAccounts, op.1.Admissible := by
  intro op hop
  simp only [sampleAccounts, List.mem_cons, List.not_mem_nil, or_false] at hop
  obtain rfl | rfl | rfl | rfl := hop
  · exact ⟨by simp [timestamps, UserRequest.timestamps],
      by simpa [suppliedUserIDs] using ne_memID_of_head "owner-1" (by decide)⟩
  · exact ⟨by simp [timestamps, UserRequest.timestamps],
      by simpa [suppliedUserIDs] using ne_memID_of_head "agent-1" (by decide)⟩
  · exact ⟨by simp [timestamps, SessionRequest.timestamps], by simp [suppliedUserIDs]⟩
  · exact ⟨by simp [timestamps, AgentRequest.timestamps, sampleClient], by simp [suppliedUserIDs]⟩

def sampleRequest : AgentAuthorization where
  id := "grant-1"
  clientID := "client-1"
  clientRevision := 1
  redirectURI := "https://app.example/cb"
  resource := "https://api.example"
  product := "drive"
  scopes := ["read"]
  challenge := "E9Melhoa2OwvFrEMTJguCHaoeK1t8URWbuGJSstw-cM"
  createdAtMs := 10
  expiresAtMs := 1000
  decision := .pending

/-- The person approves the request for the agent. -/
def sampleApproval : AgentOAuthMutation where
  operation := .approve
  atMs := 20
  expectedRevision := 1
  authorityFingerprint := samplePlatform.sha256Hex ""
  ownerID := "owner-1"
  agentID := "agent-1"
  humanSID := "sid-1"
  grantExpiresAtMs := 5000
  codeHash := "5feceb66ffc86f38d952786c6d696c79c2dbc239dd4e91b46729d73a27fb57e9"
  codeExpiresAtMs := 900

def sampleConsent : List (Request × Tick) :=
  sampleAccounts ++
    [(.agent (.createAgentAuthorization sampleRequest), sampleTick),
     (.agent (.mutateAgentAuthorization "grant-1" sampleApproval), sampleTick)]

lemma sampleConsent_admissible : ∀ op ∈ sampleConsent, op.1.Admissible := by
  intro op hop
  grind [sampleAccounts_admissible, sampleConsent, timestamps, AgentRequest.timestamps, sampleRequest,
    suppliedUserIDs, sampleApproval]

/-- The consented grant of the sample run is live, and its authority is too. -/
theorem sampleConsent_has_live_authority :
    ∃ g, (run samplePlatform new sampleConsent).agentAuthorizations.lookup "grant-1" = some g ∧
      g.decision = .approved ∧ g.revokedAtMs = 0 ∧ g.machineID = "" ∧
      (run samplePlatform new sampleConsent).HasActiveOwner g.ownerID ∧
      (run samplePlatform new sampleConsent).HasActiveAgent g.agentID g.ownerID ∧
      (run samplePlatform new sampleConsent).HasActiveSession g.humanSID g.ownerID ∧
      (run samplePlatform new sampleConsent).HasClientAt g.clientID g.clientRevision :=
  ⟨_, rfl, rfl, rfl, rfl,
    live_grant_has_live_authority samplePlatform sampleConsent sampleConsent_admissible "grant-1" _ rfl rfl rfl rfl⟩

/-- Machines and their children, after any operations on an empty store, and compared
    with the store after any further operations. -/
theorem machine_delegation_invariant (p : Platform) (ops later : List (Request × Tick))
    (hops : ∀ op ∈ ops, op.1.Admissible) (hlater : ∀ op ∈ later, op.1.Admissible) :
    (∀ key m, (run p new ops).agentMachines.lookup key = some m → m.revokedAtMs = 0 →
      MachineSupported (run p new ops) m) ∧
    (∀ key g, (run p new ops).agentAuthorizations.lookup key = some g → g.machineID ≠ "" →
      g.revokedAtMs = 0 → ∃ m, (run p new ops).agentMachines.lookup g.machineID = some m ∧
        ChildSupported (run p new ops) g m) ∧
    (∀ key g, (run p new ops).agentAuthorizations.lookup key = some g → g.machineID ≠ "" →
      ∃ m, (run p new ops).agentMachines.lookup g.machineID = some m ∧ g.machinePublicKey ≠ m.publicKey) ∧
    (∀ key₁ key₂ g₁ g₂, (run p new ops).agentAuthorizations.lookup key₁ = some g₁ →
      (run p new (ops ++ later)).agentAuthorizations.lookup key₂ = some g₂ →
      g₁.machineID ≠ "" → g₁.machineID = g₂.machineID →
      (g₁.machinePublicKey = g₂.machinePublicKey → key₁ = key₂) ∧
      (g₁.agentID = g₂.agentID → key₁ = key₂ ∧ (g₁.revokedAtMs ≠ 0 → g₂.revokedAtMs ≠ 0))) := by
  have hbefore := run_advances p inv_new ops hops
  have hafter := run_advances p hbefore.inv later hlater
  have happend : run p new (ops ++ later) = run p (run p new ops) later := List.foldl_append
  refine ⟨hbefore.inv.supported.machines, ?_, hbefore.inv.distinct.machine, ?_⟩
  · exact fun key g hg hchild hlive => hbefore.inv.supported.children key g hg hlive hchild
  · grind

def sampleMachine : AgentMachine where
  id := "machine-1"
  ownerID := "owner-1"
  clientID := "client-1"
  clientRevision := 1
  resource := "https://api.example"
  product := "drive"
  scopes := ["read"]
  displayName := "engine"
  publicKey := "4b227777d4dd1fc61c6f884f48641d02b4d121d3fd328cb08b5531fcacdabf8a"
  registrationSID := "sid-1"
  allAgents := true
  agentIDs := []
  excludedAgentIDs := []
  createdAtMs := 15
  revision := 1
  revokedAtMs := 0

def sampleChild : AgentAuthorization where
  id := "grant-2"
  machineID := "machine-1"
  machinePublicKey := "ef2d127de37b942baad06145e54b0c619a1f22327b2ebbcfbec78f5564afe39d"
  clientID := "client-1"
  clientRevision := 1
  resource := "https://api.example"
  product := "drive"
  scopes := ["read"]
  createdAtMs := 16
  decision := .approved
  ownerID := "owner-1"
  agentID := "agent-1"
  consentAtMs := 16
  sessionID := "session-1"

/-- The person registers a machine, which takes a child for the agent. -/
def sampleDelegation : List (Request × Tick) :=
  sampleAccounts ++
    [(.agent (.createAgentMachine sampleMachine (samplePlatform.sha256Hex "")), sampleTick),
     (.agent (.ensureAgentMachineDelegation "machine-1" sampleChild sampleMachine.publicKey
        (samplePlatform.sha256Hex "")), sampleTick)]

/-- The person's account is deactivated. -/
def sampleDeactivation : List (Request × Tick) :=
  [(.user (.updateUser "owner-1" (fields [("status", .str "deactivated")])), sampleTick)]

lemma sampleDelegation_admissible : ∀ op ∈ sampleDelegation, op.1.Admissible := by
  intro op hop
  grind [sampleAccounts_admissible, sampleDelegation, timestamps, AgentRequest.timestamps, sampleMachine,
    suppliedUserIDs, sampleChild]

/-- In the sample run the machine and its child are live and supported; the person's
    deactivation then revokes the child for good. -/
theorem sampleDelegation_invariant : MachineSupported (run samplePlatform new sampleDelegation) sampleMachine ∧
    (∃ m, (run samplePlatform new sampleDelegation).agentMachines.lookup "machine-1" = some m ∧
      ChildSupported (run samplePlatform new sampleDelegation) sampleChild m) ∧
    (∃ m, (run samplePlatform new sampleDelegation).agentMachines.lookup "machine-1" = some m ∧
      sampleChild.machinePublicKey ≠ m.publicKey) ∧
    ∃ g, (run samplePlatform new (sampleDelegation ++ sampleDeactivation)).agentAuthorizations.lookup
        "grant-2" = some g ∧ g.agentID = "agent-1" ∧ g.revokedAtMs = 20 ∧
      ∀ key g', (run samplePlatform new (sampleDelegation ++ sampleDeactivation)).agentAuthorizations.lookup
        key = some g' → "machine-1" = g'.machineID → "agent-1" = g'.agentID → "grant-2" = key := by
  obtain ⟨hmachines, hchildren, hkeys, hunique⟩ := machine_delegation_invariant samplePlatform sampleDelegation
    sampleDeactivation sampleDelegation_admissible
      (by grind [sampleDeactivation, Request.timestamps, UserRequest.timestamps, Request.suppliedUserIDs])
  refine ⟨hmachines "machine-1" sampleMachine rfl rfl, hchildren "grant-2" sampleChild rfl (by decide) rfl,
    hkeys "grant-2" sampleChild rfl (by decide), _, rfl, rfl, rfl, ?_⟩
  intro key g' hg' hmachine hagent
  exact ((hunique "grant-2" key sampleChild g' rfl hg' (by decide) hmachine).2 hagent).1

end identity.repository
