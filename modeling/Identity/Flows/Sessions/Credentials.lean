import Identity.Flows.Sessions.Lineage
import Identity.Flows.SignIn.Lockout

open identity.repository identity.memory
namespace identity.service
open Routine

/-- The calls that change a credential or sign a user out everywhere. -/
inductive CredentialCall where
  | changePassword (userID currentPassword newPassword : String)
  | confirmPasswordReset (token newPassword : String)
  | confirmEmailChange (token : String)
  | completeRequiredPasswordChange (completionToken newPassword secondFactorCode : String) (client : ClientInfo)
  | setManagedChildPassword (guardianUserID childUserID newPassword stepUpPassword : String)
  | revokeAllSessions (userID password : String)

namespace CredentialCall

def program (p : Platform) (s : AuthService) (profile : ProfileService) : CredentialCall → ServiceCall Unit
  | changePassword userID currentPassword newPassword => profile.changePassword userID currentPassword newPassword
  | confirmPasswordReset token newPassword => s.confirmPasswordReset p token newPassword
  | confirmEmailChange token => do
    let _ ← s.confirmEmailChange p token
    return
  | completeRequiredPasswordChange completionToken newPassword secondFactorCode client => do
    let _ ← s.completeRequiredPasswordChange p completionToken newPassword secondFactorCode client
    return
  | setManagedChildPassword guardianUserID childUserID newPassword stepUpPassword =>
    s.setManagedChildPassword guardianUserID childUserID newPassword stepUpPassword
  | revokeAllSessions userID password => do
    let _ ← profile.revokeAllSessions userID password
    return

/-- The user whose credential it is. -/
def account (p : Platform) (s : AuthService) (r : Repo) : CredentialCall → Option String
  | changePassword userID _ _ => some userID
  | confirmPasswordReset token _ => (r.findEmailTokenByHash .passwordReset (p.sha256Hex token)).map (·.userID)
  | confirmEmailChange token => (r.findEmailTokenByHash .emailChange (p.sha256Hex token)).map (·.userID)
  | completeRequiredPasswordChange completionToken _ _ _ =>
    match s.verifyPurposeTicket tokenPurposePasswordChange completionToken with
    | .ok claims => some claims.sub
    | .error _ => none
  | setManagedChildPassword _ childUserID _ _ => some (strings.trimSpace childUserID)
  | revokeAllSessions userID _ => some userID

/-- The two calls that go through the graph's refresh-token nodes. -/
def viaNodes : CredentialCall → Bool
  | changePassword _ _ _ => true
  | revokeAllSessions _ _ => true
  | _ => false

end CredentialCall

/-- Every refresh token and every session row the user held is gone or revoked, and those
    of everyone else are as they were. -/
@[grind]
structure SessionsEnd (userID : String) (r r' : Repo) : Prop where
  tokens : ∀ key t, r.refreshTokens.lookup key = some t → t.userID = userID → r'.refreshTokens.lookup key = none
  sessions : ∀ key row row', r.sessions.lookup key = some row → row.userID = userID →
    r'.sessions.lookup key = some row' → row'.revokedAtMs ≠ 0
  otherTokens : ∀ key t, r.refreshTokens.lookup key = some t → t.userID ≠ userID →
    r'.refreshTokens.lookup key = some t
  otherSessions : ∀ key row, r.sessions.lookup key = some row → row.userID ≠ userID →
    r'.sessions.lookup key = some row

/-- No session row of the user is live. -/
@[grind =]
def NoLiveSession (userID : String) (r : Repo) : Prop :=
  ∀ key row, r.sessions.lookup key = some row → row.userID = userID → row.revokedAtMs ≠ 0

/-- The user's refresh tokens went; the session rows are as they were. -/
@[grind]
structure TokensSwept (userID : String) (r r' : Repo) : Prop where
  tokens : ∀ query, r'.refreshTokens.lookup query = (r.refreshTokens.lookup query).filter fun t => t.userID != userID
  sessions : r'.sessions = r.sessions
  seq_le : r.seq ≤ r'.seq

/-- The user's refresh tokens went and their session rows were ended. -/
@[grind]
structure Swept (userID : String) (r r' : Repo) : Prop where
  tokens : ∀ query, r'.refreshTokens.lookup query = (r.refreshTokens.lookup query).filter fun t => t.userID != userID
  sessions : ∃ atMs : Int, 0 < atMs ∧ ∀ query, r'.sessions.lookup query =
    (r.sessions.lookup query).map fun row => if row.userID = userID then endedRow atMs row else row
  seq_le : r.seq ≤ r'.seq

lemma Quiet.swept (hquiet : Quiet r r1) (hswept : Swept userID r1 r2) : Swept userID r r2 := by
  obtain ⟨atMs, hpos, hrows⟩ := hswept.sessions
  refine ⟨fun query => ?_, ⟨atMs, hpos, fun query => ?_⟩, hquiet.seq_le.trans hswept.seq_le⟩
  · rw [hswept.tokens, hquiet.refreshTokens]
  · rw [hrows, hquiet.sessions]

lemma Quiet.names (hquiet : Quiet r r1) (hnames : SessionNames r) : SessionNames r1 :=
  (RowsFrom.of_same hquiet.toSameSessions hquiet.seq_le).names hnames

lemma deleteRefreshTokensForUser_swept (r : Repo) (now : Int) (userID : String) :
    TokensSwept userID r (r.deleteRefreshTokensForUser now userID) :=
  ⟨lookup_deleteRefreshTokensForUser r now userID, deleteRefreshTokensForUser_sessions r now userID,
    (deleteRefreshTokensForUser_sessionsOnly r now userID).seq_le⟩

/-- The rows are ended after the tokens went. A call without a user changes nothing, and
    no row is without one. -/
lemma TokensSwept.revoked (hswept : TokensSwept userID r r1) (hnames : SessionNames r) (hpos : 0 < atMs) :
    Swept userID r (r1.revokeSessionsForUser userID atMs) := by
  refine ⟨fun query => ?_, ⟨atMs, hpos, fun query => ?_⟩,
    hswept.seq_le.trans (revokeSessionsForUser_sessionsOnly r1 userID atMs).seq_le⟩
  · rw [revokeSessionsForUser_refreshTokens, hswept.tokens]
  by_cases huser : userID = ""
  · rw [Repo.revokeSessionsForUser, if_pos huser, hswept.sessions]
    cases hrow : r.sessions.lookup query with
    | none => rfl
    | some row => grind
  · rw [lookup_revokeSessionsForUser huser, hswept.sessions]

lemma Swept.sessionsEnd (hswept : Swept userID r r1) : SessionsEnd userID r r1 := by grind [endedRow_revoked]

/-- A pair of tokens minted afterwards takes new names, so it overwrites no row. -/
lemma Swept.minted (hswept : Swept userID r r1) (hnames : SessionNames r)
    (hminted : Minted p sid raw r1 r2) : SessionsEnd userID r r2 := by
  have hend := hswept.sessionsEnd
  have hle := hswept.seq_le
  obtain ⟨n, newRow, hn, -, -, -, hsessions⟩ := hminted.session
  obtain ⟨m, newToken, hm, -, -, -, -, -, htokens⟩ := hminted.token
  have htokenKey : ∀ key t, r.refreshTokens.lookup key = some t → key ≠ memID m := by grind
  have hsessionKey : ∀ key row, r.sessions.lookup key = some row → key ≠ memID n := by grind
  refine ⟨fun key t ht howner => ?_, fun key row row' hrow howner hrow' => ?_, fun key t ht hother => ?_,
    fun key row hrow hother => ?_⟩
  · grind
  · grind
  · grind
  · grind

section Calls
variable {s : AuthService}

lemma revokeUserSessions_ensures (hmode : s.revocationModeSession = true) (hnames : SessionNames r) (userID : String) :
    Returns p (do deleteRefreshTokensForUser userID; s.revokeUserSessionsIfModeSession userID)
      (fun _ r' => Swept userID r r') r := by
  refine .ask trivial fun tick => ?_
  refine .ite (fun _ => ?_) fun hnot => absurd hmode hnot
  refine .nowMs trivial fun tick1 => ?_
  exact runs_ask.mpr ⟨trivial, fun _ => (deleteRefreshTokensForUser_swept r tick.now userID).revoked hnames tick1.pos⟩

/-- The loop deletes each of the tokens it is given. -/
lemma deleteEach_ensures (tokens : List RefreshTokenRecord) (r : Repo) : Returns p (ProfileService.deleteEach tokens)
      (fun _ r' => (∀ query, r'.refreshTokens.lookup query =
          if query ∈ tokens.map (·.nodeID) then none else r.refreshTokens.lookup query) ∧
        r'.sessions = r.sessions ∧ r.seq ≤ r'.seq) r := by
  induction tokens generalizing r with
  | nil => exact ⟨fun query => by simp, rfl, le_rfl⟩
  | cons token rest ih =>
    refine .ask trivial fun tick => ?_
    refine (ih (r.deleteRefreshToken tick.now token.nodeID)).seq ?_
    rintro count r' ⟨htokens, hsessions, hle⟩
    refine ⟨fun query => ?_, hsessions.trans (deleteRefreshToken_sessions r tick.now token.nodeID),
      (deleteRefreshToken_sessionsOnly r tick.now token.nodeID).seq_le.trans hle⟩
    grind [lookup_deleteRefreshToken]

/-- The nodes a user's tokens are listed under are their keys. -/
lemma mem_queryRefreshTokenNodes (hnames : SessionNames r) (ht : r.refreshTokens.lookup query = some t) :
    query ∈ (r.queryRefreshTokenNodes userID).map (·.nodeID) ↔ t.userID = userID := by
  simp only [Repo.queryRefreshTokenNodes, List.mem_map, List.mem_insertionSort, List.mem_filter, beq_iff_eq,
    GoMap.mem_rows_iff]
  constructor
  · grind
  · grind

lemma revokeNodes_ensures (hnames : SessionNames r) (userID : String) :
    Returns p (ProfileService.revokeAllUserSessions userID) (fun _ r' => TokensSwept userID r r') r := by
  refine .ask trivial fun tick => ?_
  refine (deleteEach_ensures (r.queryRefreshTokenNodes userID) r).mono ?_ fun _ _ _ => trivial
  rintro _ r' ⟨htokens, hsessions, hle⟩
  refine ⟨fun query => ?_, hsessions, hle⟩
  rw [htokens]
  cases ht : r.refreshTokens.lookup query with
  | none => simp
  | some t => grind [mem_queryRefreshTokenNodes]

lemma changePassword_ensures (profile : ProfileService) (hnames : SessionNames r)
    (userID currentPassword newPassword : String) :
    Returns p (profile.changePassword userID currentPassword newPassword) (fun _ r' => TokensSwept userID r r') r := by
  refine .past fun _ => ?_
  refine .getUser trivial fun _ => ?_
  cases r.getUser userID with
  | none => trivial
  | some user =>
    refine .check (fun _ _ => ?_) fun _ _ => trivial
    refine .past fun _ => ?_
    refine .past fun _ => ?_
    refine ensures_quiet_bind (leavesSessions_of_looks (hashed_reads _ newPassword)) fun newHash r1 h1 => ?_
    refine .nowMs trivial fun tick => ?_
    refine ensures_quiet_bind (.ask rfl) fun _ r2 h2 => ?_
    have hquiet := h1.trans h2
    refine (revokeNodes_ensures (hquiet.names hnames) userID).seq ?_
    exact fun _ r' hswept => ⟨fun query => by rw [hswept.tokens, hquiet.refreshTokens],
      hswept.sessions.trans hquiet.sessions, hquiet.seq_le.trans hswept.seq_le⟩

/-- A presented token is the one stored under its hash. -/
lemma presentedToken_ensures (kind : EmailTokenKind) (token : String) : Returns p (presentedToken p kind token)
      (fun rec r' => r' = r ∧ r.findEmailTokenByHash kind (p.sha256Hex token) = some rec) r := by
  refine .ask trivial fun tick => ?_
  have hanswer : (handle p (.credential (.findEmailTokenByHash kind (p.sha256Hex token))) tick r) =
      (r.findEmailTokenByHash kind (p.sha256Hex token), r) := by
    cases kind <;> rfl
  rw [hanswer]
  cases r.findEmailTokenByHash kind (p.sha256Hex token) with
  | none => trivial
  | some rec =>
    refine .past fun _ => ?_
    refine .ite (fun _ => ?_) fun _ => ⟨rfl, rfl⟩
    refine .nowMs trivial fun _ => ?_
    exact .past fun _ => ⟨rfl, rfl⟩

section
variable (hmode : s.revocationModeSession = true)
include hmode

lemma confirmPasswordReset_ensures (hkeyed : Keyed r) (hnames : SessionNames r) (token newPassword : String) :
    Returns p (s.confirmPasswordReset p token newPassword)
      (fun _ r' => ∃ rec, r.findEmailTokenByHash .passwordReset (p.sha256Hex token) = some rec ∧
        Swept rec.userID r r') r := by
  refine .past fun _ => ?_
  refine .past fun _ => ?_
  refine .check (fun _ _ => ?_) fun _ _ => trivial
  refine (presentedToken_ensures .passwordReset token).seq ?_
  rintro rec r0 ⟨rfl, hfound⟩
  refine .getUser trivial fun _ => ?_
  cases huser : r0.getUser rec.userID with
  | none => trivial
  | some user =>
    refine .ite (fun _ => ?_) fun _ => ?_
    · refine .nowMs trivial fun _ => ?_
      exact ensures_throw_after _ _
    refine .check (fun _ _ => ?_) fun _ _ => trivial
    refine ensures_quiet_bind (leavesSessions_of_looks (hashed_reads _ newPassword)) fun pwHash r1 h1 => ?_
    refine .nowMs trivial fun tick => ?_
    refine ensures_quiet_bind (makes_attemptRequest rfl) fun _ r2 h2 => ?_
    refine ensures_quiet_bind (.attempt (makes_attemptRequest rfl)) fun _ r3 h3 => ?_
    have hquiet := (h1.trans h2).trans h3
    refine (revokeUserSessions_ensures hmode (hquiet.names hnames) user.id).mono ?_ fun _ _ _ => trivial
    intro _ r' hswept
    exact ⟨rec, hfound, hkeyed.users _ user huser ▸ hquiet.swept hswept⟩

lemma changeEmailOf_ensures (hnames : SessionNames r) (rec : EmailTokenRecord) (user : User) (newEmail : String) :
    Returns p (s.changeEmailOf rec user newEmail) (fun _ r' => Swept user.id r r') r := by
  refine .check (fun _ _ => ?_) fun _ _ => trivial
  refine .check (fun _ _ => ?_) fun _ _ => trivial
  refine .nowMs trivial fun tick => ?_
  refine ensures_quiet_bind (makes_attemptRequest rfl) fun _ r1 h1 => ?_
  refine ensures_quiet_bind (leavesSessions_of_account s user (s.reissueAddressAfterEmailChange_completes _).makes)
    fun _ r2 h2 => ?_
  refine ensures_quiet_bind (.attempt (makes_attemptRequest rfl)) fun _ r3 h3 => ?_
  have hquiet := (h1.trans h2).trans h3
  have hrevoked := revokeUserSessions_ensures (p := p) hmode (hquiet.names hnames) user.id
  have hlast := runs_bind.mp hrevoked
  refine .bind (hlast.mono (fun _ r4 h4 => ?_) fun _ _ _ => trivial)
  exact .bind (h4.mono (fun _ _ hswept => hquiet.swept hswept) fun _ _ _ => trivial)

lemma confirmEmailChange_ensures (hkeyed : Keyed r) (hnames : SessionNames r) (token : String) :
    Returns p (s.confirmEmailChange p token)
      (fun _ r' => ∃ rec, r.findEmailTokenByHash .emailChange (p.sha256Hex token) = some rec ∧
        Swept rec.userID r r') r := by
  refine .past fun _ => ?_
  refine (presentedToken_ensures .emailChange token).seq ?_
  rintro rec r0 ⟨rfl, hfound⟩
  refine .getUser trivial fun _ => ?_
  cases huser : r0.getUser rec.userID with
  | none => trivial
  | some user =>
    generalize emailaddr.mailbox s.toASCII rec.newEmail = box
    refine .past fun _ => ?_
    refine .ask trivial fun _ => ?_
    refine .past fun _ => ?_
    refine (changeEmailOf_ensures hmode hnames rec user box.1).mono (fun _ r' hswept => ?_) fun _ _ _ => trivial
    exact ⟨rec, hfound, hkeyed.users _ user huser ▸ hswept⟩

end

lemma authorizeGuardianAction_ensures (guardianUserID childUserID stepUpPassword : String) :
    Returns p (s.authorizeGuardianAction guardianUserID childUserID stepUpPassword)
      (fun child r' => r' = r ∧ r.getUser (strings.trimSpace childUserID) = some child) r := by
  refine .past fun _ => ?_
  generalize strings.trimSpace childUserID = child
  refine .past fun _ => ?_
  refine .attemptRequest trivial fun tick => ⟨fun edge _ => ?_, fun _ _ => trivial⟩
  have hsame : (handle p (.guardian (.getGuardianEdge guardianUserID child)) tick r).2 = r := rfl
  rw [hsame]
  refine .past fun _ => ?_
  refine .getUser trivial fun _ => ?_
  cases r.getUser guardianUserID with
  | none => trivial
  | some guardian =>
    refine .past fun _ => ?_
    refine .past fun _ => ?_
    refine .getUser trivial fun _ => ?_
    cases r.getUser child with
    | none => trivial
    | some found =>
      refine .nowMs trivial fun _ => ?_
      exact .past fun _ => ⟨rfl, rfl⟩

lemma setManagedChildPassword_ensures (hkeyed : Keyed r) (hnames : SessionNames r)
    (guardianUserID childUserID newPassword stepUpPassword : String) :
    Returns p (s.setManagedChildPassword guardianUserID childUserID newPassword stepUpPassword)
      (fun _ r' => Swept (strings.trimSpace childUserID) r r') r := by
  refine (authorizeGuardianAction_ensures guardianUserID childUserID stepUpPassword).seq ?_
  rintro child r0 ⟨rfl, hchild⟩
  rw [← hkeyed.users _ child hchild]
  refine .check (fun _ _ => ?_) fun _ _ => trivial
  refine ensures_quiet_bind (leavesSessions_of_looks (hashed_reads _ newPassword)) fun pwHash r1 h1 => ?_
  refine .nowMs trivial fun tick => ?_
  refine ensures_quiet_bind (makes_attemptRequest rfl) fun _ r2 h2 => ?_
  have hquiet := h1.trans h2
  refine .ask trivial fun tick1 => ?_
  refine runs_ask.mpr ⟨trivial, fun _ => hquiet.swept ?_⟩
  exact (deleteRefreshTokensForUser_swept r2 tick1.now child.id).revoked (hquiet.names hnames) tick.pos

/-! A required change proves a second factor first and signs in afterwards. -/

lemma recordFailedLogin_quiet (user : User) : (s.recordFailedLogin user).Makes fun q => q.leavesSessions = true := by
  refine .bind (makes_attemptRequest rfl) fun count => .ite (fun _ => ?_) fun _ => .pure _
  exact .bind (makes_nowMs rfl) fun _ => .bind (makes_attemptRequest rfl) fun _ => .pure _

lemma useRecoveryCode_quiet (userID codeHash : String) :
    (AuthService.useRecoveryCode userID codeHash).Makes fun q => q.leavesSessions = true := by
  refine .ite (fun _ => .pure _) fun _ => .bind (.ask rfl) fun found => ?_
  cases found with
  | none => exact .pure _
  | some rc =>
    refine .ite (fun _ => .pure _) fun _ => .bind (makes_nowMs rfl) fun now => ?_
    exact .bind (.attempt (makes_attemptRequest rfl)) fun _ => .pure _

lemma verifySecondFactorCode_quiet (userID code : String) :
    (s.verifySecondFactorCode userID code).Makes fun q => q.leavesSessions = true := by
  refine .bind (.ask rfl) fun found => ?_
  cases found with
  | none => exact .throw _
  | some cred =>
    refine .past fun _ => .bind ?_ fun method => ?_
    · refine .ite (fun _ => .pure _) fun _ => (useRecoveryCode_quiet userID _).bind fun used => ?_
      exact .ite (fun _ => .pure _) fun _ => .throw _
    · refine .bind (makes_nowMs rfl) fun now => ?_
      exact .bind (.attempt (makes_attemptRequest rfl)) fun _ => .pure _

lemma proveSecondFactor_quiet (user : User) (policyForced : Bool) (code : String) :
    (s.proveSecondFactor user policyForced code).Makes fun q => q.leavesSessions = true := by
  refine .ite (fun _ => ?_) fun _ => .pure ()
  refine .bind ?_ fun _ => ((verifySecondFactorCode_quiet user.id code).attempt).bind fun result => ?_
  · refine .ite (fun _ => .pure ()) fun _ => .bind (.ask rfl) fun cred => ?_
    exact makes_refuseIf _
  cases result with
  | ok _ => exact .pure ()
  | error err =>
    exact ((recordFailedLogin_quiet user).attempt.bind fun _ => .pure ()).bind fun _ => .throw err

lemma completeRequiredPasswordChange_ensures (hmode : s.revocationModeSession = true) (hkeyed : Keyed r)
    (hnames : SessionNames r) (completionToken newPassword secondFactorCode : String) (client : ClientInfo) :
    Returns p (s.completeRequiredPasswordChange p completionToken newPassword secondFactorCode client)
      (fun _ r' => ∃ claims, s.verifyPurposeTicket tokenPurposePasswordChange completionToken = .ok claims ∧
        SessionsEnd claims.sub r r') r := by
  refine .check (fun claims hclaims => ?_) fun _ _ => trivial
  refine .past fun _ => ?_
  refine .getUser trivial fun _ => ?_
  cases huser : r.getUser claims.sub with
  | none => trivial
  | some user =>
    refine .past fun _ => ?_
    refine ensures_quiet_bind (leavesSessions_of_looks (s.postPasswordGates_reads user true))
      fun policyForced r1 h1 => ?_
    refine .past fun _ => ?_
    refine .check (fun _ _ => ?_) fun _ _ => trivial
    refine .past fun _ => ?_
    refine ensures_quiet_bind (proveSecondFactor_quiet user policyForced secondFactorCode) fun _ r2 h2 => ?_
    refine ensures_quiet_bind (leavesSessions_of_looks (hashed_reads _ newPassword)) fun pwHash r3 h3 => ?_
    refine .nowMs trivial fun tick => ?_
    refine ensures_quiet_bind (makes_attemptRequest rfl) fun _ r4 h4 => ?_
    have hquiet := ((h1.trans h2).trans h3).trans h4
    have hlast := runs_bind.mp (revokeUserSessions_ensures (p := p) hmode (hquiet.names hnames) user.id)
    refine .bind (hlast.mono (fun _ r5 h5 => ?_) fun _ _ _ => trivial)
    refine .bind (h5.mono (fun _ r6 hswept => ?_) fun _ _ _ => trivial)
    refine .nowMs trivial fun _ => ?_
    refine (issueSignInTokens_mints hmode p _ client _ _ r6).seq ?_
    rintro issued r' ⟨sid, hminted⟩
    exact ⟨claims, hclaims, hkeyed.users _ user huser ▸ (hquiet.swept hswept).minted hnames hminted⟩

/-- What a call that succeeds leaves: the tokens gone, and the rows too unless it goes
    through the nodes. -/
lemma CredentialCall.ensures (hmode : s.revocationModeSession = true) (profile : ProfileService) (hkeyed : Keyed r)
    (hnames : SessionNames r) (call : CredentialCall) : Returns p (call.program p s profile)
      (fun _ r' => ∃ userID, call.account p s r = some userID ∧
        if call.viaNodes then TokensSwept userID r r' else SessionsEnd userID r r') r := by
  cases call with
  | changePassword userID currentPassword newPassword =>
    exact (changePassword_ensures profile hnames userID currentPassword newPassword).mono
      (fun _ _ hswept => ⟨userID, rfl, hswept⟩) fun _ _ _ => trivial
  | revokeAllSessions userID password =>
    refine .bind (.past fun _ => .getUser trivial fun _ => ?_)
    cases r.getUser userID with
    | none => trivial
    | some user =>
      exact .past fun _ => (revokeNodes_ensures hnames userID).mono (fun _ _ hswept => ⟨userID, rfl, hswept⟩)
        fun _ _ _ => trivial
  | confirmPasswordReset token newPassword =>
    refine (confirmPasswordReset_ensures hmode hkeyed hnames token newPassword).mono ?_ fun _ _ _ => trivial
    rintro _ r' ⟨rec, hfound, hswept⟩
    exact ⟨rec.userID, by rw [account, hfound, Option.map_some], hswept.sessionsEnd⟩
  | confirmEmailChange token =>
    refine (confirmEmailChange_ensures hmode hkeyed hnames token).seq ?_
    rintro _ r' ⟨rec, hfound, hswept⟩
    exact ⟨rec.userID, by rw [account, hfound, Option.map_some], hswept.sessionsEnd⟩
  | completeRequiredPasswordChange completionToken newPassword secondFactorCode client =>
    refine (completeRequiredPasswordChange_ensures hmode hkeyed hnames completionToken newPassword
      secondFactorCode client).seq ?_
    rintro _ r' ⟨claims, hclaims, hend⟩
    exact ⟨claims.sub, by rw [account, hclaims], hend⟩
  | setManagedChildPassword guardianUserID childUserID newPassword stepUpPassword =>
    exact (setManagedChildPassword_ensures hkeyed hnames guardianUserID childUserID newPassword stepUpPassword).mono
      (fun _ _ hswept => ⟨_, rfl, hswept.sessionsEnd⟩) fun _ _ _ => trivial

end Calls

/-- A credential change that succeeds, from any store that requests can lead to, ends
    every session the user had and touches nobody else's: always for the four calls that
    revoke session rows, and for ChangePassword and RevokeAllSessions exactly when the
    user has no live session row. -/
theorem credential_change_ends_sessions (p : Platform) (s : AuthService) (hmode : s.revocationModeSession = true)
    (profile : ProfileService) (ops : List (Request × Tick)) (hops : ∀ op ∈ ops, op.1.Admissible)
    (call : CredentialCall)
    {inputs rest : Stream' Tick} {r' : Repo}
    (hexec : (call.program p s profile).call.exec (handle p) inputs (run p new ops) = (.ok (), rest, r')) :
    ∃ userID, call.account p s (run p new ops) = some userID ∧ (SessionsEnd userID (run p new ops) r' ↔
        (call.viaNodes = true → NoLiveSession userID (run p new ops))) := by
  have hkeyed := (run_advances p inv_new ops hops).inv.keyed
  obtain ⟨userID, haccount, hstore⟩ := ensures_exec (call.ensures hmode profile hkeyed (run_sessionNames p ops)) hexec
  refine ⟨userID, haccount, ?_⟩
  cases hnodes : call.viaNodes with
  | true => grind
  | false =>
    rw [if_neg (by simp [hnodes])] at hstore
    simp [hstore]

def sampleProfile : ProfileService where
  passwords := samplePasswords

def samplePasswordMember : User where
  id := "alice"
  status := "active"
  kind := .person
  email := "a@b.com"
  passwordHash := sampleHash

def sampleRefreshToken : RefreshTokenRecord where
  tokenHash := tokenPlatform.sha256Hex "refresh-1"
  userID := "alice"
  expiresAt := 1000
  createdAt := 3
  lastUsedAt := 3
  sessionStartedAt := 3
  sid := "sid-1"

def samplePasswordReset : EmailTokenRecord where
  tokenHash := tokenPlatform.sha256Hex "reset-1"
  userID := "alice"
  email := "a@b.com"
  expiresAt := 1000
  createdAt := 1

/-- A signed-in person who has asked for a password reset. -/
def sampleSignedIn : List (Request × Tick) :=
  [(.user (.createUser samplePasswordMember), sampleTick),
   (.session (.createSession { sid := "sid-1", userID := "alice", createdAtMs := 3 }), sampleTick),
   (.session (.createRefreshToken sampleRefreshToken), sampleTick),
   (.credential (.createEmailToken .passwordReset samplePasswordReset), sampleTick)]

lemma sampleSignedIn_admissible : ∀ op ∈ sampleSignedIn, op.1.Admissible := by
  intro op hop
  simp only [sampleSignedIn, List.mem_cons, List.not_mem_nil, or_false] at hop
  obtain rfl | rfl | rfl | rfl := hop
  · refine ⟨fun ms hms => absurd hms List.not_mem_nil, fun id hid => ?_⟩
    obtain rfl := List.mem_singleton.mp hid
    exact ne_memID_of_head "alice" (by decide)
  · refine ⟨?_, fun id hid => by cases hid⟩
    simp [Request.timestamps, SessionRequest.timestamps]
  · exact ⟨fun ms hms => absurd hms List.not_mem_nil, fun id hid => by cases hid⟩
  · refine ⟨?_, fun id hid => by cases hid⟩
    simp [Request.timestamps, CredentialRequest.timestamps, samplePasswordReset]

/-- One of the calls on that person's account. -/
def sampleCredential (call : CredentialCall) : Except Err Unit × Stream' Tick × Repo :=
  (call.program tokenPlatform sampleAuth sampleProfile).call.exec (handle tokenPlatform) (sampleInputs 0 "" "")
    (run tokenPlatform new sampleSignedIn)

/-- A password reset signs the person out. -/
theorem credential_change_ends_sessions_reset : SessionsEnd "alice" (run tokenPlatform new sampleSignedIn)
      (sampleCredential (.confirmPasswordReset "reset-1" "Second-Passw0rd!")).2.2 := by
  have hexec : sampleCredential (.confirmPasswordReset "reset-1" "Second-Passw0rd!") =
      (.ok (), (sampleCredential (.confirmPasswordReset "reset-1" "Second-Passw0rd!")).2.1,
        (sampleCredential (.confirmPasswordReset "reset-1" "Second-Passw0rd!")).2.2) := rfl
  obtain ⟨userID, haccount, hiff⟩ := credential_change_ends_sessions tokenPlatform sampleAuth rfl sampleProfile
    sampleSignedIn sampleSignedIn_admissible (.confirmPasswordReset "reset-1" "Second-Passw0rd!") hexec
  have halice : some "alice" = some userID := haccount
  cases halice
  exact hiff.mpr nofun

/-- Signing out everywhere leaves the session row live. -/
theorem sign_out_everywhere_leaves_session :
    (sampleCredential (.revokeAllSessions "alice" "First-Passw0rd!")).1 = .ok () ∧
      ¬ SessionsEnd "alice" (run tokenPlatform new sampleSignedIn)
        (sampleCredential (.revokeAllSessions "alice" "First-Passw0rd!")).2.2 :=
  ⟨rfl, fun hend => hend.sessions "mem-1" _ _ rfl rfl rfl rfl⟩

end identity.service
