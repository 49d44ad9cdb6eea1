import Identity.Flows.Sessions.Refresh
import Identity.Flows.SignIn.Steps
import Identity.Repository.Delegation
import Identity.Repository.SessionNames

open identity.repository identity.memory
namespace identity.service
open Routine AuthService AList
section
variable {α : Type} {s : AuthService} {q : Request}

/-- No session and no refresh token changed; ids may have been handed out. -/
@[grind]
structure Quiet (r r' : Repo) : Prop extends SameSessions r r' where
  seq_le : r.seq ≤ r'.seq

lemma Quiet.refl (r : Repo) : Quiet r r := ⟨⟨rfl, rfl⟩, le_rfl⟩

lemma Quiet.trans (h12 : Quiet r1 r2) (h23 : Quiet r2 r3) : Quiet r1 r3 :=
  ⟨⟨h23.sessions.trans h12.sessions, h23.refreshTokens.trans h12.refreshTokens⟩, h12.seq_le.trans h23.seq_le⟩

lemma handle_quiet (hleaves : q.leavesSessions = true) (p : Platform) (tick : Tick) (r : Repo) :
    Quiet r (handle p q tick r).2 := ⟨handle_sessions p tick r hleaves, (handle_rowsFrom p q tick r).seq_le⟩

lemma leavesSessions_of_isRead (hread : q.isRead = true) : q.leavesSessions = true := by
  cases q with
  | user q => cases q <;> first | rfl | cases hread
  | session q => exact hread
  | _ => rfl

lemma AccountStep.leavesSessions (hstep : AccountStep s accountID email q) : q.leavesSessions = true := by
  cases hstep with
  | read hread => exact leavesSessions_of_isRead (isRead_of_isPlain hread)
  | _ => rfl

lemma leavesSessions_of_account (s : AuthService) (account : User) {flow : ServiceCall α}
    (hflow : flow.Makes (AccountStep s account.id account.email)) : flow.Makes fun q => q.leavesSessions = true :=
  hflow.mono fun _ hstep => hstep.leavesSessions

lemma leavesSessions_of_looks (hflow : Looks flow) : flow.Makes fun q => q.leavesSessions = true :=
  hflow.mono fun _ hread => leavesSessions_of_isRead (isRead_of_isPlain hread)

/-- A part that leaves sessions alone. -/
lemma ensures_quiet (hflow : flow.Makes fun q => q.leavesSessions = true)
    (r : Repo) : Ensures p flow (fun _ r' => Quiet r r') (fun _ r' => Quiet r r') r := by
  have hstep : ∀ r' q, Quiet r r' → q.leavesSessions = true → True ∧ ∀ tick, Quiet r (handle p q tick r').2 :=
    fun r' q hquiet hleaves => ⟨trivial, fun tick => hquiet.trans (handle_quiet hleaves p tick r')⟩
  exact hflow.runs hstep (.refl r) (fun _ _ h => h) fun _ _ h => h

/-- The same, with what follows it. -/
lemma ensures_quiet_bind (hflow : flow.Makes fun q => q.leavesSessions = true)
    (hnext : ∀ value r', Quiet r r' → Returns p (next value) ok r') : Returns p (flow >>= next) ok r :=
  runs_bind.mpr ((ensures_quiet hflow r).mono hnext fun _ _ _ => trivial)

/-- A session row was opened: its id is new, and its name is the next one. -/
@[grind]
structure Opened (sid : String) (r r' : Repo) : Prop where
  named : sid ≠ ""
  new : ∀ key row, r.sessions.lookup key = some row → row.sid ≠ sid
  tokens : r'.refreshTokens = r.refreshTokens
  session : ∃ n row, r.seq < n ∧ n ≤ r'.seq ∧ row.sid = sid ∧ row.revokedAtMs = 0 ∧
    r'.sessions = r.sessions.insert (memID n) row

lemma Quiet.opened (hquiet : Quiet r1 r2) (hopened : Opened sid r2 r3) :
    Opened sid r1 r3 := by
  obtain ⟨n, row, hlt, hle, hrow⟩ := hopened.session
  have hquietLe := hquiet.seq_le
  refine ⟨hopened.named, ?_, hopened.tokens.trans hquiet.refreshTokens, n, row, by omega, hle, ?_⟩
  · rw [← hquiet.sessions]
    exact hopened.new
  · rw [← hquiet.sessions]
    exact hrow

lemma openSession_ensures (hmode : s.revocationModeSession = true) (p : Platform) (user : User)
    (now : Int) (r : Repo) : Returns p (s.openSession user now) (fun sid r' => Opened sid r r') r := by
  refine .ite (fun _ => ?_) fun hnot => absurd hmode hnot
  refine .randText trivial fun tick => ?_
  refine .attemptRequest trivial fun tick' => ⟨fun id hok => ?_, fun _ _ => trivial⟩
  obtain ⟨hnamed, -, hnew, hstore⟩ := createSession_ok hok
  have hafter : (handle p (.session (.createSession { sid := tick.rand, userID := user.id, createdAtMs := now }))
    tick' r).2 =
      _ := hstore
  refine runs_pure.mpr ⟨hnamed, hnew, by rw [hafter], r.seq + 1,
    { nodeID := memID (r.seq + 1), sid := tick.rand, userID := user.id, createdAtMs := now },
    Nat.lt_succ_self _, by rw [hafter], rfl, rfl, by rw [hafter]⟩

/-- A pair of tokens was minted: a session row, and a refresh token that names it. -/
@[grind]
structure Minted (p : Platform) (sid raw : String) (r r' : Repo) : Prop where
  named : sid ≠ ""
  new : ∀ key row, r.sessions.lookup key = some row → row.sid ≠ sid
  session : ∃ n row, r.seq < n ∧ n ≤ r'.seq ∧ row.sid = sid ∧ row.revokedAtMs = 0 ∧
    r'.sessions = r.sessions.insert (memID n) row
  token : ∃ n t, r.seq < n ∧ n ≤ r'.seq ∧ t.nodeID = memID n ∧ t.tokenHash = p.sha256Hex raw ∧
    t.consumedAtMs = 0 ∧ t.sid = sid ∧ r'.refreshTokens = r.refreshTokens.insert (memID n) t

lemma Minted.quiet (hminted : Minted p sid raw r2 r3)
    (hbefore : Quiet r1 r2) (hafter : Quiet r3 r4) : Minted p sid raw r1 r4 := by
  obtain ⟨n, row, hlt, hle, hsid, hlive, hsessions⟩ := hminted.session
  obtain ⟨m, t, hlt', hle', hname, hhash, hunused, hlink, htokens⟩ := hminted.token
  have hbeforeLe := hbefore.seq_le
  have hafterLe := hafter.seq_le
  refine ⟨hminted.named, ?_, ⟨n, row, by omega, by omega, hsid, hlive, ?_⟩,
    ⟨m, t, by omega, by omega, hname, hhash, hunused, hlink, ?_⟩⟩
  · rw [← hbefore.sessions]
    exact hminted.new
  · rw [hafter.sessions, hsessions, hbefore.sessions]
  · rw [hafter.refreshTokens, htokens, hbefore.refreshTokens]

section
variable (hmode : s.revocationModeSession = true)
include hmode
variable (p : Platform)
variable (user : User)
variable (client : ClientInfo)
variable (sessionStartedAtMs authTimeMs : Int)

/-- The gates and the account's own row come first, then the pair. -/
lemma prepareTokens_ensures (tenantID : String) (r : Repo) :
    Returns p (s.prepareTokens p user client sessionStartedAtMs authTimeMs tenantID)
      (fun prepared r' => Opened prepared.2.sid r r' ∧
        prepared.2.tokenHash = p.sha256Hex prepared.1.refreshToken ∧ prepared.2.consumedAtMs = 0) r := by
  refine .past fun _ => ?_
  refine .nowMs trivial fun tick => ?_
  refine ensures_quiet_bind (leavesSessions_of_looks (s.checkStanding_reads user)) fun _ r1 h1 => ?_
  refine .check (fun _ _ => ?_) fun _ _ => trivial
  refine .check (fun _ _ => ?_) fun _ _ => trivial
  refine ensures_quiet_bind (leavesSessions_of_account s user (s.ensureCanonicalEmail_completes user).makes)
    fun user1 r2 h2 => ?_
  refine ensures_quiet_bind (leavesSessions_of_account s user (s.ensureAccountAddress_completes user1).makes)
    fun user2 r3 h3 => ?_
  refine (openSession_ensures hmode p user2 _ r3).seq fun sid r4 hopened => ?_
  refine .check (fun accessToken _ => ?_) fun _ _ => trivial
  refine .randText trivial fun tick' => ?_
  exact ⟨((h1.trans h2).trans h3).opened hopened, rfl, rfl⟩

lemma issueTokensWithSessionStart_mints (tenantID : String) (r : Repo) :
    Returns p (s.issueTokensWithSessionStart p user client sessionStartedAtMs authTimeMs tenantID)
      (fun issued r' => ∃ sid, Minted p sid issued.refreshToken r r') r := by
  refine (prepareTokens_ensures hmode p user client _ _ _ r).seq ?_
  rintro prepared r1 ⟨hopened, hhash, hunused⟩
  refine runs_bind.mpr ⟨trivial, fun tick => ?_⟩
  obtain ⟨n, row, hlt, hle, hsid, hlive, hsessions⟩ := hopened.session
  refine ⟨prepared.2.sid, hopened.named, hopened.new, ⟨n, row, hlt, ?_, hsid, hlive, hsessions⟩,
    ⟨r1.seq + 1, { prepared.2 with nodeID := memID (r1.seq + 1) }, by omega, le_rfl, rfl, hhash, hunused, rfl, ?_⟩⟩
  · exact Nat.le_succ_of_le hle
  · rw [← hopened.tokens]
    rfl

lemma issueSignInTokens_mints (r : Repo) : Returns p (s.issueSignInTokens p user client sessionStartedAtMs authTimeMs)
      (fun issued r' => ∃ sid, Minted p sid issued.refreshToken r r') r := by
  refine .past fun _ => ?_
  refine .check (fun _ _ => ?_) fun _ _ => trivial
  refine ensures_quiet_bind (leavesSessions_of_account s user (s.cancelPendingDeletionOnLogin_makes user))
    fun user1 r1 h1 => ?_
  refine (issueTokensWithSessionStart_mints hmode p user1 client _ _ _ r1).seq ?_
  rintro issued r2 ⟨sid, hminted⟩
  refine ensures_quiet_bind (leavesSessions_of_account s user (s.updateLastLogin_completes issued.user.id).makes)
    fun _ r3 h3 => ?_
  exact ⟨sid, hminted.quiet h1 h3⟩

end
end

section Rotation
variable {s : AuthService}
section
variable (record : RefreshTokenRecord)
include record

lemma refuseConsumed_ensures : Returns p (s.refuseConsumed record) (fun _ r' => Quiet r r') r := by
  refine .ite (fun _ => ?_) fun _ => .refl r
  refine runs_bind.mpr ⟨trivial, fun _ => ?_⟩
  exact ensures_throw_after _ _

/-- A refusal that ends the session returns no tokens. -/
lemma endSession_ensures (refusal : Err) : Returns p (s.endSession record refusal) ok r :=
  runs_bind.mpr ⟨trivial, fun _ => ensures_throw_after _ refusal⟩

lemma checkRefreshExpiry_ensures : Returns p (s.checkRefreshExpiry record) (fun _ r' => Quiet r r') r :=
  .nowMs trivial fun _ => .ite (fun _ => endSession_ensures record _) fun _ => .refl r

variable (user : User)

lemma checkSessionTimeout_ensures : Returns p (s.checkSessionTimeout record user) (fun _ r' => Quiet r r') r := by
  refine .nowMs trivial fun tick => ?_
  cases s.refresh.enforceSessionTimeout user.email tick.now record.sessionStartedAt record.lastUsedAt with
  | ok _ => exact .refl r
  | error err => exact endSession_ensures record err

lemma checkRefreshEmail_ensures : Returns p (s.checkRefreshEmail record user) (fun _ r' => Quiet r r') r := by
  unfold checkRefreshEmail
  cases s.enforceVerifiedEmail user with
  | ok _ => exact .refl r
  | error err => exact ensures_throw_after _ err

lemma checkRefreshAccess_ensures : Returns p (s.checkRefreshAccess record user) (fun _ r' => Quiet r r') r := by
  have hlooks : ∀ {α : Type} {flow : ServiceCall α}, Looks flow →
      Ensures p flow (fun _ r' => Quiet r r') (fun _ r' => Quiet r r') r :=
    fun hflow => ensures_quiet (leavesSessions_of_looks hflow) r
  refine .ite (fun _ => ?_) fun _ => .ite (fun _ => ?_) fun _ => .refl r
  · refine .bind (runs_attempt.mpr ((hlooks (s.checkAgentStanding_reads user)).mono ?_ ?_))
    · exact fun _ r' hquiet => hquiet
    · intro err r' _
      exact .ite (fun _ => ensures_throw_after _ err) fun _ => trivial
  · exact (hlooks (s.enforceAccountAccessLogin_reads user)).mono (fun _ _ h => h) fun _ _ _ => trivial

lemma refreshGates_ensures (tenantID : String) :
    Returns p (s.refreshGates record user tenantID) (fun _ r' => Quiet r r') r := by
  refine .past fun _ => ?_
  refine (checkRefreshEmail_ensures record user).seq fun _ r1 h1 => ?_
  refine .check (fun _ _ => ?_) fun _ _ => trivial
  refine (checkRefreshAccess_ensures record user).seq fun _ r2 h2 => ?_
  have hstatus := ensures_quiet (p := p) (leavesSessions_of_looks (s.checkAccountStatus_reads user)) r2
  refine .bind (runs_attempt.mpr (hstatus.mono (fun _ r3 h3 => ?_) fun err r3 h3 => ?_))
  · have hquiet := (h1.trans h2).trans h3
    refine .check (fun _ _ => ?_) fun _ _ => trivial
    refine .ite (fun _ => ?_) fun _ => hquiet
    exact .check (fun _ _ => hquiet) fun _ _ => trivial
  · exact .ite (fun _ => trivial) fun _ => (h1.trans h2).trans h3

lemma settleStatus_ensures (status : Except Err Unit) :
    Returns p (s.settleStatus record status) (fun _ r' => Quiet r r') r := by
  cases status with
  | ok _ => exact .refl r
  | error err => exact ensures_throw_after _ err

end

lemma readmit_ensures (user : User) :
    Ensures p (s.readmit user) (fun _ r' => Quiet r r') (fun _ r' => Quiet r r') r := by
  refine ensures_quiet (.ite (fun _ => ?_) fun _ => ?_) r
  · refine .bind (makes_nowMs rfl) fun now => ?_
    exact .bind (.attempt (makes_attemptRequest rfl)) fun _ => .pure ()
  · exact leavesSessions_of_looks (s.enforceAccountAccessLogin_reads user)

/-- A rotation: the presented token was there unconsumed and is consumed, no session row
    changes, and a new pair is minted. -/
@[grind]
structure Rotated (p : Platform) (hash raw' : String) (r r' : Repo) : Prop where
  step : ∃ key t atMs sid r1, r.refreshTokens.lookup key = some t ∧ t.tokenHash = hash ∧
    r1.refreshTokens = r.refreshTokens.insert key { t with consumedAtMs := atMs } ∧ r1.sessions = r.sessions ∧
    r.seq ≤ r1.seq ∧ Minted p sid raw' r1 r'

lemma Rotated.quiet {hash raw' : String} (hquiet : Quiet r1 r2) (hrotated : Rotated p hash raw' r2 r3) :
    Rotated p hash raw' r1 r3 := by
  obtain ⟨key, t, atMs, sid, r', ht, hhash, htokens, hsessions, hle, hminted⟩ := hrotated.step
  rw [hquiet.refreshTokens] at ht htokens
  exact ⟨key, t, atMs, sid, r', ht, hhash, htokens, hsessions.trans hquiet.sessions, hquiet.seq_le.trans hle, hminted⟩

section
variable (hmode : s.revocationModeSession = true)
include hmode

lemma rotate_ensures (record : RefreshTokenRecord) (user : User)
    (tokenHash tenantID : String) (status : Except Err Unit) (client : ClientInfo) :
    Returns p (s.rotate p record user tokenHash tenantID status client)
      (fun issued r' => Rotated p tokenHash issued.refreshToken r r') r := by
  refine .nowMs trivial fun tick => ?_
  refine .bind (runs_attempt.mpr (runs_attemptRequest.mpr ⟨trivial, fun tick' => ⟨?_, ?_⟩⟩))
  · intro _ hok
    obtain ⟨key, t, ht, hhash, -, hstore⟩ := consumeRefreshTokenByHash_ok hok
    have hafter : (handle p (.session (.consumeRefreshTokenByHash tokenHash tick.now)) tick' r).2 = _ := hstore
    refine (settleStatus_ensures record status).seq fun _ r1 h1 => ?_
    refine (readmit_ensures user).seq fun _ r2 h2 => ?_
    refine (issueTokensWithSessionStart_mints hmode p user client _ _ _ r2).mono ?_ fun _ _ _ => trivial
    grind
  · intro err _
    exact .ite (fun _ => trivial) fun _ => trivial

lemma refreshToken_ensures (raw tenantID : String) (client : ClientInfo) :
    Returns p (s.refreshToken p raw tenantID client)
      (fun issued r' => Rotated p (p.sha256Hex raw) issued.refreshToken r r') r := by
  refine .past fun _ => ?_
  refine .check (fun tenantID _ => ?_) fun _ _ => trivial
  refine .ask trivial fun tick => ?_
  cases (handle p (.session (.findRefreshTokenByHashIncludingConsumed (p.sha256Hex raw))) tick r).1 with
  | none => trivial
  | some record =>
    refine (refuseConsumed_ensures record).seq fun _ r1 h1 => ?_
    refine (checkRefreshExpiry_ensures record).seq fun _ r2 h2 => ?_
    refine .getUser trivial fun _ => ?_
    cases r2.getUser record.userID with
    | none => trivial
    | some user =>
      refine (checkSessionTimeout_ensures record user).seq fun _ r3 h3 => ?_
      refine (refreshGates_ensures record user tenantID).seq fun status r4 h4 => ?_
      refine (rotate_ensures hmode record user _ tenantID status client).mono (fun issued r' hrotated => ?_)
        fun _ _ _ => trivial
      exact hrotated.quiet (((h1.trans h2).trans h3).trans h4)

/-- The token goes, and the session it names is revoked. -/
lemma logout_ensures
    (hfound : r.findRefreshTokenByHash (p.sha256Hex raw) = some record) (hraw : raw ≠ "") (hsid : record.sid ≠ "") :
    Ensures p (s.logout p raw) (fun _ r' => ∃ now atMs, 0 < now ∧ 0 < atMs ∧
        r' = (r.deleteRefreshToken now record.nodeID).revokeSession record.sid atMs) (fun _ _ => False) r := by
  refine .ite (fun hempty => absurd hempty hraw) fun _ => ?_
  refine .ask trivial fun tick => ?_
  have hanswer : (handle p (.session (.findRefreshTokenByHash (p.sha256Hex raw))) tick r).1 = some record := hfound
  rw [hanswer]
  refine .ask trivial fun tick1 => ?_
  refine .ite (fun hnot => ?_) fun _ => .ite (fun hempty => absurd hempty hsid) fun _ => ?_
  · rw [hmode] at hnot
    cases hnot
  · refine .nowMs trivial fun tick2 => ?_
    exact runs_ask.mpr ⟨trivial, fun tick3 => ⟨tick1.now, tick2.now, tick1.pos, tick2.pos, rfl⟩⟩

end
end Rotation

/-- A token the random source has not produced before. -/
@[grind]
structure FreshToken (p : Platform) (raw : String) (r : Repo) : Prop where
  nonempty : raw ≠ ""
  unseen : ∀ key t, r.refreshTokens.lookup key = some t → t.tokenHash ≠ p.sha256Hex raw

/-- The session ids that are in the store after a call and were not before. -/
@[grind =]
def CreatedSession (r r' : Repo) (sid : String) : Prop :=
  (∃ key row, r'.sessions.lookup key = some row ∧ row.sid = sid) ∧
    ∀ key row, r.sessions.lookup key = some row → row.sid ≠ sid

/-- A sign-in and `n` rotations of its tokens, one after the other: the sessions they
    created, the latest refresh token and the store. In between, the store may do
    anything that touches no session and no refresh token. -/
inductive Lineage (p : Platform) (s : AuthService) : Nat → (String → Prop) → String → Repo → Prop
  | signIn {user : User} {client : ClientInfo} {sessionStartedAtMs authTimeMs : Int} {tenantID : String}
      {inputs rest : Stream' Tick} {r r' : Repo} {issued : IssuedTokens}
      (hsigned : (s.issueTokensWithSessionStart p user client sessionStartedAtMs authTimeMs tenantID).call.exec
        (handle p) inputs r = (.ok issued, rest, r'))
      (hfresh : FreshToken p issued.refreshToken r) : Lineage p s 0 (CreatedSession r r') issued.refreshToken r'
  | rotate {n : Nat} {rows : String → Prop} {raw tenantID : String} {client : ClientInfo} {inputs rest : Stream' Tick}
      {r r' : Repo} {issued : IssuedTokens} (hlineage : Lineage p s n rows raw r)
      (hrotated : (s.refreshToken p raw tenantID client).call.exec (handle p) inputs r = (.ok issued, rest, r'))
      (hfresh : FreshToken p issued.refreshToken r) :
      Lineage p s (n + 1) (fun sid => rows sid ∨ CreatedSession r r' sid) issued.refreshToken r'
  | other {n : Nat} {rows : String → Prop} {raw : String} {r : Repo} {q : Request} (tick : Tick)
      (hlineage : Lineage p s n rows raw r) (hleaves : q.leavesSessions = true) :
      Lineage p s n rows raw (handle p q tick r).2

/-- No session of the lineage and no grant consented in one is left. -/
@[grind =]
def LineageEnded (rows : String → Prop) (r : Repo) : Prop :=
  ∀ sid, rows sid → (∀ key row, r.sessions.lookup key = some row → row.sid = sid → row.revokedAtMs ≠ 0) ∧
    GrantsRevoked (fun g => g.machineID == "" && g.humanSID == sid) r

section Held
variable {s : AuthService}

/-- The session has one row, and it is live. -/
@[grind =]
def SoleRow (r : Repo) (sid : String) : Prop :=
  ∃ n row, n ≤ r.seq ∧ r.sessions.lookup (memID n) = some row ∧ row.sid = sid ∧ row.revokedAtMs = 0 ∧
    ∀ key other, r.sessions.lookup key = some other → other.sid = sid → key = memID n

/-- The refresh token is stored once, unconsumed, with the session it was minted with. -/
@[grind =]
def SoleToken (p : Platform) (r : Repo) (raw sid : String) : Prop :=
  ∃ n t, n ≤ r.seq ∧ r.refreshTokens.lookup (memID n) = some t ∧ t.nodeID = memID n ∧ t.tokenHash = p.sha256Hex raw ∧
    t.consumedAtMs = 0 ∧ t.sid = sid ∧
    ∀ key other, r.refreshTokens.lookup key = some other → other.tokenHash = p.sha256Hex raw → key = memID n

/-- Every session of the lineage is live, and the latest token names the last of them. -/
@[grind]
structure Held (p : Platform) (n : Nat) (rows : String → Prop) (raw last : String) (r : Repo) : Prop where
  live : ∀ sid, rows sid → SoleRow r sid
  member : rows last
  named : last ≠ ""
  nonempty : raw ≠ ""
  token : SoleToken p r raw last
  first : n = 0 → ∀ sid, rows sid → sid = last
  earlier : n ≠ 0 → ∃ sid, rows sid ∧ sid ≠ last

lemma SoleRow.quiet (hsole : SoleRow r sid) (hquiet : Quiet r r') : SoleRow r' sid := by grind

lemma SoleToken.quiet (hsole : SoleToken p r raw sid) (hquiet : Quiet r r') :
    SoleToken p r' raw sid := by
  obtain ⟨n, t, hle, hrest⟩ := hsole
  rw [← hquiet.refreshTokens] at hrest
  exact ⟨n, t, hle.trans hquiet.seq_le, hrest⟩

section
variable (hminted : Minted p sid raw r r')
include hminted

/-- A row that was there stays as it was. -/
lemma Minted.soleRow_other (hsole : SoleRow r sid') : SoleRow r' sid' := by
  obtain ⟨n, row, hlt, hle, hsid, hlive, hsessions⟩ := hminted.session
  obtain ⟨n', row', hle', hrow', hsid', hlive', honly'⟩ := hsole
  have hne : memID n' ≠ memID n := fun heq => absurd (memID_injective heq) (by omega)
  refine ⟨n', row', by omega, ?_, hsid', hlive', fun key other hother hsame => ?_⟩
  · rw [hsessions, lookup_insert_ne hne]
    exact hrow'
  rw [hsessions, GoMap.lookup_insert_eq] at hother
  split at hother
  · -- the new row has an id of its own
    grind
  · exact honly' key other hother hsame

lemma Minted.soleToken (hunseen : ∀ key t, r.refreshTokens.lookup key = some t → t.tokenHash ≠ p.sha256Hex raw) :
    SoleToken p r' raw sid := by
  obtain ⟨n, t, hlt, hle, hname, hhash, hunused, hlink, htokens⟩ := hminted.token
  refine ⟨n, t, hle, ?_, hname, hhash, hunused, hlink, fun key other hother hsame => ?_⟩
  · rw [htokens, lookup_insert]
  · grind

lemma Minted.created (sid' : String) : CreatedSession r r' sid' ↔ sid' = sid := by
  constructor
  · grind
  · grind [lookup_insert]

lemma Minted.held (hfresh : FreshToken p raw r) : Held p 0 (CreatedSession r r') raw sid r' where
  live sid' hcreated := by
    grind
  member := (hminted.created sid).mpr rfl
  named := hminted.named
  nonempty := hfresh.nonempty
  token := hminted.soleToken hfresh.unseen
  first _ sid' hcreated := (hminted.created sid').mp hcreated
  earlier hne := absurd rfl hne

end

/-- A rotation adds a session to the lineage and ends none. -/
lemma Held.rotate
    (hheld : Held p n rows raw last r) (hrotated : Rotated p (p.sha256Hex raw) raw' r r') (hfresh :
      FreshToken p raw' r) :
    ∃ last', Held p (n + 1) (fun sid => rows sid ∨ CreatedSession r r' sid) raw' last' r' := by
  obtain ⟨key, t, atMs, sid, r1, ht, -, htokens, hsessions, hle, hminted⟩ := hrotated.step
  have hunseen : ∀ key' t', r1.refreshTokens.lookup key' = some t' → t'.tokenHash ≠ p.sha256Hex raw' := by grind
  have hcreated : ∀ sid', CreatedSession r r' sid' ↔ sid' = sid := by
    intro sid'
    rw [← hminted.created sid', CreatedSession, CreatedSession, hsessions]
  refine ⟨sid, ?_, .inr ((hcreated sid).mpr rfl), hminted.named, hfresh.nonempty, hminted.soleToken hunseen,
    by simp, ?_⟩
  · grind [hminted.soleRow_other]
  · grind

lemma Held.quiet (hheld : Held p n rows raw last r) (hquiet : Quiet r r') : Held p n rows raw last r' :=
  { hheld with
    live := fun sid hrow => (hheld.live sid hrow).quiet hquiet
    token := hheld.token.quiet hquiet }

/-- What an execution that returned tokens ensures. -/
lemma ensures_exec (hflow : Ensures p flow ok fails r)
    (hexec : flow.call.exec (handle p) inputs r = (.ok value, rest, r')) : ok value r' := by
  have hpost := Call.Runs.exec hflow inputs
  rw [hexec] at hpost
  exact hpost

lemma SoleToken.found (hsole : SoleToken p r raw sid) :
    ∃ t, r.findRefreshTokenByHash (p.sha256Hex raw) = some t ∧ t.sid = sid := by
  obtain ⟨n, t, -, ht, -, hhash, hunused, hsid, honly⟩ := hsole
  refine ⟨t, GoMap.findRow_eq_some_of_unique ht (by simp [hhash, hunused]) fun key other hother hmatch => ?_, hsid⟩
  simp only [Bool.and_eq_true, beq_iff_eq] at hmatch
  rw [honly key other hother hmatch.1, ht] at hother
  exact (Option.some.inj hother).symm

section
variable (hmode : s.revocationModeSession = true)
include hmode

lemma Lineage.held (hlineage : Lineage p s n rows raw r) : ∃ last, Held p n rows raw last r := by
  induction hlineage with
  | signIn hsigned hfresh =>
    obtain ⟨sid, hminted⟩ := ensures_exec (issueTokensWithSessionStart_mints hmode p _ _ _ _ _ _) hsigned
    exact ⟨sid, hminted.held hfresh⟩
  | rotate _ hrotated hfresh ih =>
    obtain ⟨last, hheld⟩ := ih
    have hstep := ensures_exec (refreshToken_ensures hmode _ _ _) hrotated
    exact hheld.rotate hstep hfresh
  | other tick _ hleaves ih =>
    obtain ⟨last, hheld⟩ := ih
    exact ⟨last, hheld.quiet (handle_quiet hleaves p tick _)⟩

section
variable (hheld : Held p n rows raw last r) (inputs : Stream' Tick)
include hheld

/-- Signing out with the latest token deletes it and ends the row of the last session. -/
lemma Held.logout_store :
    ∃ (r1 : Repo) (key : String) (row : SessionRecord) (atMs : Int), 0 < atMs ∧ r1.sessions = r.sessions ∧
      r.sessions.lookup key = some row ∧ row.sid = last ∧
      row.revokedAtMs = 0 ∧ (∀ query other, r.sessions.lookup query = some other → other.sid = last → query = key) ∧
      ((s.logout p raw).call.exec (handle p) inputs r).2.2 = r1.revokeSessionRow key atMs := by
  obtain ⟨t, hfound, rfl⟩ := hheld.token.found
  obtain ⟨m, row, -, hrow, hsid, hlive, honly⟩ := hheld.live _ hheld.member
  have hexec := Call.Runs.exec (logout_ensures (s := s) hmode hfound hheld.nonempty hheld.named) inputs
  cases hresult : ((s.logout p raw).call.exec (handle p) inputs r).1 with
  | error err =>
    rw [hresult] at hexec
    exact hexec.elim
  | ok _ =>
    rw [hresult] at hexec
    obtain ⟨now, atMs, -, hpos, hstore⟩ := hexec
    have hsessions := deleteRefreshToken_sessions r now t.nodeID
    refine ⟨r.deleteRefreshToken now t.nodeID, memID m, row, atMs, hpos, hsessions, hrow, hsid, hlive, honly, ?_⟩
    grind [revokeSession_some]

lemma Held.logout :
    LineageEnded (· = last) ((s.logout p raw).call.exec (handle p) inputs r).2.2 ∧
      ∀ sid, rows sid → sid ≠ last → ∃ key row,
        ((s.logout p raw).call.exec (handle p) inputs r).2.2.sessions.lookup key = some row ∧ row.sid = sid ∧
          row.revokedAtMs = 0 := by
  obtain ⟨r1, key, row, atMs, hpos, hsessions, hrow, hsid, hlive, honly, hstore⟩ := hheld.logout_store hmode inputs
  rw [hstore]
  refine ⟨?_, fun sid hmember hne => ?_⟩
  · rintro _ rfl
    refine ⟨fun query other hother hsame => ?_, ?_⟩
    · grind [lookup_revokeSessionRow, endedRow_revoked]
    rw [← hsessions] at hrow
    rw [Repo.revokeSessionRow, hrow]
    dsimp only
    rw [if_pos hlive, hsid]
    exact revokeGrants_grantsRevoked _ _ hpos
  obtain ⟨m, found, -, hfound, hname, hfoundLive, -⟩ := hheld.live sid hmember
  refine ⟨memID m, found, ?_, hname, hfoundLive⟩
  grind [lookup_revokeSessionRow]

end
end
end Held

/-- Sign-out ends the sessions of a sign-in exactly when its tokens were never rotated:
    a rotation leaves the row of the token it consumes, and sign-out revokes only the row
    of the token it is given. -/
theorem sign_out_ends_lineage (p : Platform) (s : AuthService) (hmode : s.revocationModeSession = true) {n : Nat}
    {rows : String → Prop} {raw : String} {r : Repo} (hlineage : Lineage p s n rows raw r) (inputs : Stream' Tick) :
    LineageEnded rows ((s.logout p raw).call.exec (handle p) inputs r).2.2 ↔ n = 0 := by
  obtain ⟨last, hheld⟩ := hlineage.held hmode
  obtain ⟨hlast, hothers⟩ := hheld.logout hmode inputs
  constructor
  · grind
  · grind

/-- A person who can sign in. -/
def sampleMember : User := { id := "alice", status := "active", kind := .person }

def sampleMemberStore : Repo := run tokenPlatform new [(.user (.createUser sampleMember), sampleTick)]

/-- What the random source produces: a session id at one step, a refresh token later. -/
def sampleInputs (step : Nat) (sid token : String) : Stream' Tick :=
  fun n => ⟨20, sampleTick.pos, if n = step then sid else token⟩

def sampleClientInfo : ClientInfo := ⟨"", ""⟩

def sampleSignIn : Except Err IssuedTokens × Stream' Tick × Repo :=
  (sampleAuth.issueTokensWithSessionStart tokenPlatform sampleMember sampleClientInfo 0 0 "").call.exec
    (handle tokenPlatform) (sampleInputs 2 "sid-1" "refresh-1") sampleMemberStore

def sampleRotation : Except Err IssuedTokens × Stream' Tick × Repo :=
  (sampleAuth.refreshToken tokenPlatform "refresh-1" "" sampleClientInfo).call.exec (handle tokenPlatform)
    (sampleInputs 8 "sid-2" "refresh-2") sampleSignIn.2.2

lemma sampleSignIn_lineage :
    Lineage tokenPlatform sampleAuth 0 (CreatedSession sampleMemberStore sampleSignIn.2.2) "refresh-1"
      sampleSignIn.2.2 := by
  have hsigned : sampleSignIn = (.ok ⟨sampleMember, "access-token", "refresh-1"⟩, sampleSignIn.2.1,
    sampleSignIn.2.2) := rfl
  exact .signIn hsigned ⟨by decide, nofun⟩

lemma sampleRotation_lineage : Lineage tokenPlatform sampleAuth 1
      (fun sid => CreatedSession sampleMemberStore sampleSignIn.2.2 sid ∨
        CreatedSession sampleSignIn.2.2 sampleRotation.2.2 sid)
      "refresh-2" sampleRotation.2.2 := by
  have hrotated : sampleRotation = (.ok ⟨sampleMember, "access-token", "refresh-2"⟩, sampleRotation.2.1,
    sampleRotation.2.2) :=
    rfl
  refine .rotate sampleSignIn_lineage hrotated ⟨by decide, fun key t ht => ?_⟩
  obtain ⟨-, rfl⟩ := GoMap.lookup_single ht
  decide

/-- A sign-in whose tokens were never rotated is ended by signing out. -/
theorem sign_out_ends_lineage_unrotated : LineageEnded (CreatedSession sampleMemberStore sampleSignIn.2.2)
      ((sampleAuth.logout tokenPlatform "refresh-1").call.exec (handle tokenPlatform) (sampleInputs 0 "" "")
        sampleSignIn.2.2).2.2 :=
  (sign_out_ends_lineage tokenPlatform sampleAuth rfl sampleSignIn_lineage _).mpr rfl

/-- After one rotation, signing out leaves the session of the sign-in live. -/
theorem sign_out_leaves_rotated_session :
    ∃ rows, Lineage tokenPlatform sampleAuth 1 rows "refresh-2" sampleRotation.2.2 ∧
      ¬ LineageEnded rows ((sampleAuth.logout tokenPlatform "refresh-2").call.exec (handle tokenPlatform)
        (sampleInputs 0 "" "") sampleRotation.2.2).2.2 := by
  refine ⟨_, sampleRotation_lineage, fun hended => ?_⟩
  have hcreated : CreatedSession sampleMemberStore sampleSignIn.2.2 "sid-1" := ⟨⟨"mem-1", _, rfl, rfl⟩, nofun⟩
  exact (hended "sid-1" (.inl hcreated)).1 "mem-1" _ rfl rfl rfl

end identity.service
