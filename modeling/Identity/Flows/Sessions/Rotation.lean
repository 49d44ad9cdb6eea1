import Identity.Flows.Sessions.Refresh
import Identity.Flows.SignIn.Steps

open identity.repository identity.memory
namespace identity.service

/-- The step at which a call looks its refresh token up. -/
@[grind =]
def tokenLookup (caller : Nat) (hash : String) (found : Option RefreshTokenRecord) : StoreEvent :=
  ⟨caller, .session (.findRefreshTokenByHashIncludingConsumed hash), found⟩

/-- The step at which a call wins a refresh token. -/
@[grind =]
def tokenConsumed (caller : Nat) (hash : String) (atMs : Int) : StoreEvent :=
  ⟨caller, .session (.consumeRefreshTokenByHash hash atMs), .ok ()⟩

/-- The step at which a call stores a refresh token. -/
@[grind =]
def tokenCreated (caller : Nat) (t : RefreshTokenRecord) (id : String) : StoreEvent :=
  ⟨caller, .session (.createRefreshToken t), id⟩

/-- The step at which a call deletes every refresh token of a user. -/
@[grind =]
def tokensDeleted (caller : Nat) (userID : String) : StoreEvent :=
  ⟨caller, .session (.deleteRefreshTokensForUser userID), ()⟩

def ConsumedOwn (caller : Nat) (hash : String) (own : Trace) : Prop :=
  ∃ atMs, tokenConsumed caller hash atMs ∈ own

/-- The requests of a refresh: the lookup comes first, the user's tokens go only when it
    found a consumed one, and a token is stored only after the presented one was won. -/
def RefreshGuard (hash : String) (caller : Nat) (own : Trace) : Request → Prop
  | .session (.findRefreshTokenByHashIncludingConsumed presented) => own = [] ∧ presented = hash
  | .session (.deleteRefreshTokensForUser userID) =>
    ∃ record, own = [tokenLookup caller hash (some record)] ∧ 0 < record.consumedAtMs ∧ record.userID = userID
  | .session (.consumeRefreshTokenByHash presented atMs) =>
    presented = hash ∧ (⟨caller, .clock, atMs⟩ : StoreEvent) ∈ own
  | .session (.createRefreshToken _) => ConsumedOwn caller hash own
  | .user q => q.usersOnly = true
  | _ => True

/-- A call that found its token consumed has deleted the user's tokens. -/
@[grind =]
def ReplaySettled (caller : Nat) (own : Trace) : Prop :=
  ∀ hash record, tokenLookup caller hash (some record) ∈ own → 0 < record.consumedAtMs →
    tokensDeleted caller record.userID ∈ own

/-- What a refresh has done when it returns. -/
def RefreshPost (hash : String) (caller : Nat) (own : Trace)
    (result : Except Err IssuedTokens) : Prop :=
  ReplaySettled caller own ∧ (result.isOk = true → ConsumedOwn caller hash own)

/-- What a refresh asks besides: nothing that changes a refresh token but the deletion of
    one row. -/
inductive RefreshStep : Request → Prop
  | read {q : Request} (hplain : q.isPlain = true) : RefreshStep q
  | account {s : AuthService} {accountID email : String} {q : Request} (hstep : AccountStep s accountID email q) :
      RefreshStep q
  | deleteToken (nodeID : String) : RefreshStep (.session (.deleteRefreshToken nodeID))
  | revokeSession (sid : String) (atMs : Int) : RefreshStep (.session (.revokeSession sid atMs))
  | revokeSessions (userID : String) (atMs : Int) : RefreshStep (.session (.revokeSessionsForUser userID atMs))
  | seen (userID : String) (patch : Fields) : RefreshStep (.user (.updateUser userID patch))
  | openSession (s : SessionRecord) : RefreshStep (.session (.createSession s))

/-- Whether a request looks a refresh token up. -/
def looksUpToken : Request → Bool
  | .session (.findRefreshTokenByHashIncludingConsumed _) => true
  | _ => false

section
variable {hash : String}

lemma ConsumedOwn.mono (hconsumed : ConsumedOwn caller hash own) (hsuffix : own <:+ own') :
    ConsumedOwn caller hash own' := by
  obtain ⟨atMs, hmem⟩ := hconsumed
  exact ⟨atMs, hsuffix.subset hmem⟩

/-- Only a lookup can unsettle. -/
lemma ReplaySettled.cons (hsettled : ReplaySettled caller own) (hnot : looksUpToken q = false)
    (resp : q.Response) : ReplaySettled caller (⟨caller, q, resp⟩ :: own) := by
  intro presented record hmem hconsumed
  rcases List.mem_cons.mp hmem with heq | hold
  · obtain ⟨-, rfl, -⟩ := Event.mk.inj heq
    cases hnot
  · exact .tail _ (hsettled presented record hold hconsumed)

lemma refreshGuard_of_isPlain (hplain : q.isPlain = true) : RefreshGuard hash caller own q := by
  unfold RefreshGuard
  split
  · cases hplain
  · cases hplain
  · cases hplain
  · cases hplain
  · rename_i q
    cases q <;> first | rfl | cases hplain
  · trivial

lemma RefreshStep.guard (hstep : RefreshStep q) : RefreshGuard hash caller own q := by
  cases hstep with
  | read hplain => exact refreshGuard_of_isPlain hplain
  | account hstep =>
    cases hstep with
    | read hplain => exact refreshGuard_of_isPlain hplain
    | _ => exact rfl
  | seen userID patch => exact rfl
  | _ => trivial

lemma looksUpToken_of_isPlain (hplain : q.isPlain = true) : looksUpToken q = false := by
  unfold looksUpToken
  split
  · cases hplain
  · rfl

lemma RefreshStep.not_lookup (hstep : RefreshStep q) : looksUpToken q = false := by
  cases hstep with
  | read hplain => exact looksUpToken_of_isPlain hplain
  | account hstep =>
    cases hstep with
    | read hplain => exact looksUpToken_of_isPlain hplain
    | _ => rfl
  | _ => rfl

variable {α β : Type}

/-- A stretch of such steps, followed by another. -/
lemma refreshes_bind {next : α → ServiceCall β}
    (hflow : flow.Makes RefreshStep) (hsettled : ReplaySettled caller own)
    (hnext : ∀ own' value, own <:+ own' → ReplaySettled caller own' →
      (next value).Keeps caller (RefreshGuard hash caller) ok (fun own' _ => ReplaySettled caller own') own') :
    (flow >>= next).Keeps caller (RefreshGuard hash caller) ok (fun own' _ => ReplaySettled caller own') own := by
  have hlasts : ∀ own' q resp, own <:+ own' ∧ ReplaySettled caller own' → RefreshStep q →
      own <:+ ⟨caller, q, resp⟩ :: own' ∧ ReplaySettled caller (⟨caller, q, resp⟩ :: own') :=
    fun own' q resp h hstep => ⟨h.1.later, h.2.cons hstep.not_lookup resp⟩
  exact hflow.through (P := fun own' => own <:+ own' ∧ ReplaySettled caller own')
    ⟨List.suffix_refl own, hsettled⟩ hlasts
    (fun _ _ _ hstep => hstep.guard) (fun _ _ h => h.2) fun own' value h => hnext own' value h.1 h.2

end

namespace AuthService
variable (p : Platform) (s : AuthService)

lemma refreshStep_of_looks (hlooks : Looks flow) : flow.Makes RefreshStep :=
  hlooks.mono fun _ hplain => .read hplain

lemma refreshStep_of_account (account : User) {flow : ServiceCall α}
    (hflow : flow.Makes (AccountStep s account.id account.email)) : flow.Makes RefreshStep :=
  hflow.mono fun _ hstep => .account hstep

lemma revokeUserSessionsIfModeSession_refreshes (userID : String) :
    (s.revokeUserSessionsIfModeSession userID).Makes RefreshStep :=
  .ite (fun _ => .nowMs (.read rfl) fun _ => .ask (.revokeSessions _ _)) fun _ => .pure ()

lemma revokeSessionIfModeSession_refreshes (sid userID : String) :
    (s.revokeSessionIfModeSession sid userID).Makes RefreshStep := by
  refine .ite (fun _ => .pure ()) fun _ => .ite (fun _ => ?_) fun _ => ?_
  · exact s.revokeUserSessionsIfModeSession_refreshes userID
  · exact .nowMs (.read rfl) fun _ => .ask (.revokeSession _ _)

section
variable (record : RefreshTokenRecord)
include record

lemma endSession_refreshes (refusal : Err) : (s.endSession record refusal).Makes RefreshStep :=
  .bind (.ask (.deleteToken _)) fun _ => (s.revokeSessionIfModeSession_refreshes _ _).bind fun _ => .throw refusal

lemma checkRefreshExpiry_refreshes : (s.checkRefreshExpiry record).Makes RefreshStep :=
  .nowMs (.read rfl) fun _ => .ite (fun _ => s.endSession_refreshes record _) fun _ => .pure ()

variable (user : User)

lemma checkSessionTimeout_refreshes : (s.checkSessionTimeout record user).Makes RefreshStep := by
  refine .nowMs (.read rfl) fun now => ?_
  cases s.refresh.enforceSessionTimeout user.email now record.sessionStartedAt record.lastUsedAt with
  | ok _ => exact .pure ()
  | error err => exact s.endSession_refreshes record err

lemma checkRefreshEmail_refreshes : (s.checkRefreshEmail record user).Makes RefreshStep := by
  unfold checkRefreshEmail
  cases s.enforceVerifiedEmail user with
  | ok _ => exact .pure ()
  | error err => exact (s.revokeSessionIfModeSession_refreshes _ _).bind fun _ => .throw err

lemma checkRefreshAccess_refreshes : (s.checkRefreshAccess record user).Makes RefreshStep := by
  refine .ite (fun _ => ?_) fun _ => .ite (fun _ => ?_) fun _ => .pure ()
  · refine (refreshStep_of_looks (s.checkAgentStanding_reads user)).attempt.bind fun result => ?_
    cases result with
    | ok _ => exact .pure ()
    | error err =>
      refine .ite (fun _ => ?_) fun _ => .throw err
      exact (s.revokeSessionIfModeSession_refreshes _ _).bind fun _ => .throw err
  · exact refreshStep_of_looks (s.enforceAccountAccessLogin_reads user)

lemma refreshGates_refreshes (tenantID : String) : (s.refreshGates record user tenantID).Makes RefreshStep := by
  refine .past fun _ => (s.checkRefreshEmail_refreshes record user).bind fun _ => ?_
  refine .check fun _ => (s.checkRefreshAccess_refreshes record user).bind fun _ => ?_
  refine (refreshStep_of_looks (s.checkAccountStatus_reads user)).attempt.bind fun result => ?_
  cases result with
  | error err => exact .ite (fun _ => .throw err) fun _ => .pure _
  | ok _ =>
    refine .check fun _ => .ite (fun _ => ?_) fun _ => .pure _
    exact .check fun _ => .pure _

lemma settleStatus_refreshes (status : Except Err Unit) : (s.settleStatus record status).Makes RefreshStep := by
  cases status with
  | ok _ => exact .pure ()
  | error err => exact (s.revokeSessionIfModeSession_refreshes _ _).bind fun _ => .throw err

end

variable (user : User)

lemma readmit_refreshes : (s.readmit user).Makes RefreshStep := by
  refine .ite (fun _ => ?_) fun _ => refreshStep_of_looks (s.enforceAccountAccessLogin_reads user)
  refine .nowMs (.read rfl) fun now => ?_
  exact .bind (.attempt (makes_attemptRequest (.seen _ _))) fun _ => .pure ()

lemma openSession_refreshes (now : Int) : (s.openSession user now).Makes RefreshStep := by
  refine .ite (fun _ => .bind (makes_randText (.read rfl)) fun _ => ?_) fun _ => .pure _
  exact .bind (makes_attemptRequest (.openSession _)) fun _ => .pure _

variable (client : ClientInfo)

lemma prepareTokens_refreshes (sessionStartedAtMs authTimeMs : Int)
    (tenantID : String) :
    (s.prepareTokens p user client sessionStartedAtMs authTimeMs tenantID).Makes RefreshStep := by
  refine .past fun _ => .nowMs (.read rfl) fun now => ?_
  refine (refreshStep_of_looks (s.checkStanding_reads user)).bind fun _ => ?_
  refine .check fun _ => .check fun _ => ?_
  refine (s.refreshStep_of_account user (s.ensureCanonicalEmail_completes user).makes).bind fun user1 => ?_
  refine (s.refreshStep_of_account user (s.ensureAccountAddress_completes user1).makes).bind fun user2 => ?_
  refine (s.openSession_refreshes user2 now).bind fun sid => .check fun accessToken => ?_
  exact .bind (makes_randText (.read rfl)) fun _ => .pure _

variable {hash : String}

/-- A token is stored by the last step. -/
lemma issueRotated_keeps (sessionStartedAtMs : Int) (tenantID : String)
    (hsettled : ReplaySettled caller own) (hconsumed : ConsumedOwn caller hash own) :
    (s.issueTokensWithSessionStart p user client sessionStartedAtMs 0 tenantID).Keeps caller (RefreshGuard hash caller)
      (fun own' _ => ReplaySettled caller own' ∧ ConsumedOwn caller hash own')
        (fun own' _ => ReplaySettled caller own')
      own := by
  refine refreshes_bind (s.prepareTokens_refreshes p user client _ _ _) hsettled fun own1 prepared h1 hsettled1 => ?_
  refine ⟨hconsumed.mono h1, fun id => ⟨hsettled1.cons rfl _, ?_⟩⟩
  exact hconsumed.mono h1.later

lemma rotate_keeps (record : RefreshTokenRecord) (user : User) (tenantID : String) (status : Except Err Unit)
    (client : ClientInfo) (hsettled : ReplaySettled caller own) :
    (s.rotate p record user hash tenantID status client).Keeps caller (RefreshGuard hash caller)
      (fun own' _ => ReplaySettled caller own' ∧ ConsumedOwn caller hash own')
        (fun own' _ => ReplaySettled caller own')
      own := by
  refine .nowMs trivial fun now => ?_
  have hclock : ReplaySettled caller (⟨caller, .clock, now⟩ :: own) := hsettled.cons (q := .clock) rfl now
  refine .bind (Routine.keeps_attempt.mpr (keeps_attemptRequest.mpr
    ⟨⟨rfl, .head _⟩, fun resp => ⟨fun value hvalue => ?_, fun err _ => ?_⟩⟩))
  · subst hvalue
    have hsettled1 : ReplaySettled caller (tokenConsumed caller hash now :: ⟨caller, .clock, now⟩ :: own) :=
      hclock.cons (q := .session (.consumeRefreshTokenByHash hash now)) rfl (.ok ())
    have hconsumed : ConsumedOwn caller hash (tokenConsumed caller hash now :: ⟨caller, .clock, now⟩ :: own) :=
      ⟨now, .head _⟩
    refine refreshes_bind (s.settleStatus_refreshes record status) hsettled1 fun own2 _ h2 hsettled2 => ?_
    refine refreshes_bind (s.readmit_refreshes user) hsettled2 fun own3 _ h3 hsettled3 => ?_
    exact s.issueRotated_keeps p user client _ tenantID hsettled3 (hconsumed.mono (h2.trans h3))
  · have hsettled1 := hclock.cons (q := .session (.consumeRefreshTokenByHash hash now)) rfl resp
    exact .ite (fun _ => hsettled1) fun _ => hsettled1

/-- Every refresh keeps to the guard, whatever the store answers. -/
lemma refreshToken_keeps (raw tenantID : String) (client : ClientInfo) (caller : Nat) :
    (s.refreshToken p raw tenantID client).call.Keeps caller (RefreshGuard (p.sha256Hex raw) caller)
      (RefreshPost (p.sha256Hex raw) caller) [] := by
  have hkeeps : (s.refreshToken p raw tenantID client).Keeps caller (RefreshGuard (p.sha256Hex raw) caller)
      (fun own' _ => ReplaySettled caller own' ∧ ConsumedOwn caller (p.sha256Hex raw) own')
      (fun own' _ => ReplaySettled caller own') [] := by
    have hnone : ReplaySettled caller [] := nofun
    refine .refuseIf (fun _ => hnone) fun _ => ?_
    refine .check (fun tenantID _ => ?_) fun _ _ => hnone
    refine .ask ⟨rfl, rfl⟩ fun found => ?_
    cases found with
    | none =>
      intro presented record hmem
      cases List.mem_singleton.mp hmem
    | some record =>
      refine .bind (.ite (fun hreplayed => ?_) fun hunconsumed => ?_)
      · -- a replay: the user's tokens go, and nothing is issued
        refine .ask ⟨record, rfl, hreplayed, rfl⟩ fun _ => ?_
        have hsettled : ReplaySettled caller
            [tokensDeleted caller record.userID, tokenLookup caller (p.sha256Hex raw) (some record)] := by
          intro presented found hmem _
          rcases List.mem_cons.mp hmem with heq | hmem
          · cases heq
          · cases List.mem_singleton.mp hmem
            exact .head _
        exact refreshes_bind (s.revokeUserSessionsIfModeSession_refreshes record.userID) hsettled
          fun own' _ _ hsettled' => hsettled'
      have hsettled : ReplaySettled caller [tokenLookup caller (p.sha256Hex raw) (some record)] := by grind
      refine refreshes_bind (s.checkRefreshExpiry_refreshes record) hsettled fun own1 _ _ hsettled1 => ?_
      refine refreshes_bind (refreshStep_of_looks (looks_getUser record.userID)) hsettled1
        fun own2 user _ hsettled2 => ?_
      cases user with
      | none => exact hsettled2
      | some user =>
        refine refreshes_bind (s.checkSessionTimeout_refreshes record user) hsettled2 fun own3 _ _ hsettled3 => ?_
        refine refreshes_bind (s.refreshGates_refreshes record user tenantID) hsettled3
          fun own4 status _ hsettled4 => ?_
        exact s.rotate_keeps p record user tenantID status client hsettled4
  refine Call.Keeps.mono hkeeps fun own' result hpost => ?_
  cases result with
  | ok issued => exact ⟨hpost.1, fun _ => hpost.2⟩
  | error err => exact ⟨hpost, nofun⟩

end AuthService
end identity.service
