import Identity.Memory.Authority.Merge
import Identity.Repository.Frame

open identity.service identity.memory
namespace identity.repository
open GoMap

/-- Every session row and refresh token after a step was there before it, with the same
    owner or name, or was stored by it under a name that was handed out meanwhile. -/
@[grind]
structure RowsFrom (r r' : Repo) : Prop where
  seq_le : r.seq ≤ r'.seq
  tokens : ∀ key t', r'.refreshTokens.lookup key = some t' →
    (∃ t, r.refreshTokens.lookup key = some t ∧ t'.nodeID = t.nodeID) ∨
      ∃ n, r.seq < n ∧ n ≤ r'.seq ∧ key = memID n ∧ t'.nodeID = key
  sessions : ∀ key s', r'.sessions.lookup key = some s' →
    (∃ s, r.sessions.lookup key = some s ∧ s'.userID = s.userID) ∨
      ∃ n, r.seq < n ∧ n ≤ r'.seq ∧ key = memID n ∧ s'.userID ≠ ""

namespace RowsFrom

lemma of_same (hsame : SameSessions r r') (hseq : r.seq ≤ r'.seq) : RowsFrom r r' where
  seq_le := hseq
  tokens := fun _ t' ht' => .inl ⟨t', hsame.refreshTokens ▸ ht', rfl⟩
  sessions := fun _ s' hs' => .inl ⟨s', hsame.sessions ▸ hs', rfl⟩

@[refl] lemma refl (r : Repo) : RowsFrom r r := of_same (.refl r) le_rfl

lemma trans (h12 : RowsFrom r1 r2) (h23 : RowsFrom r2 r3) : RowsFrom r1 r3 := by grind

/-- A step that hands out no name and only changes rows or takes them away. -/
lemma of_rows (hseq : r'.seq = r.seq) (htokens : ∀ key t', r'.refreshTokens.lookup key = some t' →
      ∃ t, r.refreshTokens.lookup key = some t ∧ t'.nodeID = t.nodeID)
    (hsessions : ∀ key s', r'.sessions.lookup key = some s' →
      ∃ s, r.sessions.lookup key = some s ∧ s'.userID = s.userID) : RowsFrom r r' :=
  ⟨by rw [hseq], fun key t' ht' => .inl (htokens key t' ht'), fun key s' hs' => .inl (hsessions key s' hs')⟩

end RowsFrom

/-! The session operations. -/

lemma createSession_rowsFrom (r : Repo) (s : SessionRecord) : RowsFrom r (r.createSession s).2 := by
  unfold Repo.createSession
  split
  · rfl
  split
  · rfl
  rename_i howner
  split
  · rfl
  refine ⟨Nat.le_succ _, fun key t' ht' => .inl ⟨t', ht', rfl⟩, fun key s' hs' => ?_⟩
  have hlookup : (r.sessions.insert (memID (r.seq + 1)) { s with nodeID := memID (r.seq + 1) }).lookup key =
    some s' := hs'
  rw [lookup_insert_eq] at hlookup
  split at hlookup
  · rename_i hkey
    cases hlookup
    exact .inr ⟨r.seq + 1, Nat.lt_succ_self _, le_rfl, hkey, howner⟩
  · exact .inl ⟨s', hlookup, rfl⟩

lemma endedRow_userID (atMs : Int) (s : SessionRecord) : (endedRow atMs s).userID = s.userID := by
  unfold endedRow
  split
  · rfl
  · rfl

section
variable (r : Repo) (key : String) (atMs : Int)

lemma revokeSessionRow_seq : (r.revokeSessionRow key atMs).seq = r.seq := by
  unfold Repo.revokeSessionRow
  split
  · rfl
  split
  · rfl
  · rfl

lemma revokeSessionRow_rowsFrom : RowsFrom r (r.revokeSessionRow key atMs) := by
  grind [revokeSessionRow_seq, revokeSessionRow_refreshTokens, lookup_revokeSessionRow, Option.map_eq_some_iff,
    endedRow_userID]

end

lemma foldl_rowsFrom {step : Repo → α → Repo} (hstep : ∀ r x, RowsFrom r (step r x)) (visited : List α)
    (r : Repo) : RowsFrom r (visited.foldl step r) := by
  induction visited generalizing r with
  | nil => rfl
  | cons x rest ih => exact (hstep r x).trans (ih _)

section
variable (r : Repo)

lemma revokeSession_rowsFrom (sid : String) (atMs : Int) : RowsFrom r (r.revokeSession sid atMs) := by
  grind [revokeSessionRow_rowsFrom, Repo.revokeSession]

lemma createRefreshToken_rowsFrom (t : RefreshTokenRecord) : RowsFrom r (r.createRefreshToken t).2 := by
  refine ⟨Nat.le_succ _, fun key t' ht' => ?_, fun key s' hs' => .inl ⟨s', hs', rfl⟩⟩
  have hlookup : (r.refreshTokens.insert (memID (r.seq + 1)) { t with nodeID := memID (r.seq + 1) }).lookup key =
    some t' := ht'
  rw [lookup_insert_eq] at hlookup
  split at hlookup
  · rename_i hkey
    cases hlookup
    exact .inr ⟨r.seq + 1, Nat.lt_succ_self _, le_rfl, hkey, hkey.symm⟩
  · exact .inl ⟨t', hlookup, rfl⟩

/-- Taking one token away, with the grants of its session. -/
lemma eraseToken_rowsFrom (sid key : String) (now : Int) :
    RowsFrom r { r.revokeAgentOAuthSIDLocked sid now with
      refreshTokens := (r.revokeAgentOAuthSIDLocked sid now).refreshTokens.erase key } := by
  refine .of_rows rfl (fun query t' ht' => ?_) fun query s' hs' => ⟨s', hs', rfl⟩
  have hlookup : (r.refreshTokens.erase key).lookup query = some t' := ht'
  rw [lookup_erase_eq] at hlookup
  split at hlookup
  · cases hlookup
  · exact ⟨t', hlookup, rfl⟩

lemma deleteRefreshTokensForUser_rowsFrom (now : Int) (userID : String) :
    RowsFrom r (r.deleteRefreshTokensForUser now userID) := by
  refine foldl_rowsFrom (fun r' entry => ?_) _ r
  exact eraseToken_rowsFrom r' entry.2.sid entry.1 now

lemma consumeRefreshTokenByHash_rowsFrom (hash : String) (atMs : Int) :
    RowsFrom r (r.consumeRefreshTokenByHash hash atMs).2 := by
  unfold Repo.consumeRefreshTokenByHash
  split
  · rfl
  rename_i entry hfind
  split
  · rfl
  have hentry : r.refreshTokens.lookup entry.1 = some entry.2 :=
    AList.mem_lookup_iff.mpr (List.mem_of_find?_eq_some hfind)
  grind

end

/-! Accounts that go take their rows along. -/

lemma drainGuardianEdges_guardiansOnly (r : Repo) (now : Int) (userID : String) :
    GuardiansOnly r (r.drainGuardianEdges now userID) := by
  unfold Repo.drainGuardianEdges
  induction r.guardianEdges.entries.filter _ generalizing r with
  | nil => rfl
  | cons entry rest ih => grind [revokeAgentOAuthOwnerLocked_grantsOnly]

lemma drainUserTables_rowsFrom (r : Repo) (userID : String) : RowsFrom r (r.drainUserTables userID) :=
  .of_rows rfl (fun _ t' ht' => ⟨t', (lookup_keep_eq_some.mp ht').1, rfl⟩)
    fun _ s' hs' => ⟨s', (lookup_keep_eq_some.mp hs').1, rfl⟩

lemma deleteUserLocked_rowsFrom (r : Repo) (now : Int) (userID : String) :
    RowsFrom r (r.deleteUserLocked now userID) := by
  have hrevoked : RowsFrom r ((r.invalidateAgentCreations userID).revokeAgentOAuthUserLocked
      ((r.invalidateAgentCreations userID).users.lookup userID) none now) := by
    have hgrants := revokeAgentOAuthUserLocked_grantsOnly (r.invalidateAgentCreations userID)
      ((r.invalidateAgentCreations userID).users.lookup userID) none now
    exact .of_same ⟨by rw [hgrants.frame]; rfl, by rw [hgrants.frame]; rfl⟩ (by rw [hgrants.frame]; exact le_rfl)
  have hedges := drainGuardianEdges_guardiansOnly (((r.invalidateAgentCreations userID).revokeAgentOAuthUserLocked
      ((r.invalidateAgentCreations userID).users.lookup userID) none now).drainUserTables userID) now userID
  have hdrained := RowsFrom.of_same hedges.sessions hedges.seq.ge
  refine ((hrevoked.trans (drainUserTables_rowsFrom _ userID)).trans hdrained).trans ?_
  exact .of_same ⟨rfl, rfl⟩ le_rfl

lemma applyAccountMerge_rowsFrom (r : Repo) (m : AccountMerge) : RowsFrom r (r.applyAccountMerge m).2 := by
  have hgrants : ∀ r' : Repo, RowsFrom r' (r'.revokeChangedUsers r.users m.atMs) := fun r' =>
    have honly := revokeChangedUsers_grantsOnly r' r.users m.atMs
    .of_same ⟨by rw [honly.frame], by rw [honly.frame]⟩ (by rw [honly.frame])
  unfold Repo.applyAccountMerge
  split
  · exact hgrants r
  rename_i survivor other _
  refine RowsFrom.trans ?_ (hgrants _)
  obtain ⟨creations, hframe⟩ := mergeRows_frame r m survivor other
  refine .of_rows (by rw [hframe]; rfl) (fun key t' ht' => ?_) fun key s' hs' => ?_
  · rw [hframe] at ht'
    exact ⟨t', (lookup_keep_eq_some.mp ht').1, rfl⟩
  · grind [mergeRows_lookup_sessions, Option.map_eq_some_iff]

lemma UserRequest.handle_rowsFrom (q : UserRequest) (now : Int) (r : Repo) : RowsFrom r (q.handle now r).2 := by
  by_cases honly : q.usersOnly = true
  · grind [handle_usersOnly]
  cases q with
  | deleteUser userID =>
    dsimp only [handle, Repo.deleteUser]
    split
    · rfl
    · exact deleteUserLocked_rowsFrom r now userID
  | deleteStaleAnonymousUsers beforeMs limit =>
    dsimp only [handle, Repo.deleteStaleAnonymousUsers]
    split
    · rfl
    · exact foldl_rowsFrom (fun r' _ => deleteUserLocked_rowsFrom r' now _) _ r
  | applyAccountMerge m => exact applyAccountMerge_rowsFrom r m
  | _ => exact absurd rfl honly

lemma SessionRequest.handle_rowsFrom (q : SessionRequest) (now : Int) (r : Repo) : RowsFrom r (q.handle now r).2 := by
  cases q with
  | createSession s => exact createSession_rowsFrom r s
  | revokeSession sid atMs => exact revokeSession_rowsFrom r sid atMs
  | revokeSessionsForUser userID atMs =>
    dsimp only [handle, Repo.revokeSessionsForUser]
    split
    · rfl
    · exact foldl_rowsFrom (fun r' _ => revokeSessionRow_rowsFrom r' _ atMs) _ r
  | createRefreshToken t => exact createRefreshToken_rowsFrom r t
  | deleteRefreshToken nodeID =>
    dsimp only [handle, Repo.deleteRefreshToken]
    split
    · rfl
    · exact eraseToken_rowsFrom r _ nodeID now
  | deleteRefreshTokensForUser userID => exact deleteRefreshTokensForUser_rowsFrom r now userID
  | consumeRefreshTokenByHash hash atMs => exact consumeRefreshTokenByHash_rowsFrom r hash atMs
  | _ => rfl

lemma handle_rowsFrom (p : Platform) (q : Request) (tick : Tick) (r : Repo) : RowsFrom r (handle p q tick r).2 := by
  cases q with
  | user q | session q => exact q.handle_rowsFrom tick.now r
  | guardian q =>
    obtain ⟨r1, husers, hguardians⟩ := q.handle_frame tick.now r
    exact (RowsFrom.of_same husers.sessions husers.seq_le).trans (.of_same hguardians.sessions hguardians.seq.ge)
  | agent q =>
    have hagents := q.handle_agentsOnly p r
    exact .of_same hagents.sessions hagents.seq.ge
  | signIn q => exact .of_same (q.handle_signInOnly r).sessions (q.handle_signInOnly r).seq_le
  | credential q => exact .of_same (q.handle_credentialsOnly r).sessions (q.handle_credentialsOnly r).seq_le
  | clock | random | compare => rfl

/-- Session rows and refresh tokens are named by their keys, in the order of the counter,
    and a session has an owner. -/
@[grind]
structure SessionNames (r : Repo) : Prop where
  tokens : ∀ key t, r.refreshTokens.lookup key = some t → t.nodeID = key
  owned : ∀ key s, r.sessions.lookup key = some s → s.userID ≠ ""
  fresh_tokens : ∀ n, r.seq < n → r.refreshTokens.lookup (memID n) = none
  fresh_sessions : ∀ n, r.seq < n → r.sessions.lookup (memID n) = none

lemma RowsFrom.names (hrows : RowsFrom r r') (hnames : SessionNames r) : SessionNames r' := by
  refine ⟨fun key t' ht' => ?_, fun key s' hs' => ?_, fun n hn => ?_, fun n hn => ?_⟩
  · grind
  · grind
  · rw [Option.eq_none_iff_forall_ne_some]
    grind [memID_injective]
  · rw [Option.eq_none_iff_forall_ne_some]
    grind [memID_injective]

/-- Whatever is asked of a store that starts empty. -/
lemma run_sessionNames (p : Platform) (ops : List (Request × Tick)) : SessionNames (run p new ops) := by
  have hrun : ∀ (ops : List (Request × Tick)) (r : Repo), SessionNames r → SessionNames (run p r ops) := by
    intro ops
    induction ops with
    | nil => exact fun r hnames => hnames
    | cons op rest ih => exact fun r hnames => ih _ ((handle_rowsFrom p op.1 op.2 r).names hnames)
  exact hrun ops new ⟨by simp [new], by simp [new], by simp [new], by simp [new]⟩

end identity.repository
