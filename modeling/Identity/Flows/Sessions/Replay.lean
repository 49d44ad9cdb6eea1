import Identity.Flows.Sessions.Lineage
import Identity.Flows.Sessions.Rotation

open identity.repository identity.memory
namespace identity.service
open GoMap
open List (mem_cons)

/-- A refresh with its arguments, and the service it is made on. -/
structure RefreshInvocation where
  auth : AuthService
  raw : String
  tenantID : String
  client : ClientInfo

def RefreshInvocation.program (p : Platform) (i : RefreshInvocation) :
    Call Request.Response (Except Err IssuedTokens) :=
  (i.auth.refreshToken p i.raw i.tenantID i.client).call

abbrev RefreshPool := Pool Request.Response Repo (Except Err IssuedTokens)

/-- No two rows have one hash. -/
@[grind =]
def TokensUnique (r : Repo) : Prop :=
  ∀ key₁ key₂ t₁ t₂, r.refreshTokens.lookup key₁ = some t₁ → r.refreshTokens.lookup key₂ = some t₂ →
    t₁.tokenHash = t₂.tokenHash → key₁ = key₂

/-- The token cannot be won: it is gone or consumed. -/
@[grind =]
def DeadToken (hash : String) (r : Repo) : Prop :=
  ∀ key t, r.refreshTokens.lookup key = some t → t.tokenHash = hash → t.consumedAtMs ≠ 0

/-- The hash of the token a step stored. -/
def createdHash : StoreEvent → Option String
  | ⟨_, .session (.createRefreshToken t), _⟩ => some t.tokenHash
  | _ => none

/-- Whether a step won a token. -/
def winsToken : StoreEvent → Bool
  | ⟨_, .session (.consumeRefreshTokenByHash _ _), answer⟩ => Except.isOk answer
  | _ => false

/-- The random source repeats no token: none that was in the store at the start, and none
    stored since. -/
def MintsFresh (start : Repo) (pool : RefreshPool) (_ : Nat) (_ : Tick) : Request → Prop
  | .session (.createRefreshToken t) => (∀ row ∈ start.refreshTokens.rows, row.tokenHash ≠ t.tokenHash) ∧
      ∀ event ∈ pool.trace, createdHash event ≠ some t.tokenHash
  | _ => True

instance (start : Repo) (pool : RefreshPool) (caller : Nat) (tick : Tick) (q : Request) :
    Decidable (MintsFresh start pool caller tick q) := by
  unfold MintsFresh
  split <;> infer_instance

/-- When a replay deletes the user's tokens, no other call is between winning a token and
    returning. -/
def ReplayAlone (pool : RefreshPool) (caller : Nat) (_ : Tick) : Request → Prop
  | .session (.deleteRefreshTokensForUser _) => ∀ event ∈ pool.trace, winsToken event = true → event.caller ≠ caller →
      (pool.result event.caller).isSome = true
  | _ => True

instance (pool : RefreshPool) (caller : Nat) (tick : Tick) (q : Request) :
    Decidable (ReplayAlone pool caller tick q) := by
  unfold ReplayAlone
  split <;> infer_instance

/-- A step that stores no token: rows go, or are consumed. -/
@[grind =]
def TokensFrom (r r' : Repo) : Prop :=
  ∀ key t', r'.refreshTokens.lookup key = some t' → ∃ t, r.refreshTokens.lookup key = some t ∧
    t'.tokenHash = t.tokenHash ∧ t'.userID = t.userID ∧ (t.consumedAtMs ≠ 0 → t'.consumedAtMs ≠ 0)

lemma tokensFrom_of_eq (heq : r'.refreshTokens = r.refreshTokens) : TokensFrom r r' :=
  fun _ t' ht' => ⟨t', heq ▸ ht', rfl, rfl, id⟩

lemma TokensFrom.unique (hfrom : TokensFrom r r') (hunique : TokensUnique r) : TokensUnique r' := by grind

lemma TokensFrom.dead (hfrom : TokensFrom r r') {hash : String} (hdead : DeadToken hash r) :
    DeadToken hash r' := by
  intro key t' ht' hhash
  obtain ⟨t, ht, hsame, -, hconsumed⟩ := hfrom key t' ht'
  exact hconsumed (hdead key t ht (hsame.symm.trans hhash))

lemma consumeRefreshTokenByHash_from (r : Repo) (hash : String) (hpos : 0 < atMs) :
    TokensFrom r (r.consumeRefreshTokenByHash hash atMs).2 := by
  unfold Repo.consumeRefreshTokenByHash
  split
  · exact tokensFrom_of_eq rfl
  rename_i entry hfind
  split
  · exact tokensFrom_of_eq rfl
  have hentry : r.refreshTokens.lookup entry.1 = some entry.2 :=
    AList.mem_lookup_iff.mpr (List.mem_of_find?_eq_some hfind)
  have hconsumed : atMs ≠ 0 := hpos.ne'
  grind

lemma deleteRefreshToken_from (r : Repo) (now : Int) (nodeID : String) :
    TokensFrom r (r.deleteRefreshToken now nodeID) := by
  grind [lookup_deleteRefreshToken]

lemma deleteRefreshTokensForUser_from (r : Repo) (now : Int) (userID : String) :
    TokensFrom r (r.deleteRefreshTokensForUser now userID) := by
  intro key t' ht'
  rw [lookup_deleteRefreshTokensForUser] at ht'
  exact ⟨t', (Option.filter_eq_some_iff.mp ht').1, rfl, rfl, id⟩

section Run
variable {hash : String}

/-- Every request of a refresh but the one that stores a token. -/
lemma RefreshGuard.tokensFrom (hguard : RefreshGuard hash caller own q)
    (hclocks : ∀ now : Int, (⟨caller, .clock, now⟩ : StoreEvent) ∈ own → 0 < now)
    (hnot : ∀ t, q ≠ .session (.createRefreshToken t)) : TokensFrom r (handle p q tick r).2 := by
  cases q with
  | user q => exact tokensFrom_of_eq (UserRequest.handle_usersOnly hguard tick.now r).sessions.refreshTokens
  | session q =>
    cases q with
    | createRefreshToken t => exact absurd rfl (hnot t)
    | consumeRefreshTokenByHash presented atMs =>
      exact consumeRefreshTokenByHash_from r presented (hclocks atMs hguard.2)
    | deleteRefreshToken nodeID => exact deleteRefreshToken_from r tick.now nodeID
    | deleteRefreshTokensForUser userID => exact deleteRefreshTokensForUser_from r tick.now userID
    | createSession s => exact tokensFrom_of_eq (createSession_refreshTokens r s)
    | revokeSession sid atMs => exact tokensFrom_of_eq (revokeSession_refreshTokens r sid atMs)
    | revokeSessionsForUser userID atMs => exact tokensFrom_of_eq (revokeSessionsForUser_refreshTokens r userID atMs)
    | _ => exact tokensFrom_of_eq rfl
  | guardian q => exact tokensFrom_of_eq (handle_sessions (q := .guardian q) p tick r rfl).refreshTokens
  | agent q => exact tokensFrom_of_eq (handle_sessions (q := .agent q) p tick r rfl).refreshTokens
  | signIn q => exact tokensFrom_of_eq (handle_sessions (q := .signIn q) p tick r rfl).refreshTokens
  | credential q => exact tokensFrom_of_eq (handle_sessions (q := .credential q) p tick r rfl).refreshTokens
  | clock | random | compare => exact tokensFrom_of_eq rfl

/-- The token was in the store at the start, or was stored since. -/
@[grind =]
def KnownToken (start : Repo) (trace : Trace) (hash : String) : Prop :=
  (∃ row ∈ start.refreshTokens.rows, row.tokenHash = hash) ∨ ∃ event ∈ trace, createdHash event = some hash

lemma KnownToken.cons (hknown : KnownToken start trace hash) (event : StoreEvent) :
    KnownToken start (event :: trace) hash :=
  hknown.imp id fun ⟨earlier, hmem, hcreated⟩ => ⟨earlier, List.mem_cons_of_mem event hmem, hcreated⟩

lemma KnownToken.ne (hknown : KnownToken start pool.trace hash)
    (hfresh : MintsFresh start pool caller tick (.session (.createRefreshToken t))) : t.tokenHash ≠ hash := by
  rintro rfl
  rcases hknown with ⟨row, hrow, hsame⟩ | ⟨event, hmem, hcreated⟩
  · exact hfresh.1 row hrow hsame
  · exact hfresh.2 event hmem hcreated

/-- What holds of the store and the steps so far. -/
@[grind]
structure RefreshRun (start r : Repo) (trace : Trace) : Prop where
  clocks : ∀ (c : Nat) (now : Int), (⟨c, .clock, now⟩ : StoreEvent) ∈ trace → 0 < now
  unique : TokensUnique r
  known : ∀ key t, r.refreshTokens.lookup key = some t → KnownToken start trace t.tokenHash
  spent : ∀ c hash atMs, tokenConsumed c hash atMs ∈ trace → KnownToken start trace hash ∧ DeadToken hash r
  once : ∀ c₁ c₂ hash at₁ at₂, tokenConsumed c₁ hash at₁ ∈ trace → tokenConsumed c₂ hash at₂ ∈ trace → c₁ = c₂
  minted : ∀ c t id, tokenCreated c t id ∈ trace → ∀ key row, r.refreshTokens.lookup key = some row →
    row.tokenHash = t.tokenHash → row.userID = t.userID

lemma refreshRun_start (hunique : TokensUnique start) : RefreshRun start start [] where
  clocks := nofun
  unique := hunique
  known := fun key t ht => .inl ⟨t, mem_rows_iff.mpr ⟨key, ht⟩, rfl⟩
  spent := nofun
  once := nofun
  minted := nofun

lemma RefreshRun.own_clocks (hrun : RefreshRun start r trace) (caller : Nat) (now : Int)
    (hmem : (⟨caller, .clock, now⟩ : StoreEvent) ∈ Pool.own trace caller) : 0 < now :=
  hrun.clocks caller now (Pool.mem_trace hmem)

lemma RefreshRun.clocks_cons (hrun : RefreshRun start r trace) (p : Platform) (caller : Nat) (q : Request)
    (tick : Tick) :
    ∀ (c : Nat) (now : Int), (⟨c, .clock, now⟩ : StoreEvent) ∈ ⟨caller, q, (handle p q tick r).1⟩ :: trace →
      0 < now := by
  intro c now hmem
  rcases mem_cons.mp hmem with heq | hold
  · obtain ⟨-, rfl, hresp⟩ := Event.mk.inj heq
    have hnow : now = tick.now := eq_of_heq hresp
    rw [hnow]
    exact tick.pos
  · exact hrun.clocks c now hold

/-- A token that is stored has a hash no row has, and no step before has won or stored. -/
lemma RefreshRun.create (hrun : RefreshRun start pool.store pool.trace)
    (hfresh : MintsFresh start pool caller tick (.session (.createRefreshToken t))) :
    RefreshRun start (pool.store.createRefreshToken t).2
      (tokenCreated caller t (pool.store.createRefreshToken t).1 :: pool.trace) := by
  have hlookup : ∀ key t', (pool.store.createRefreshToken t).2.refreshTokens.lookup key = some t' →
      (key = memID (pool.store.seq + 1) ∧ t' = { t with nodeID := memID (pool.store.seq + 1) }) ∨
        pool.store.refreshTokens.lookup key = some t' := by
    intro key t' ht'
    have hinsert : (pool.store.refreshTokens.insert (memID (pool.store.seq + 1))
        { t with nodeID := memID (pool.store.seq + 1) }).lookup key = some t' := ht'
    rw [lookup_insert_eq] at hinsert
    split at hinsert
    · grind
    · exact .inr hinsert
  have hne : ∀ hash, KnownToken start pool.trace hash → t.tokenHash ≠ hash := fun hash hknown => hknown.ne hfresh
  refine ⟨fun c now hmem => ?_, ?_, fun key t' ht' => ?_, fun c hash atMs hmem => ?_,
    fun c₁ c₂ hash at₁ at₂ hmem1 hmem2 => ?_, fun c t' id hmem key row hrow hsame => ?_⟩
  · grind
  · grind
  · obtain ⟨rfl, rfl⟩ | hold := hlookup key t' ht'
    · exact .inr ⟨_, .head _, rfl⟩
    · exact (hrun.known key t' hold).cons _
  · grind
  · grind
  obtain ⟨rfl, rfl⟩ | hbefore := hlookup key row hrow
  · rcases mem_cons.mp hmem with heq | hold
    · cases heq
      rfl
    · have hstored : KnownToken start pool.trace t'.tokenHash := .inr ⟨_, hold, rfl⟩
      exact absurd hsame (hne _ hstored)
  · grind

/-- A step that wins a token finds it unconsumed and leaves it dead. -/
lemma tokenConsumed_spec (hunique : TokensUnique r)
    (heq : tokenConsumed c hash atMs = ⟨caller, q, (handle p q tick r).1⟩)
    (hguard : ∀ presented atMs', q = .session (.consumeRefreshTokenByHash presented atMs') → 0 < atMs') :
    c = caller ∧ (∃ key t, r.refreshTokens.lookup key = some t ∧ t.tokenHash = hash ∧ t.consumedAtMs = 0) ∧
      DeadToken hash (handle p q tick r).2 := by
  obtain ⟨hcaller, rfl, hresp⟩ := Event.mk.inj heq
  have hok : (r.consumeRefreshTokenByHash hash atMs).1 = .ok () := (eq_of_heq hresp).symm
  have hpos := hguard hash atMs rfl
  obtain ⟨key, t, ht, hhash, hlive, hstore⟩ := consumeRefreshTokenByHash_ok hok
  refine ⟨hcaller, ⟨key, t, ht, hhash, hlive⟩, fun key' t' ht' hhash' => ?_⟩
  have hafter : (handle p (.session (.consumeRefreshTokenByHash hash atMs)) tick r).2 = _ := hstore
  rw [hafter] at ht'
  have hlookup : (r.refreshTokens.insert key { t with consumedAtMs := atMs }).lookup key' = some t' := ht'
  rw [lookup_insert_eq] at hlookup
  split at hlookup
  · cases hlookup
    dsimp only
    omega
  · grind

lemma RefreshRun.step (hrun : RefreshRun start pool.store pool.trace)
    (hguard : RefreshGuard hash caller (Pool.own pool.trace caller) q) (hfresh : MintsFresh start pool caller tick q) :
    RefreshRun start (handle p q tick pool.store).2 (⟨caller, q, (handle p q tick pool.store).1⟩ :: pool.trace) := by
  by_cases hcreates : ∃ t, q = .session (.createRefreshToken t)
  · obtain ⟨t, rfl⟩ := hcreates
    exact hrun.create hfresh
  have hnot : ∀ t, q ≠ .session (.createRefreshToken t) := fun t heq => hcreates ⟨t, heq⟩
  have hfrom : TokensFrom pool.store (handle p q tick pool.store).2 := hguard.tokensFrom (hrun.own_clocks caller) hnot
  have hpos : ∀ presented atMs, q = .session (.consumeRefreshTokenByHash presented atMs) → 0 < atMs := by
    grind [RefreshGuard]
  refine ⟨hrun.clocks_cons p caller q tick, hfrom.unique hrun.unique, fun key t' ht' => ?_, fun c hash atMs hmem => ?_,
    fun c₁ c₂ hash at₁ at₂ hmem1 hmem2 => ?_, fun c t id hmem key row hrow hsame => ?_⟩
  · grind
  · grind [tokenConsumed_spec]
  · rcases mem_cons.mp hmem1 with heq1 | hold1
    · obtain ⟨hc1, ⟨key, t, ht, hhash, hlive⟩, -⟩ := tokenConsumed_spec hrun.unique heq1 hpos
      grind
    rcases mem_cons.mp hmem2 with heq2 | hold2
    · obtain ⟨-, ⟨key, t, ht, hhash, hlive⟩, -⟩ := tokenConsumed_spec hrun.unique heq2 hpos
      exact absurd hlive ((hrun.spent c₁ hash at₁ hold1).2 key t ht hhash)
    · exact hrun.once c₁ c₂ hash at₁ at₂ hold1 hold2
  · grind

/-- A lookup is the first step of its call, and a call that deletes a user's tokens has
    found one of them consumed. -/
@[grind]
structure LookedUp (trace : Trace) : Prop where
  first : ∀ c hash found, tokenLookup c hash found ∈ trace →
    ∃ later, Pool.own trace c = later ++ [tokenLookup c hash found]
  deleted : ∀ c userID, tokensDeleted c userID ∈ trace → ∃ hash record, tokenLookup c hash (some record) ∈ trace

lemma LookedUp.cons (hlooked : LookedUp trace) (hguard : RefreshGuard hash caller (Pool.own trace caller) q)
    (resp : q.Response) : LookedUp (⟨caller, q, resp⟩ :: trace) := by
  refine ⟨fun c presented found hmem => ?_, fun c userID hmem => ?_⟩
  · rcases mem_cons.mp hmem with heq | hold
    · obtain ⟨rfl, rfl, hresp⟩ := Event.mk.inj heq
      cases hresp
      have hown := Pool.own_cons_self trace c (.session (.findRefreshTokenByHashIncludingConsumed presented)) found
      exact ⟨[], hown.trans (by rw [hguard.1]; rfl)⟩
    · grind [Pool.own_cons_ne]
  · grind [Pool.mem_of_mem_own, RefreshGuard]

/-- A call looks up once. -/
lemma LookedUp.once (hlooked : LookedUp trace) (hmem1 : tokenLookup c hash1 found1 ∈ trace)
    (hmem2 : tokenLookup c hash2 found2 ∈ trace) : tokenLookup c hash1 found1 = tokenLookup c hash2 found2 := by
  obtain ⟨later1, hown1⟩ := hlooked.first c hash1 found1 hmem1
  obtain ⟨later2, hown2⟩ := hlooked.first c hash2 found2 hmem2
  rw [hown1] at hown2
  exact List.singleton_inj.mp (List.append_inj' hown2 rfl).2

end Run

section Family
variable {p : Platform} {start : Repo} {calls : List RefreshInvocation} {pool : RefreshPool}
variable (p calls) in
def RefreshCallsGuard (caller : Nat) (own : Trace) (q : Request) : Prop :=
  ∃ i, calls[caller]? = some i ∧ RefreshGuard (p.sha256Hex i.raw) caller own q

variable (p calls) in
def RefreshCallsPost (caller : Nat) (own : Trace) (result : Except Err IssuedTokens) : Prop :=
  ∃ i, calls[caller]? = some i ∧ RefreshPost (p.sha256Hex i.raw) caller own result

variable (p start calls) in
@[grind]
structure RefreshMoment (pool : RefreshPool) : Prop where
  keep : pool.Keep (RefreshCallsGuard p calls) (RefreshCallsPost p calls)
  run : RefreshRun start pool.store pool.trace
  looked : LookedUp pool.trace

lemma refreshMoment_start (hunique : TokensUnique start) :
    RefreshMoment p start calls (Pool.start start (calls.map fun i => i.program p)) where
  keep := by
    have hkeeps : ∀ (i : RefreshInvocation) (caller : Nat), (i.program p).Keeps caller
        (RefreshGuard (p.sha256Hex i.raw) caller) (RefreshPost (p.sha256Hex i.raw) caller) [] :=
      fun i caller => i.auth.refreshToken_keeps p i.raw i.tenantID i.client caller
    exact Pool.keep_start hkeeps start
  run := refreshRun_start hunique
  looked := ⟨nofun, nofun⟩

/-- The call returned new tokens. -/
@[grind =]
def RefreshSucceeds (pool : RefreshPool) (caller : Nat) : Prop := ∃ issued, pool.result caller = some (.ok issued)

/-- Once the replay has deleted the user's tokens: the rotation is over, and what it
    minted is dead, used only by calls that are over. -/
@[grind]
structure Shut (rotator : Nat) (userID : String) (pool : RefreshPool) : Prop where
  finished : (pool.result rotator).isSome = true
  dead : ∀ t id, tokenCreated rotator t id ∈ pool.trace → t.userID = userID → DeadToken t.tokenHash pool.store
  used : ∀ t id, tokenCreated rotator t id ∈ pool.trace → t.userID = userID →
    ∀ c atMs, tokenConsumed c t.tokenHash atMs ∈ pool.trace → (pool.result c).isSome = true

variable {q : Request}
section
variable (hmoment : RefreshMoment p start calls pool)
include hmoment

lemma RefreshMoment.step (hcall : pool.Awaits caller q next) (hfresh : MintsFresh start pool caller tick q) :
    RefreshMoment p start calls (pool.step (handle p) caller tick) := by
  obtain ⟨i, -, hguard⟩ := (hmoment.keep caller _ hcall).1
  refine ⟨hmoment.keep.step caller tick, ?_, ?_⟩
  · rw [Pool.step_request hcall]
    exact hmoment.run.step hguard hfresh
  · rw [Pool.step_request hcall]
    exact hmoment.looked.cons hguard _

lemma RefreshMoment.run_schedule (schedule : List (Nat × Tick))
    (hfresh : Pool.Along (handle p) (MintsFresh start) pool schedule) :
    RefreshMoment p start calls (pool.run (handle p) schedule) :=
  Pool.along_invariant (fun _ _ _ _ _ hmoment hcall _ _ hcond => hmoment.step hcall hcond) hmoment.keep
    hmoment schedule
    hfresh

lemma RefreshMoment.consumed (hi : calls[caller]? = some i) (hsucceeds : RefreshSucceeds pool caller) :
    ∃ atMs, tokenConsumed caller (p.sha256Hex i.raw) atMs ∈ pool.trace := by
  obtain ⟨issued, hresult⟩ := hsucceeds
  obtain ⟨i', hi', hpost⟩ := hmoment.keep.result hresult
  rw [hi] at hi'
  cases hi'
  obtain ⟨atMs, hmem⟩ := hpost.2 rfl
  exact ⟨atMs, (Pool.mem_trace hmem)⟩

/-- A dead token that has been stored before stays dead, and nobody wins it. -/
lemma RefreshMoment.dead_step (hcall : pool.Awaits caller q next) (hfresh : MintsFresh start pool caller tick q)
    {hash : String} (hknown : KnownToken start pool.trace hash) (hdead : DeadToken hash pool.store) :
    DeadToken hash (pool.step (handle p) caller tick).store ∧
      ∀ c atMs, tokenConsumed c hash atMs ∈ (pool.step (handle p) caller tick).trace →
        tokenConsumed c hash atMs ∈ pool.trace := by
  obtain ⟨i, -, hguard⟩ := (hmoment.keep caller _ hcall).1
  have hpos : ∀ presented atMs, q = .session (.consumeRefreshTokenByHash presented atMs) → 0 < atMs := by
    rintro presented atMs rfl
    exact hmoment.run.own_clocks caller atMs hguard.2
  rw [Pool.step_request hcall]
  constructor
  · by_cases hcreates : ∃ t, q = .session (.createRefreshToken t)
    · obtain ⟨t, rfl⟩ := hcreates
      intro key t' ht' hhash
      have hinsert : (pool.store.refreshTokens.insert (memID (pool.store.seq + 1))
          { t with nodeID := memID (pool.store.seq + 1) }).lookup key = some t' := ht'
      grind [MintsFresh]
    have hfrom : TokensFrom pool.store (handle p q tick pool.store).2 :=
      hguard.tokensFrom (hmoment.run.own_clocks caller) fun t heq => hcreates ⟨t, heq⟩
    exact hfrom.dead hdead
  intro c atMs hmem
  rcases mem_cons.mp hmem with heq | hold
  · obtain ⟨-, ⟨key, t, ht, hhash, hlive⟩, -⟩ := tokenConsumed_spec hmoment.run.unique heq hpos
    exact absurd hlive (hdead key t ht hhash)
  · exact hold

end

/-- A call that is over takes no step. -/
lemma created_before (hcall : pool.Awaits caller q next) (hover : (pool.result rotator).isSome = true) {id : String}
    (hmem : tokenCreated rotator t id ∈ (pool.step (handle p) caller tick).trace) :
    tokenCreated rotator t id ∈ pool.trace := by
  rw [Pool.trace_step hcall rfl] at hmem
  rcases mem_cons.mp hmem with heq | hold
  · grind [Pool.unfinished_of_request]
  · exact hold

lemma over_step (hover : (pool.result rotator).isSome = true) (mover : Nat) (input : Tick) :
    ((pool.step (handle p) mover input).result rotator).isSome = true := by
  obtain ⟨result, hresult⟩ := Option.isSome_iff_exists.mp hover
  rw [Pool.result_step hresult]
  rfl

lemma Shut.step (hshut : Shut rotator userID pool) (hmoment : RefreshMoment p start calls pool)
    (hcall : pool.Awaits caller q next) (hfresh : MintsFresh start pool caller tick q) :
    Shut rotator userID (pool.step (handle p) caller tick) := by
  have hdead := fun t id (hmem : tokenCreated rotator t id ∈ pool.trace) (howner : t.userID = userID) =>
    hmoment.dead_step hcall hfresh (.inr ⟨_, hmem, rfl⟩) (hshut.dead t id hmem howner)
  refine ⟨over_step hshut.finished caller tick, fun t id hmem howner => ?_,
    fun t id hmem howner c atMs hconsumed => ?_⟩
  · exact (hdead t id (created_before hcall hshut.finished hmem) howner).1
  · grind [created_before, over_step]

/-- The step that deletes the user's tokens shuts the family. -/
lemma shut_of_delete (hmoment : RefreshMoment p start calls pool)
    (hcall : pool.calls[caller]? = some (.request (.session (.deleteRefreshTokensForUser userID)) next))
    (halone : ReplayAlone pool caller tick (.session (.deleteRefreshTokensForUser userID)))
    (hrotator : tokenConsumed rotator presented atMs ∈ pool.trace) :
    Shut rotator userID (pool.step (handle p) caller tick) := by
  obtain ⟨i, -, record, hown, -⟩ := (hmoment.keep caller _ hcall).1
  have hover : ∀ c hash at', tokenConsumed c hash at' ∈ pool.trace → (pool.result c).isSome = true := by
    intro c hash at' hmem
    refine halone _ hmem rfl fun hself => ?_
    grind [Pool.mem_own]
  have hconsumed : ∀ c hash at', tokenConsumed c hash at' ∈ (pool.step (handle p) caller tick).trace →
      tokenConsumed c hash at' ∈ pool.trace := by
    intro c hash at' hmem
    rw [Pool.trace_step hcall rfl] at hmem
    rcases mem_cons.mp hmem with heq | hold
    · cases heq
    · exact hold
  have hrotated := hover rotator presented atMs hrotator
  refine ⟨over_step hrotated caller tick, fun t id hmem howner key row hrow hhash => ?_,
    fun t id hmem howner c at' hwon => ?_⟩
  · rw [Pool.step_request hcall] at hrow
    have hlookup : (pool.store.deleteRefreshTokensForUser tick.now userID).refreshTokens.lookup key = some row := hrow
    grind [lookup_deleteRefreshTokensForUser, Option.filter_eq_some_iff, created_before]
  · exact over_step (hover c t.tokenHash at' (hconsumed c t.tokenHash at' hwon)) caller tick

/-- From before the replay is detected on: when its tokens are deleted, the family shuts. -/
lemma shut_of_deleted (hmoment : RefreshMoment p start calls pool)
    (hrotator : tokenConsumed rotator presented atMs ∈ pool.trace) (hnot : tokensDeleted detector userID ∉ pool.trace)
    (schedule : List (Nat × Tick)) (hfresh : Pool.Along (handle p) (MintsFresh start) pool schedule)
    (halone : Pool.Along (handle p) ReplayAlone pool schedule)
    (hdeleted : tokensDeleted detector userID ∈ (pool.run (handle p) schedule).trace) :
    Shut rotator userID (pool.run (handle p) schedule) := by
  have hinv : RefreshMoment p start calls (pool.run (handle p) schedule) ∧
      tokenConsumed rotator presented atMs ∈ (pool.run (handle p) schedule).trace ∧
      (tokensDeleted detector userID ∈ (pool.run (handle p) schedule).trace →
        Shut rotator userID (pool.run (handle p) schedule)) := by
    refine Pool.along_invariant (fun pool caller tick q next (hinv : RefreshMoment p start calls pool ∧
      tokenConsumed rotator presented atMs ∈ pool.trace ∧
      (tokensDeleted detector userID ∈ pool.trace → Shut rotator userID pool)) hcall _ _ hcond => ?_) hmoment.keep
      ⟨hmoment, hrotator, fun hmem => absurd hmem hnot⟩ schedule (hfresh.and halone)
    obtain ⟨hmoment, hrotator, hshut⟩ := hinv
    obtain ⟨hfresh, halone⟩ := hcond
    refine ⟨hmoment.step hcall hfresh, ?_, fun hmem => ?_⟩
    · rw [Pool.trace_step hcall rfl]
      exact .tail _ hrotator
    rw [Pool.trace_step hcall rfl] at hmem
    rcases mem_cons.mp hmem with heq | hold
    · obtain ⟨rfl, rfl, -⟩ := Event.mk.inj heq
      exact shut_of_delete hmoment hcall halone hrotator
    · exact (hshut hold).step hmoment hcall hfresh
  exact hinv.2.2 hdeleted

/-- A shut family stays as it is: its rotation stores nothing more and nobody wins what it
    stored. -/
lemma Shut.later (hshut : Shut rotator userID pool) (hmoment : RefreshMoment p start calls pool)
    (later : List (Nat × Tick)) (hfresh : Pool.Along (handle p) (MintsFresh start) pool later)
    {id : String} (hcreated : tokenCreated rotator t id ∈ (pool.run (handle p) later).trace)
    (howner : t.userID = userID) :
    tokenCreated rotator t id ∈ pool.trace ∧ ∀ c atMs, tokenConsumed c t.tokenHash atMs ∈
      (pool.run (handle p) later).trace →
      tokenConsumed c t.tokenHash atMs ∈ pool.trace := by
  have hinv : RefreshMoment p start calls (pool.run (handle p) later) ∧
    Shut rotator userID (pool.run (handle p) later) ∧
      (tokenCreated rotator t id ∈ (pool.run (handle p) later).trace → tokenCreated rotator t id ∈ pool.trace ∧
        ∀ c atMs, tokenConsumed c t.tokenHash atMs ∈ (pool.run (handle p) later).trace →
          tokenConsumed c t.tokenHash atMs ∈ pool.trace) := by
    refine Pool.along_invariant (fun pool' caller tick q next (hinv : RefreshMoment p start calls pool' ∧
      Shut rotator userID pool' ∧ (tokenCreated rotator t id ∈ pool'.trace → tokenCreated rotator t id ∈ pool.trace ∧
        ∀ c atMs, tokenConsumed c t.tokenHash atMs ∈ pool'.trace → tokenConsumed c t.tokenHash atMs ∈ pool.trace))
      hcall _ _ hfresh => ?_) hmoment.keep ⟨hmoment, hshut, fun hmem => ⟨hmem, fun _ _ h => h⟩⟩ later hfresh
    obtain ⟨hmoment, hshut, hback⟩ := hinv
    refine ⟨hmoment.step hcall hfresh, hshut.step hmoment hcall hfresh, fun hmem => ?_⟩
    have hbefore := created_before hcall hshut.finished hmem
    refine ⟨(hback hbefore).1, fun c atMs hconsumed => (hback hbefore).2 c atMs ?_⟩
    exact (hmoment.dead_step hcall hfresh (.inr ⟨_, hbefore, rfl⟩) (hshut.dead t id hbefore howner)).2 c atMs hconsumed
  exact hinv.2.2 hcreated

end Family

/-- Any number of refreshes in any interleaving: a refresh token makes at most one call
    return new tokens; and where no rotation is between winning its token and returning
    when a replay deletes the user's tokens, a token minted by a rotation that had won its
    predecessor before the replay was detected is not used once the detecting call is
    over. -/
theorem refresh_replay_shuts_family (p : Platform) (r : Repo) (hunique : TokensUnique r) (calls :
    List RefreshInvocation)
    (before during later : List (Nat × Tick))
    (hfresh : Pool.Along (handle p) (MintsFresh r) (Pool.start r (calls.map fun i => i.program p))
      (before ++ (during ++ later))) :
    let earlier := (Pool.start r (calls.map fun i => i.program p)).run (handle p) before
    let pool := earlier.run (handle p) during
    let after := pool.run (handle p) later
    (∀ caller₁ caller₂ i₁ i₂, calls[caller₁]? = some i₁ → calls[caller₂]? = some i₂ → i₁.raw = i₂.raw →
      RefreshSucceeds after caller₁ → RefreshSucceeds after caller₂ → caller₁ = caller₂) ∧
    (Pool.Along (handle p) ReplayAlone (Pool.start r (calls.map fun i => i.program p)) (before ++ (during ++ later)) →
      ∀ detector presented record rotator predecessor atMs t id caller i,
        tokenConsumed rotator predecessor atMs ∈ earlier.trace →
        tokenLookup detector presented (some record) ∉ earlier.trace →
        tokenLookup detector presented (some record) ∈ pool.trace → 0 < record.consumedAtMs →
        (pool.result detector).isSome = true →
        tokenCreated rotator t id ∈ after.trace → t.userID = record.userID →
        calls[caller]? = some i → p.sha256Hex i.raw = t.tokenHash →
        RefreshSucceeds after caller → RefreshSucceeds pool caller) := by
  intro earlier pool after
  rw [Pool.along_append, Pool.along_append] at hfresh
  obtain ⟨hbefore, hduring, hlater⟩ := hfresh
  have hearlier : RefreshMoment p r calls earlier := (refreshMoment_start hunique).run_schedule before hbefore
  have hpool : RefreshMoment p r calls pool := hearlier.run_schedule during hduring
  have hafter : RefreshMoment p r calls after := hpool.run_schedule later hlater
  refine ⟨fun caller₁ caller₂ i₁ i₂ hi1 hi2 hraw hsucceeds1 hsucceeds2 => ?_, ?_⟩
  · obtain ⟨at₁, hmem1⟩ := hafter.consumed hi1 hsucceeds1
    obtain ⟨at₂, hmem2⟩ := hafter.consumed hi2 hsucceeds2
    grind
  intro halone detector presented record rotator predecessor atMs t id caller i hrotator hundetected
    hdetected hreplayed
    hover hcreated howner hi hhash hsucceeds
  rw [Pool.along_append, Pool.along_append] at halone
  -- the detecting call has deleted the user's tokens, and not before it looked the token up
  obtain ⟨result, hresult⟩ := Option.isSome_iff_exists.mp hover
  obtain ⟨_, _, hsettled, -⟩ := hpool.keep.result hresult
  have hdeleted := (Pool.mem_of_mem_own (hsettled presented record (Pool.mem_own hdetected) hreplayed)).1
  have hnot : tokensDeleted detector record.userID ∉ earlier.trace := by
    grind [Pool.trace_run_suffix, hpool.looked.once]
  have hshut := shut_of_deleted hearlier hrotator hnot during hduring halone.2.1 hdeleted
  obtain ⟨hstored, hwon⟩ := hshut.later hpool later hlater hcreated howner
  -- whoever won the token had done so, and was over, by then
  obtain ⟨at', hconsumed⟩ := hafter.consumed hi hsucceeds
  grind [Option.isSome_iff_exists, Pool.result_run]

/-- The token of a sign-in is presented twice, and the token minted for it once. -/
def sampleRefreshes : List RefreshInvocation :=
  [⟨sampleAuth, "refresh-1", "", sampleClientInfo⟩, ⟨sampleAuth, "refresh-1", "", sampleClientInfo⟩,
   ⟨sampleAuth, "refresh-2", "", sampleClientInfo⟩]

def refreshTurn (caller : Nat) (drawn : String) : Nat × Tick := (caller, ⟨20, sampleTick.pos, drawn⟩)

/-- A refresh up to and with the step that wins its token. -/
def winningTurns (caller : Nat) : List (Nat × Tick) := List.replicate 6 (refreshTurn caller "")

/-- The rest of it: a session, a token, and its row. -/
def mintingTurns (caller : Nat) (sid token : String) : List (Nat × Tick) :=
  [refreshTurn caller "", refreshTurn caller "", refreshTurn caller sid, refreshTurn caller "",
    refreshTurn caller token,
   refreshTurn caller ""]

/-- A replay: the lookup, the deletion, the clock and the revocation. -/
def replayTurns (caller : Nat) : List (Nat × Tick) := List.replicate 4 (refreshTurn caller "")

def sampleRefreshStart : RefreshPool :=
  Pool.start sampleSignIn.2.2 (sampleRefreshes.map fun i => i.program tokenPlatform)

lemma sampleSignIn_unique : TokensUnique sampleSignIn.2.2 := by
  intro key₁ key₂ t₁ t₂ h1 h2 _
  have hstore : sampleSignIn.2.2.refreshTokens = AList.insert "mem-2"
    { nodeID := "mem-2", tokenHash := tokenPlatform.sha256Hex "refresh-1", userID := "alice", expiresAt := 600020,
      createdAt := 20, lastUsedAt := 20, sessionStartedAt := 20, sid := "sid-1" } ∅ := rfl
  grind [lookup_single]

/-- The row of the sign-in's token once it is won. -/
def sampleWon : RefreshTokenRecord where
  nodeID := "mem-2"
  tokenHash := tokenPlatform.sha256Hex "refresh-1"
  userID := "alice"
  expiresAt := 600020
  createdAt := 20
  lastUsedAt := 20
  sessionStartedAt := 20
  consumedAtMs := 20
  sid := "sid-1"

/-- The token its rotation stores. -/
def sampleMinted : RefreshTokenRecord where
  tokenHash := tokenPlatform.sha256Hex "refresh-2"
  userID := "alice"
  expiresAt := 600020
  createdAt := 20
  lastUsedAt := 20
  sessionStartedAt := 20
  sid := "sid-2"

/-- The rotation is over when the token is replayed. -/
def sampleSettled : RefreshPool :=
  sampleRefreshStart.run (handle tokenPlatform) (winningTurns 0 ++ mintingTurns 0 "sid-2" "refresh-2")

def sampleSettledReplay : RefreshPool := sampleSettled.run (handle tokenPlatform) (replayTurns 1)

/-- The rotation has won the token and stored nothing yet when the token is replayed. -/
def sampleCaught : RefreshPool := sampleRefreshStart.run (handle tokenPlatform) (winningTurns 0)

def sampleCaughtReplay : RefreshPool := sampleCaught.run (handle tokenPlatform) (replayTurns 1)

/-- The rotation stores its token after the replay is over, and the token is presented. -/
def sampleCaughtLater : List (Nat × Tick) :=
  mintingTurns 0 "sid-2" "refresh-2" ++ (winningTurns 2 ++ mintingTurns 2 "sid-3" "refresh-3")

/-- A token whose rotation is over when its predecessor is replayed is dead. -/
theorem refresh_replay_shuts_family_settled :
    ¬ RefreshSucceeds (sampleSettledReplay.run (handle tokenPlatform) (winningTurns 2)) 2 := by
  have hfamily := refresh_replay_shuts_family tokenPlatform sampleSignIn.2.2 sampleSignIn_unique sampleRefreshes
    (winningTurns 0 ++ mintingTurns 0 "sid-2" "refresh-2") (replayTurns 1) (winningTurns 2) (by decide +kernel)
  have hcallers : ∀ event ∈ sampleSettled.trace, event.caller ≠ 1 := by decide +kernel
  intro hsucceeds
  obtain ⟨issued, hissued⟩ := hfamily.2 (by decide +kernel) 1 (tokenPlatform.sha256Hex "refresh-1") sampleWon 0
    (tokenPlatform.sha256Hex "refresh-1") 20 sampleMinted "mem-4" 2 _ (List.mem_of_getElem? (i := 6) rfl)
    (fun hmem => hcallers _ hmem rfl) (List.mem_of_getElem? (i := 3) rfl) (by decide) rfl
    (List.mem_of_getElem? (i := 5) rfl) rfl rfl rfl hsucceeds
  cases hissued

/-- A rotation that is caught between winning the token and storing its successor stores it
    after the replay's deletion, and the successor is good. -/
theorem replay_leaves_rotation_in_flight :
    Pool.Along (handle tokenPlatform) (MintsFresh sampleSignIn.2.2) sampleRefreshStart
        (winningTurns 0 ++ (replayTurns 1 ++ sampleCaughtLater)) ∧
      tokenConsumed 0 (tokenPlatform.sha256Hex "refresh-1") 20 ∈ sampleCaught.trace ∧
      tokenLookup 1 (tokenPlatform.sha256Hex "refresh-1") (some sampleWon) ∉ sampleCaught.trace ∧
      tokenLookup 1 (tokenPlatform.sha256Hex "refresh-1") (some sampleWon) ∈ sampleCaughtReplay.trace ∧
      (sampleCaughtReplay.result 1).isSome = true ∧
      (∃ id, tokenCreated 0 sampleMinted id ∈
        (sampleCaughtReplay.run (handle tokenPlatform) sampleCaughtLater).trace) ∧
      sampleMinted.userID = sampleWon.userID ∧
      RefreshSucceeds (sampleCaughtReplay.run (handle tokenPlatform) sampleCaughtLater) 2 ∧
      ¬ RefreshSucceeds sampleCaughtReplay 2 := by
  have hcallers : ∀ event ∈ sampleCaught.trace, event.caller ≠ 1 := by decide +kernel
  refine ⟨by decide +kernel, List.mem_of_getElem? (i := 0) rfl, fun hmem => hcallers _ hmem rfl,
    List.mem_of_getElem? (i := 3) rfl, rfl, ⟨_, List.mem_of_getElem? (i := 12) rfl⟩, rfl, ⟨_, rfl⟩, ?_⟩
  rintro ⟨issued, hissued⟩
  cases hissued

end identity.service
