import Identity.Flows.SignIn.Password
import Identity.Flows.Slips.Redemption
import Identity.Repository.Delegation

open identity.repository identity.memory
namespace identity.service
open Option (any_eq_true some)

/-- The calls that verify a second factor. -/
inductive FactorCall where
  | verifyTotp (challengeID code : String) (client : ClientInfo)
  | verifySecondFactorCode (userID code : String)

inductive FactorResult where
  | signedIn (result : Except Err LoginResult)
  | matched (result : Except Err SecondFactor)

def FactorResult.succeeded : FactorResult → Bool
  | signedIn result => result.toBool
  | matched result => result.toBool

structure FactorInvocation where
  settings : AuthService
  call : FactorCall

def FactorInvocation.program (p : Platform) (i : FactorInvocation) : Call Request.Response FactorResult :=
  match i.call with
  | .verifyTotp challengeID code client => do
    return .signedIn (← (i.settings.verifyTotp p challengeID code client).call)
  | .verifySecondFactorCode userID code => do
    return .matched (← (i.settings.verifySecondFactorCode userID code).call)

abbrev FactorPool := Pool Request.Response Repo FactorResult

def FactorCall.challengeID : FactorCall → Option String
  | verifyTotp challengeID _ _ => some challengeID
  | verifySecondFactorCode _ _ => none

/-- A verification reads the account only once its challenge was accepted. -/
def readsUser : Request → Bool
  | .user (.getUser _) => true
  | _ => false

section Keeps
variable (i : FactorInvocation) (caller : Nat)

/-- Every recovery code the call has found unused it has marked. -/
def CodesMarked (own : Trace) : Prop :=
  ∀ userID codeHash row, FoundSlip caller own .recoveryCode userID codeHash row →
    Pool.Took (fun event => spendsSlip .recoveryCode row.nodeID event.req = true) own caller

/-- The call has found its challenge and deleted it. -/
def ChallengeSpent (own : Trace) : Prop :=
  ∃ challengeID row, i.call.challengeID = some challengeID ∧ FoundSlip caller own .loginChallenge "" challengeID row ∧
    Pool.Took (fun event => spendsSlip .loginChallenge row.nodeID event.req = true) own caller

def FactorGuard (own : Trace) (q : Request) : Prop :=
  SlipStep caller own q ∧ (readsUser q = true → ChallengeSpent i caller own)

structure FactorPost (own : Trace) : Prop where
  codes : CodesMarked caller own
  challenge : Pool.Took (fun event => readsUser event.req = true) own caller → ChallengeSpent i caller own

variable {i caller} {α β : Type}

lemma slipFound_eq_none (hfinds : q.findsSlip = false) (resp : q.Response) : slipFound q resp = none := by
  unfold slipFound
  split <;> first | rfl | cases hfinds

lemma ChallengeSpent.suffix (hspent : ChallengeSpent i caller own)
    (hsuffix : own <:+ own') : ChallengeSpent i caller own' := by
  obtain ⟨challengeID, row, hcall, hfound, event, hmem, hrest⟩ := hspent
  exact ⟨challengeID, row, hcall, hfound.suffix hsuffix, event, hsuffix.subset hmem, hrest⟩

/-- A step that finds no unused code leaves none unmarked. -/
lemma CodesMarked.cons (hmarked : CodesMarked caller own) (resp : q.Response)
    (hnone : ∀ userID codeHash row, slipFound q resp = some (.recoveryCode, userID, codeHash, row) →
      row.spent = true) :
    CodesMarked caller (⟨caller, q, resp⟩ :: own) := by
  rintro userID codeHash row ⟨event, hmem, hcaller, hfound, hunspent⟩
  rcases List.mem_cons.mp hmem with rfl | hold
  · rw [hnone userID codeHash row hfound] at hunspent
    cases hunspent
  · exact (hmarked userID codeHash row ⟨event, hold, hcaller, hfound, hunspent⟩).cons _

/-- What is spent stays so, and an account is read only then. -/
lemma FactorPost.challenge_cons (hpost : FactorPost i caller own) (resp : q.Response)
    (hguard : readsUser q = true → ChallengeSpent i caller own)
    (htook : Pool.Took (fun event => readsUser event.req = true) (⟨caller, q, resp⟩ :: own) caller) :
    ChallengeSpent i caller (⟨caller, q, resp⟩ :: own) := by
  rcases Pool.took_cons htook with ⟨-, hreads⟩ | hold
  · exact (hguard hreads).suffix (List.suffix_cons _ _)
  · exact (hpost.challenge hold).suffix (List.suffix_cons _ _)

lemma FactorPost.cons (hpost : FactorPost i caller own) (hfinds : q.findsSlip = false)
    (hguard : FactorGuard i caller own q) (resp : q.Response) : FactorPost i caller (⟨caller, q, resp⟩ :: own) where
  codes := hpost.codes.cons resp fun userID codeHash row hfound => by
    rw [slipFound_eq_none hfinds] at hfound
    cases hfound
  challenge := hpost.challenge_cons resp hguard.2

lemma factorPost_nil : FactorPost i caller [] where
  codes _ _ _ := fun ⟨_, hmem, _⟩ => nomatch hmem
  challenge := fun ⟨_, hmem, _⟩ => nomatch hmem

lemma factorGuard_leaves (hleaves : q.leavesSlips = true) (hreads : readsUser q = false) :
    FactorGuard i caller own q :=
  ⟨.leaves hleaves, fun h => absurd (hreads.symm.trans h) Bool.false_ne_true⟩

/-- Once the challenge is spent, a part that leaves slips alone and looks none up. -/
lemma ChallengeSpent.through {next : α → ServiceCall β}
    (hspent : ChallengeSpent i caller own)
    (hpost : FactorPost i caller own) (hflow : flow.Makes fun q => q.leavesSlips = true ∧ q.findsSlip = false)
    (hnext : ∀ own' value, ChallengeSpent i caller own' → FactorPost i caller own' →
      (next value).Keeps caller (FactorGuard i caller) ok (fun own' _ => FactorPost i caller own') own') :
    (flow >>= next).Keeps caller (FactorGuard i caller) ok (fun own' _ => FactorPost i caller own') own := by
  have hguard : ∀ own' q, ChallengeSpent i caller own' → q.leavesSlips = true → FactorGuard i caller own' q :=
    fun own' q h hleaves => ⟨.leaves hleaves, fun _ => h⟩
  refine hflow.through (P := fun own' => ChallengeSpent i caller own' ∧ FactorPost i caller own') ⟨hspent, hpost⟩ ?_
    (fun own' q h hmade => hguard own' q h.1 hmade.1) (fun _ _ h => h.2) fun own' value h => hnext own' value h.1 h.2
  rintro own' q resp ⟨hspent', hpost'⟩ ⟨hleaves, hfinds⟩
  exact ⟨hspent'.suffix (List.suffix_cons _ _), hpost'.cons hfinds (hguard own' q hspent' hleaves) resp⟩

end Keeps

lemma useRecoveryCode_keeps (userID codeHash : String) (hpost : FactorPost i caller own) :
    (AuthService.useRecoveryCode userID codeHash).Leaves caller (FactorGuard i caller) (FactorPost i caller) own := by
  refine .ite (fun _ => hpost) fun _ => ?_
  refine .ask (factorGuard_leaves rfl rfl) fun found => ?_
  have hchallenge := hpost.challenge_cons (q := .credential (.findRecoveryCodeByHash userID codeHash)) found nofun
  cases found with
  | none => exact ⟨hpost.codes.cons _ nofun, hchallenge⟩
  | some rc =>
    refine .ite (fun hused => ⟨hpost.codes.cons _ ?_, hchallenge⟩) fun hunused => ?_
    · intro _ _ row hfound
      cases hfound
      exact hused
    have hfound : FoundSlip caller (⟨caller, .credential (.findRecoveryCodeByHash userID codeHash), some rc⟩ :: own)
        .recoveryCode userID codeHash (recoverySlip rc) := FoundSlip.head rfl (Bool.eq_false_iff.mpr hunused)
    refine .nowMs (factorGuard_leaves rfl rfl) fun now => ?_
    have hspends : spendsSlip .recoveryCode (recoverySlip rc).nodeID
        (.credential (.updateRecoveryCode rc.nodeID (spentCode now))) = true := by
      have hpatch : (spentCode now).lookup "used" = some (.bool true) := rfl
      simp [spendsSlip, recoverySlip, hpatch]
    refine .attempted ⟨.spends (hfound.cons _) hspends nofun, nofun⟩ fun resp => ?_
    refine ⟨?_, ?_⟩
    · -- the code just found is the one just marked
      rintro userID' codeHash' row ⟨event, hmem, hcaller, hevent, hunspent⟩
      have hold : event ∈ own → Pool.Took (fun event => spendsSlip .recoveryCode row.nodeID event.req = true)
        own caller :=
        fun hmem => hpost.codes userID' codeHash' row ⟨event, hmem, hcaller, hevent, hunspent⟩
      rcases List.mem_cons.mp hmem with rfl | hmem
      · cases hevent
      rcases List.mem_cons.mp hmem with rfl | hmem
      · cases hevent
      rcases List.mem_cons.mp hmem with rfl | hmem
      · cases hevent
        exact ⟨_, .head _, rfl, hspends⟩
      · exact (((hold hmem).cons _).cons _).cons _
    intro htook
    rcases Pool.took_cons htook with ⟨-, hreads⟩ | htook
    · cases hreads
    rcases Pool.took_cons htook with ⟨-, hreads⟩ | htook
    · cases hreads
    · exact (hchallenge htook).suffix ((List.suffix_cons _ _).later)

lemma matchSecondFactor_keeps (s : AuthService) (cred : TotpCredRecord) (userID code : String)
    (hpost : FactorPost i caller own) : (s.matchSecondFactor cred userID code).Leaves caller (FactorGuard i caller)
      (FactorPost i caller) own := by
  refine .ite (fun _ => hpost) fun _ => ?_
  refine .bind ((useRecoveryCode_keeps userID _ hpost).mono (fun own' used h => ?_) fun _ _ h => h)
  exact .ite (fun _ => h) fun _ => h

lemma verifySecondFactorCode_keeps (s : AuthService) (userID code : String) (hpost : FactorPost i caller own) :
    (s.verifySecondFactorCode userID code).Leaves caller (FactorGuard i caller) (FactorPost i caller) own := by
  refine .ask (factorGuard_leaves rfl rfl) fun cred => ?_
  have hcred := hpost.cons (q := .credential (.getTotpCredential userID)) rfl (factorGuard_leaves rfl rfl) cred
  cases cred with
  | none => exact hcred
  | some cred =>
    refine .refuseIf (fun _ => hcred) fun _ => ?_
    refine .bind ((matchSecondFactor_keeps s cred userID code hcred).mono ?_ fun _ _ h => h)
    intro own1 method h1
    refine .nowMs (factorGuard_leaves rfl rfl) fun now => ?_
    have h2 := h1.cons (q := .clock) rfl (factorGuard_leaves rfl rfl) now
    refine .attempted (factorGuard_leaves rfl rfl) fun resp => ?_
    exact h2.cons rfl (factorGuard_leaves rfl rfl) resp

/-- A challenge that is accepted has been deleted. -/
lemma consumeLoginChallenge_keeps (hcall : i.call.challengeID = some challengeID) (hpost : FactorPost i caller own) :
    (AuthService.consumeLoginChallenge challengeID).Keeps caller (FactorGuard i caller)
      (fun own' _ => FactorPost i caller own' ∧ ChallengeSpent i caller own')
      (fun own' _ => FactorPost i caller own') own := by
  refine .ask (factorGuard_leaves rfl rfl) fun found => ?_
  have hchallenge := hpost.challenge_cons (q := .credential (.getLoginChallengeByChallengeID challengeID)) found nofun
  cases found with
  | none => exact ⟨hpost.codes.cons _ nofun, hchallenge⟩
  | some record =>
    have h1 : FactorPost i caller
        (⟨caller, .credential (.getLoginChallengeByChallengeID challengeID), some record⟩ :: own) :=
      ⟨hpost.codes.cons _ nofun, hchallenge⟩
    have hfound : FoundSlip caller
      (⟨caller, .credential (.getLoginChallengeByChallengeID challengeID), some record⟩ :: own)
        .loginChallenge "" challengeID (challengeSlip record) := FoundSlip.head rfl rfl
    refine .nowMs (factorGuard_leaves rfl rfl) fun now => ?_
    have h2 := h1.cons (q := .clock) rfl (factorGuard_leaves rfl rfl) now
    have hspends : spendsSlip .loginChallenge (challengeSlip record).nodeID
        (.credential (.deleteLoginChallenge record.nodeID)) = true := by simp [spendsSlip, challengeSlip]
    have hguard : FactorGuard i caller _ (.credential (.deleteLoginChallenge record.nodeID)) :=
      ⟨.spends (hfound.cons ⟨caller, .clock, now⟩) hspends nofun, nofun⟩
    refine .ite (fun _ => ?_) fun _ => ?_
    · exact .ask hguard fun resp => h2.cons rfl hguard resp
    · refine .ask hguard fun resp => ⟨h2.cons rfl hguard resp, ?_⟩
      exact ⟨challengeID, challengeSlip record, hcall, (hfound.cons _).cons _, _, .head _, rfl, hspends⟩

lemma verifyTotp_keeps (p : Platform) (s : AuthService) (code : String) (client : ClientInfo)
    (hcall : i.call.challengeID = some challengeID) :
    (s.verifyTotp p challengeID code client).Leaves caller (FactorGuard i caller) (FactorPost i caller) [] := by
  refine .refuseIf (fun _ => factorPost_nil) fun _ => ?_
  refine .refuseIf (fun _ => factorPost_nil) fun _ => ?_
  refine .bind ((consumeLoginChallenge_keeps hcall factorPost_nil).mono ?_ fun _ _ h => h)
  rintro own1 record ⟨h1, hspent1⟩
  refine hspent1.through h1 (makes_getUser ⟨rfl, rfl⟩) fun own2 user hspent2 h2 => ?_
  cases user with
  | none => exact h2
  | some user =>
    refine hspent2.through h2 (makes_check _) fun own3 _ hspent3 h3 => ?_
    refine .bind ((verifySecondFactorCode_keeps s _ code h3).suffix.mono ?_ fun _ _ h => h.2)
    rintro own4 method ⟨hsuffix, h4⟩
    refine (hspent3.suffix hsuffix).through h4 ?_ fun own5 issued _ h5 => h5
    exact (s.issueTokens_makes p user client).mono fun _ hstep => hstep.leaves_finds

lemma FactorInvocation.program_keeps (p : Platform) (i : FactorInvocation) (caller : Nat) :
    (i.program p).Keeps caller (FactorGuard i caller) (fun own _ => FactorPost i caller own) [] := by
  obtain ⟨s, call⟩ := i
  cases call with
  | verifyTotp challengeID code client => exact (verifyTotp_keeps p s code client rfl).wrap
  | verifySecondFactorCode userID code => exact (verifySecondFactorCode_keeps s userID code factorPost_nil).wrap

/-- The verification succeeded, and by a recovery code: it found the code unused. -/
def SucceedsByCode (userID codeHash : String) (pool : FactorPool) (caller : Nat) : Prop :=
  (∃ result, pool.result caller = some result ∧ result.succeeded = true) ∧
    Pool.Took (FindsSlip .recoveryCode userID codeHash) pool.trace caller

/-- A step of a verification that has accepted the challenge. -/
def AcceptsChallenge (calls : List FactorInvocation) (challengeID : String) (event : StoreEvent) : Prop :=
  ∃ i, calls[event.caller]? = some i ∧ i.call.challengeID = some challengeID ∧ readsUser event.req = true

section
variable {calls : List FactorInvocation} {id : Option String}
variable (calls) in
def FactorCallsGuard (caller : Nat) (own : Trace) (q : Request) : Prop :=
  ∃ i, calls[caller]? = some i ∧ FactorGuard i caller own q

variable (calls) in
def FactorCallsPost (caller : Nat) (own : Trace) (_ : FactorResult) : Prop :=
  ∃ i, calls[caller]? = some i ∧ FactorPost i caller own

lemma factor_keep (p : Platform) (calls : List FactorInvocation) (r : Repo) :
    (Pool.start r (calls.map fun i => i.program p)).Keep (FactorCallsGuard calls) (FactorCallsPost calls) := by
  have hkeeps : ∀ (i : FactorInvocation) (caller : Nat),
      (i.program p).Keeps caller (FactorGuard i caller) (fun own _ => FactorPost i caller own) [] :=
    fun i caller => i.program_keeps p caller
  exact Pool.keep_start hkeeps r

lemma FactorCallsGuard.slipStep (hguard : FactorCallsGuard calls caller own q) : SlipStep caller own q := by
  obtain ⟨-, -, hstep, -⟩ := hguard
  exact hstep

/-- A write spends one slip. -/
lemma spendsSlip_inj (h1 : spendsSlip slip1 key1 q = true)
    (h2 : spendsSlip slip2 key2 q = true) : slip1 = slip2 ∧ key1 = key2 := by
  unfold spendsSlip at h1 h2
  split at h1 <;> simp_all

/-- Recovery codes: the mark is the step that acts. -/
lemma code_oneShot : Pool.OneShot (handle p) (FactorCallsGuard calls) (FactorCallsPost calls)
      (SlipNamed .recoveryCode userID codeHash id) (fun r => ∀ key, id = some key → SpentSlip r .recoveryCode key)
      (ToldOfSlip .recoveryCode userID codeHash id) (FindsSlip .recoveryCode userID codeHash)
      (fun event => settlesSlip .recoveryCode id event.req = true) (asksSlip .recoveryCode userID codeHash)
      (settlesSlip .recoveryCode id) := by
  refine slip_oneShot (fun _ _ _ h => h.slipStep) ?_ fun _ _ _ _ _ hmarked => hmarked
  intro caller own q resp htold hguard hsettles
  obtain ⟨key, rfl, hspends⟩ := (any_eq_true _ _).mp hsettles
  cases hguard.slipStep with
  | leaves hleaves =>
    rw [spendsSlip_not_leaves hspends] at hleaves
    cases hleaves
  | spends hfound hspends' _ =>
    obtain ⟨rfl, rfl⟩ := spendsSlip_inj hspends hspends'
    obtain ⟨event, hmem, hcaller, hevent, hunspent⟩ := hfound
    obtain ⟨rfl, rfl⟩ := ((htold event hmem).named _ _ _ hevent).mp rfl
    exact ⟨event, hmem, hcaller, _, hevent, hunspent⟩

/-- Login challenges: a verification goes on once it has deleted the challenge. -/
lemma challenge_oneShot : Pool.OneShot (handle p) (FactorCallsGuard calls) (FactorCallsPost calls)
      (SlipNamed .loginChallenge "" challengeID id) (fun r => ∀ key, id = some key → SpentSlip r .loginChallenge key)
      (ToldOfSlip .loginChallenge "" challengeID id) (FindsSlip .loginChallenge "" challengeID)
      (AcceptsChallenge calls challengeID) (asksSlip .loginChallenge "" challengeID)
        (settlesSlip .loginChallenge id) := by
  refine slip_oneShot (fun _ _ _ h => h.slipStep) ?_ ?_
  · rintro caller own q resp - ⟨i, hi, -, hguard⟩ ⟨i', hi', hcall, hreads⟩
    obtain rfl := some.inj (hi.symm.trans hi')
    obtain ⟨challengeID', row, hcall', ⟨event, hmem, hcaller, hfound, hunspent⟩, -⟩ := hguard hreads
    obtain rfl := some.inj (hcall.symm.trans hcall')
    exact ⟨event, hmem, hcaller, row, hfound, hunspent⟩
  rintro caller own - htold ⟨i, hi, hpost⟩ ⟨event, hmem, rfl, i', hi', hcall, hreads⟩
  obtain rfl := some.inj (hi.symm.trans hi')
  obtain ⟨challengeID', row, hcall', ⟨found, hfoundMem, -, hfound, -⟩, spends, hspendsMem, hcaller, hspends⟩ :=
    hpost.challenge ⟨event, hmem, rfl, hreads⟩
  obtain rfl := some.inj (hcall.symm.trans hcall')
  have hid : id = some row.nodeID := ((htold found hfoundMem).named _ _ _ hfound).mpr ⟨rfl, rfl⟩
  refine ⟨spends, hspendsMem, hcaller, ?_⟩
  rw [hid]
  exact hspends

/-- A verification that succeeded by a code has marked it. -/
lemma SucceedsByCode.marked (hkeep : pool.Keep (FactorCallsGuard calls) (FactorCallsPost calls))
    (htold : ∀ event ∈ pool.trace, ToldOfSlip .recoveryCode userID codeHash id event)
    (hsucceeds : SucceedsByCode userID codeHash pool caller) :
    Pool.Took (fun event => settlesSlip .recoveryCode id event.req = true) pool.trace caller := by
  obtain ⟨⟨result, hresult, -⟩, event, hmem, rfl, row, hfound, hunspent⟩ := hsucceeds
  obtain ⟨i, -, hpost⟩ := hkeep.result hresult
  obtain ⟨marked, hmarkedMem, hcaller, hspends⟩ :=
    hpost.codes userID codeHash row ⟨event, Pool.mem_own hmem, rfl, hfound, hunspent⟩
  have hid : id = some row.nodeID := ((htold event hmem).named _ _ _ hfound).mpr ⟨rfl, rfl⟩
  refine ⟨marked, (Pool.mem_trace hmarkedMem), hcaller, ?_⟩
  rw [hid]
  exact hspends

end

/-- Recovery codes and login challenges are used once, in every interleaving in which a
    verification looks one up only when every other one that has looked it up has
    returned or has marked or deleted it. -/
theorem second_factor_single_use (p : Platform) (r : Repo) (calls : List FactorInvocation)
    (schedule : List (Nat × Tick)) :
    let pool := Pool.start r (calls.map fun i => i.program p)
    (∀ userID codeHash, SlipsUnique r .recoveryCode →
      pool.Along (handle p) (Pool.Apart (asksSlip .recoveryCode userID codeHash)
        (settlesSlip .recoveryCode (slipID r .recoveryCode userID codeHash))) schedule →
      ∀ caller₁ caller₂, SucceedsByCode userID codeHash (pool.run (handle p) schedule) caller₁ →
        SucceedsByCode userID codeHash (pool.run (handle p) schedule) caller₂ → caller₁ = caller₂) ∧
    (∀ challengeID, SlipsUnique r .loginChallenge →
      pool.Along (handle p) (Pool.Apart (asksSlip .loginChallenge "" challengeID)
        (settlesSlip .loginChallenge (slipID r .loginChallenge "" challengeID))) schedule →
      ∀ caller₁ caller₂, Pool.Took (AcceptsChallenge calls challengeID) (pool.run (handle p) schedule).trace caller₁ →
        Pool.Took (AcceptsChallenge calls challengeID) (pool.run (handle p) schedule).trace caller₂ →
        caller₁ = caller₂) := by
  have hkeep := factor_keep p calls r
  refine ⟨fun userID codeHash hunique hapart caller₁ caller₂ hcode1 hcode2 => ?_,
    fun challengeID hunique hapart caller₁ caller₂ haccepts1 haccepts2 => ?_⟩
  · have hnamed := slipNamed_slipID hunique userID codeHash
    have htold := (code_oneShot.run hkeep hnamed schedule hapart).1.told
    have hrun := hkeep.run (h := handle p) schedule
    exact code_oneShot.once hkeep hnamed schedule hapart (hcode1.marked hrun htold) (hcode2.marked hrun htold)
  · exact challenge_oneShot.once hkeep (slipNamed_slipID hunique "" challengeID) schedule hapart haccepts1 haccepts2

def sampleRecoveryCode : RecoveryCodeRecord where
  userID := "alice"
  codeHash := "hash of code"
  createdAt := 1

def sampleLoginChallenge : LoginChallengeRecord where
  challengeID := "challenge-1"
  userID := "alice"
  expiresAt := 1000
  createdAt := 1

/-- Someone with two-step sign-in, one recovery code and a challenge to answer. -/
def sampleFactorStore : Repo :=
  run samplePlatform new
    [(.user (.createUser { id := "alice", status := "active", kind := .person }), sampleTick),
     (.credential (.createTotpCredential { userID := "alice", secretEncrypted := "secret", verified := true,
                                           createdAt := 1 }),
        sampleTick),
     (.credential (.createRecoveryCode sampleRecoveryCode), sampleTick),
     (.credential (.createLoginChallenge sampleLoginChallenge), sampleTick)]

/-- The challenge is answered twice, with the same recovery code. -/
def sampleFactorCalls : List FactorInvocation :=
  [⟨sampleAuth, .verifyTotp "challenge-1" "code" ⟨"", ""⟩⟩, ⟨sampleAuth, .verifyTotp "challenge-1" "code" ⟨"", ""⟩⟩]

def factorTurns (caller steps : Nat) (rand : String) : List (Nat × Tick) :=
  List.replicate steps (caller, ⟨20, sampleTick.pos, rand⟩)

def sampleFactorRun (schedule : List (Nat × Tick)) : FactorPool :=
  (Pool.start sampleFactorStore (sampleFactorCalls.map fun i => i.program samplePlatform)).run (handle samplePlatform)
    schedule

lemma sampleFactorStore_codes : SlipsUnique sampleFactorStore .recoveryCode := by
  refine slipsUnique_single "mem-2" fun key row hrow => ?_
  obtain ⟨found, hfound, rfl⟩ := Option.map_eq_some_iff.mp hrow
  obtain ⟨rfl, rfl⟩ := GoMap.lookup_single hfound
  exact ⟨rfl, rfl⟩

lemma sampleFactorStore_challenges : SlipsUnique sampleFactorStore .loginChallenge := by
  refine slipsUnique_single "mem-3" fun key row hrow => ?_
  obtain ⟨found, hfound, rfl⟩ := Option.map_eq_some_iff.mp hrow
  obtain ⟨rfl, rfl⟩ := GoMap.lookup_single hfound
  exact ⟨rfl, rfl⟩

/-- One verification, then the other. -/
def sampleFactorSequence : List (Nat × Tick) := factorTurns 0 19 "sid-1" ++ factorTurns 1 1 "sid-2"

/-- Both look the challenge up, and the recovery code, before either deletes or marks
    it. -/
def sampleFactorRace : List (Nat × Tick) :=
  factorTurns 0 1 "sid-1" ++ factorTurns 1 6 "sid-2" ++ factorTurns 0 18 "sid-1" ++ factorTurns 1 13 "sid-2"

lemma succeedsByCode_of (step : Nat) (row : SlipRow)
    (hresult : ((sampleFactorRun schedule).result caller).any FactorResult.succeeded = true)
    (hfound : ((sampleFactorRun schedule).trace[step]?.any fun event => event.caller == caller &&
      slipFound event.req event.resp == some (.recoveryCode, "alice", "hash of code", row)) = true)
    (hunspent : row.spent = false) : SucceedsByCode "alice" "hash of code" (sampleFactorRun schedule) caller := by
  obtain ⟨result, hresult, hsucceeded⟩ := (any_eq_true _ _).mp hresult
  obtain ⟨event, hevent, hmatch⟩ := (any_eq_true _ _).mp hfound
  rw [Bool.and_eq_true, beq_iff_eq, beq_iff_eq] at hmatch
  exact ⟨⟨result, hresult, hsucceeded⟩, event, List.mem_of_getElem? hevent, hmatch.1, row, hmatch.2, hunspent⟩

set_option maxRecDepth 4000 in
/-- One after the other, the first verification succeeds and the second is refused. -/
theorem second_factor_single_use_sequential :
    SucceedsByCode "alice" "hash of code" (sampleFactorRun sampleFactorSequence) 0 ∧
    (∀ caller, SucceedsByCode "alice" "hash of code" (sampleFactorRun sampleFactorSequence) caller → caller = 0) ∧
    Pool.Took (AcceptsChallenge sampleFactorCalls "challenge-1") (sampleFactorRun sampleFactorSequence).trace 0 ∧
    (∀ caller, Pool.Took (AcceptsChallenge sampleFactorCalls "challenge-1")
      (sampleFactorRun sampleFactorSequence).trace caller → caller = 0) := by
  have hcodes : Pool.Along (handle samplePlatform) (Pool.Apart (asksSlip .recoveryCode "alice" "hash of code")
      (settlesSlip .recoveryCode (slipID sampleFactorStore .recoveryCode "alice" "hash of code"))) (sampleFactorRun [])
      sampleFactorSequence := by decide +kernel
  have hchallenges : Pool.Along (handle samplePlatform) (Pool.Apart (asksSlip .loginChallenge "" "challenge-1")
      (settlesSlip .loginChallenge (slipID sampleFactorStore .loginChallenge "" "challenge-1"))) (sampleFactorRun [])
      sampleFactorSequence := by decide +kernel
  have hsingle := second_factor_single_use samplePlatform sampleFactorStore sampleFactorCalls sampleFactorSequence
  have hcode : SucceedsByCode "alice" "hash of code" (sampleFactorRun sampleFactorSequence) 0 :=
    succeedsByCode_of 14 ⟨"mem-2", "alice", "hash of code", false⟩ (by decide +kernel) (by decide +kernel) rfl
  have haccepts : Pool.Took (AcceptsChallenge sampleFactorCalls "challenge-1")
      (sampleFactorRun sampleFactorSequence).trace 0 :=
    ⟨_, List.mem_of_getElem? (i := 16) rfl, rfl, _, rfl, rfl, rfl⟩
  refine ⟨hcode, fun caller hother => ?_, haccepts, fun caller hother => ?_⟩
  · exact hsingle.1 "alice" "hash of code" sampleFactorStore_codes hcodes caller 0 hother hcode
  · exact hsingle.2 "challenge-1" sampleFactorStore_challenges hchallenges caller 0 hother haccepts

set_option maxRecDepth 4000 in
/-- Both verifications find the challenge and the code, and both succeed. -/
theorem second_factor_used_twice : SucceedsByCode "alice" "hash of code" (sampleFactorRun sampleFactorRace) 0 ∧
    SucceedsByCode "alice" "hash of code" (sampleFactorRun sampleFactorRace) 1 ∧
    Pool.Took (AcceptsChallenge sampleFactorCalls "challenge-1") (sampleFactorRun sampleFactorRace).trace 0 ∧
    Pool.Took (AcceptsChallenge sampleFactorCalls "challenge-1") (sampleFactorRun sampleFactorRace).trace 1 := by
  refine ⟨?_, ?_, ?_, ?_⟩
  · exact succeedsByCode_of 26 ⟨"mem-2", "alice", "hash of code", false⟩ (by decide +kernel) (by decide +kernel) rfl
  · exact succeedsByCode_of 31 ⟨"mem-2", "alice", "hash of code", false⟩ (by decide +kernel) (by decide +kernel) rfl
  · exact ⟨_, List.mem_of_getElem? (i := 28) rfl, rfl, _, rfl, rfl, rfl⟩
  · exact ⟨_, List.mem_of_getElem? (i := 33) rfl, rfl, _, rfl, rfl, rfl⟩

end identity.service
