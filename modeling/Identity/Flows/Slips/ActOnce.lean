import Identity.Flows.Accounts.Service
import Identity.Flows.Slips.Redemption
import Identity.Repository.Delegation

open identity.repository identity.memory
namespace identity.service

/-- The calls that redeem a mailed token or an invitation. -/
inductive TokenCall where
  | confirmPasswordReset (token newPassword : String)
  | confirmEmailChange (token : String)
  | acceptInvitation (token password name : String) (client : ClientInfo)

inductive TokenResult where
  | reset (result : Except Err Unit)
  | changed (result : Except Err User)
  | accepted (result : Except Err LoginResult)

structure TokenInvocation where
  settings : AuthService
  call : TokenCall

def TokenInvocation.program (p : Platform) (i : TokenInvocation) : Call Request.Response TokenResult :=
  match i.call with
  | .confirmPasswordReset token newPassword => do
    return .reset (← (i.settings.confirmPasswordReset p token newPassword).call)
  | .confirmEmailChange token => do
    return .changed (← (i.settings.confirmEmailChange p token).call)
  | .acceptInvitation token password name client => do
    return .accepted (← (i.settings.acceptInvitation p token password name client).call)

abbrev TokenPool := Pool Request.Response Repo TokenResult

namespace TokenCall

def slip : TokenCall → Slip
  | confirmPasswordReset _ _ => .passwordReset
  | confirmEmailChange _ => .emailChange
  | acceptInvitation _ _ _ _ => .invitation

def token : TokenCall → String
  | confirmPasswordReset token _ => token
  | confirmEmailChange token => token
  | acceptInvitation token _ _ _ => token

/-- The requests by which a token acts: it sets a password, moves the address, or sets a
    password and opens a session. -/
def mayAct : TokenCall → Request → Bool
  | confirmPasswordReset _ _, .user (.updateUser _ patch) => (patch.lookup "password_hash").isSome
  | confirmEmailChange _, .user (.updateUserEmail _ _ _) => true
  | acceptInvitation _ _ _ _, .user (.updateUser _ patch) => (patch.lookup "password_hash").isSome
  | acceptInvitation _ _ _ _, .session (.createRefreshToken _) => true
  | _, _ => false

lemma mayAct_of_isRead (call : TokenCall) (hread : q.isRead = true) : call.mayAct q = false := by
  cases call <;> cases q <;> first | rfl | (rename_i q; cases q <;> first | rfl | cases hread)

end TokenCall

/-- Whether the store did what was asked. -/
def performed : (q : Request) → q.Response → Bool
  | .user (.updateUser _ _), answer => Except.toBool answer
  | .user (.updateUserEmail _ _ _), answer => Except.toBool answer
  | _, _ => true

section Keeps
variable (p : Platform) (i : TokenInvocation) (caller : Nat)

/-- The call has found the slip it was called with. -/
abbrev TokenFound (own : Trace) (row : SlipRow) : Prop :=
  FoundSlip caller own i.call.slip "" (p.sha256Hex i.call.token) row

/-- The call has spent the slip it found. -/
@[grind]
structure TokenSpent (own : Trace) (row : SlipRow) : Prop where
  found : TokenFound p i caller own row
  spent : Pool.Took (fun event => spendsSlip i.call.slip row.nodeID event.req = true) own caller

def TokenGuard (own : Trace) (q : Request) : Prop :=
  SlipStep caller own q ∧ (i.call.mayAct q = true → ∃ row, TokenFound p i caller own row)

/-- A call that has acted has spent its slip. -/
def TokenPost (own : Trace) : Prop :=
  Pool.Took (fun event => i.call.mayAct event.req = true ∧ performed event.req event.resp = true) own caller →
    ∃ row, TokenSpent p i caller own row

variable {p i caller} {α β : Type}
section
variable (hspent : TokenSpent p i caller own row)
include hspent

lemma TokenSpent.cons (event : StoreEvent) :
    TokenSpent p i caller (event :: own) row := ⟨hspent.found.cons event, hspent.spent.cons event⟩

lemma TokenSpent.post : TokenPost p i caller own := fun _ => ⟨row, hspent⟩

/-- The end of a call whose slip was spent. -/
lemma TokenSpent.ends {flow : ServiceCall α} (hflow : flow.Makes fun q => q.leavesSlips = true) :
    flow.Leaves caller (TokenGuard p i caller) (TokenPost p i caller) own := by
  refine Routine.Makes.lasting hflow (P := fun own' => TokenSpent p i caller own' row) hspent ?_ ?_
    (fun _ _ h => h.post) fun _ _ h => h.post
  · exact fun own' q resp h _ => h.cons _
  · exact fun own' q h hleaves => ⟨.leaves hleaves, fun _ => ⟨row, h.found⟩⟩

end

lemma TokenPost.nil : TokenPost p i caller [] := fun ⟨_, hmem, _⟩ => nomatch hmem

/-- A step that does not act leaves the call as settled as it was. -/
lemma TokenPost.cons (hpost : TokenPost p i caller own) (resp : q.Response)
    (hnot : i.call.mayAct q = false ∨ performed q resp = false) : TokenPost p i caller (⟨caller, q, resp⟩ :: own) := by
  intro hacted
  rcases Pool.took_cons hacted with ⟨-, hacts, hdone⟩ | hold
  · grind
  · obtain ⟨row, hspent⟩ := hpost hold
    exact ⟨row, hspent.cons _⟩

lemma tokenGuard_read (hread : q.isRead = true) : TokenGuard p i caller own q := by
  refine ⟨.leaves (leavesSlips_of_isRead hread), fun hacts => ?_⟩
  rw [i.call.mayAct_of_isRead hread] at hacts
  cases hacts

variable {ok : Trace → β → Prop} {next : α → ServiceCall β}

/-- A part that only looks. -/
lemma Looks.tokens (hlooks : Looks flow) (hpost : TokenPost p i caller own)
    (hnext : ∀ own' value, own <:+ own' → TokenPost p i caller own' →
      (next value).Keeps caller (TokenGuard p i caller) ok (fun own' _ => TokenPost p i caller own') own') :
    (flow >>= next).Keeps caller (TokenGuard p i caller) ok (fun own' _ => TokenPost p i caller own') own := by
  refine Routine.Makes.through hlooks (P := fun own' => own <:+ own' ∧ TokenPost p i caller own')
    ⟨List.suffix_refl own, hpost⟩ ?_ (fun _ _ _ hread => tokenGuard_read (isRead_of_isPlain hread)) (fun _ _ h => h.2)
      fun own' value h =>
      hnext own' value h.1 h.2
  rintro own' q resp ⟨hsuffix, hpost'⟩ hread
  exact ⟨hsuffix.later, hpost'.cons resp (.inl (i.call.mayAct_of_isRead (isRead_of_isPlain hread)))⟩

/-- The clock is read, and the reading is on record. -/
lemma nowMs_tokens {next : Int → ServiceCall β} (hpost : TokenPost p i caller own)
    (hnext : ∀ now : Int, TokenPost p i caller (⟨caller, .clock, now⟩ :: own) →
      (next now).Keeps caller (TokenGuard p i caller) ok (fun own' _ => TokenPost p i caller own')
        (⟨caller, .clock, now⟩ :: own)) :
    (nowMs >>= next).Keeps caller (TokenGuard p i caller) ok (fun own' _ => TokenPost p i caller own') own :=
  .nowMs (tokenGuard_read rfl) fun now => hnext now (hpost.cons _ (.inl (i.call.mayAct_of_isRead rfl)))

/-- The step by which the token acts. One the store refuses ends the call. -/
lemma acts_tokens {answer : q.Response → Except Err α} (hpost : TokenPost p i caller own)
    (hfound : TokenFound p i caller own row) (hleaves : q.leavesSlips = true)
    (hrefused : ∀ resp err, answer resp = .error err → performed q resp = false)
    (hnext : ∀ resp value, TokenFound p i caller (⟨caller, q, resp⟩ :: own) row →
      (next value).Keeps caller (TokenGuard p i caller) ok (fun own' _ => TokenPost p i caller own')
        (⟨caller, q, resp⟩ :: own)) :
    (attemptRequest q answer >>= next).Keeps caller (TokenGuard p i caller) ok
      (fun own' _ => TokenPost p i caller own') own := by
  refine .attemptRequest ⟨.leaves hleaves, fun _ => ⟨row, hfound⟩⟩ fun resp => ?_
  refine ⟨fun value _ => hnext resp value (hfound.cons _), fun err herr => ?_⟩
  exact hpost.cons resp (.inr (hrefused resp err herr))

/-- The step that spends the slip. Its answer is ignored. -/
lemma spends_tokens {next : Except Err α → ServiceCall β}
    (hfound : TokenFound p i caller own row) (hspends : spendsSlip i.call.slip row.nodeID q = true)
    (hnot : i.call.mayAct q = false)
    (hclock : ∀ atMs : Int, atMs ∈ q.timestamps → (⟨caller, .clock, atMs⟩ : StoreEvent) ∈ own)
    (hnext : ∀ own' value, TokenSpent p i caller own' row →
      (next value).Keeps caller (TokenGuard p i caller) ok fails own') :
    ((attemptRequest q answer).attempt >>= next).Keeps caller (TokenGuard p i caller) ok fails own := by
  refine .attempted ⟨.spends hfound hspends hclock, fun hacts => ?_⟩ fun resp => ?_
  · rw [hnot] at hacts
    cases hacts
  · exact hnext _ _ ⟨hfound.cons _, _, .head _, rfl, hspends⟩

end Keeps

/-- What a call finds out about the token presented to it. -/
lemma presentedToken_keeps (hpost : TokenPost p i caller own)
    (hslip : ∀ t : EmailTokenRecord, slipFound (.credential (.findEmailTokenByHash kind (p.sha256Hex i.call.token)))
      (some t) =
      some (i.call.slip, "", p.sha256Hex i.call.token, tokenSlip t)) :
    (presentedToken p kind i.call.token).Keeps caller (TokenGuard p i caller)
      (fun own' rec => TokenPost p i caller own' ∧ TokenFound p i caller own' (tokenSlip rec))
      (fun own' _ => TokenPost p i caller own') own := by
  refine .ask (tokenGuard_read rfl) fun found => ?_
  have hpost' := hpost.cons (q := .credential (.findEmailTokenByHash kind (p.sha256Hex i.call.token))) found
    (.inl (i.call.mayAct_of_isRead rfl))
  cases found with
  | none => exact hpost'
  | some rec =>
    refine .refuseIf (fun _ => hpost') fun hunused => ?_
    have hfound := @FoundSlip.head _ caller own _ _ _ _ _ (hslip rec) (decide_eq_false hunused)
    refine .ite (fun _ => ?_) fun _ => ⟨hpost', hfound⟩
    refine nowMs_tokens hpost' fun now hpost'' => ?_
    exact .refuseIf (fun _ => hpost'') fun _ => ⟨hpost'', hfound.cons _⟩

lemma deleteRefreshTokensForUser_leaves (userID : String) :
    (deleteRefreshTokensForUser userID).Makes fun q => q.leavesSlips = true := .ask rfl

variable (s : AuthService)

lemma revokeUserSessionsIfModeSession_leaves (userID : String) :
    (s.revokeUserSessionsIfModeSession userID).Makes fun q => q.leavesSlips = true :=
  .ite (fun _ => .bind (makes_nowMs rfl) fun _ => .ask rfl) fun _ => .pure ()

lemma confirmPasswordReset_keeps (token newPassword : String)
    (hcall : i.call = .confirmPasswordReset token newPassword) :
    (s.confirmPasswordReset p token newPassword).Leaves caller (TokenGuard p i caller) (TokenPost p i caller) [] := by
  have hslip : i.call.slip = .passwordReset := by rw [hcall]; rfl
  have htoken : token = i.call.token := by rw [hcall]; rfl
  refine Looks.tokens (makes_refuseIf _) .nil fun own1 _ _ h1 => ?_
  refine Looks.tokens (makes_refuseIf _) h1 fun own2 _ _ h2 => ?_
  refine Looks.tokens (makes_check _) h2 fun own3 _ _ h3 => ?_
  subst htoken
  refine .bind ((presentedToken_keeps h3 fun t => by rw [hslip]; rfl).mono ?_ fun _ _ h => h)
  rintro own4 rec ⟨h4, hfound⟩
  refine Looks.tokens (looks_getUser _) h4 fun own5 user hsuffix h5 => ?_
  have hfound5 := hfound.suffix hsuffix
  cases user with
  | none => exact h5
  | some user =>
    refine .ite (fun _ => ?_) fun _ => ?_
    · -- the address has changed: the token is spent without acting
      refine nowMs_tokens h5 fun now h6 => ?_
      refine spends_tokens (hfound5.cons _) (by rw [hslip]; simp [spendsSlip, tokenSlip]) (by rw [hcall]; rfl) ?_
        fun own' _ hspent => hspent.post
      exact fun atMs hmem => by rw [List.mem_singleton.mp hmem]; exact .head _
    refine Looks.tokens (makes_check _) h5 fun own6 _ hsuffix6 h6 => ?_
    refine Looks.tokens (hashed_reads _ _) h6 fun own7 pwHash hsuffix7 h7 => ?_
    have hfound7 := (hfound5.suffix hsuffix6).suffix hsuffix7
    refine nowMs_tokens h7 fun now h8 => ?_
    refine acts_tokens h8 (hfound7.cons _) rfl ?_ fun resp value hfound9 => ?_
    · intro resp err herr
      cases herr
      rfl
    refine spends_tokens hfound9 (by rw [hslip]; simp [spendsSlip, tokenSlip]) (by rw [hcall]; rfl) ?_
      fun own' _ hspent => hspent.ends ?_
    · exact fun atMs hmem => by
        rw [List.mem_singleton.mp hmem]
        exact .tail _ (.head _)
    · exact (deleteRefreshTokensForUser_leaves _).bind fun _ => revokeUserSessionsIfModeSession_leaves s _

lemma looks_findUserByEmail (email : String) : Looks (findUserByEmail email) := .ask rfl

variable (user : User)

lemma changeEmailOf_keeps (newEmail : String)
    (hslip : i.call.slip = .emailChange) (hnot :
      ∀ kind key atMs, i.call.mayAct (.credential (.markEmailTokenConsumed kind key atMs)) = false)
    (hpost : TokenPost p i caller own) (hfound : TokenFound p i caller own (tokenSlip rec)) :
    (s.changeEmailOf rec user newEmail).Leaves caller (TokenGuard p i caller) (TokenPost p i caller) own := by
  refine Looks.tokens (makes_check _) hpost fun own1 _ hsuffix1 h1 => ?_
  refine Looks.tokens (makes_check _) h1 fun own2 _ hsuffix2 h2 => ?_
  have hfound2 := hfound.suffix (hsuffix1.trans hsuffix2)
  refine nowMs_tokens h2 fun now h3 => ?_
  refine acts_tokens h3 (hfound2.cons _) rfl ?_ fun resp value hfound4 => ?_
  · intro resp err herr
    cases herr
    rfl
  -- the account address follows before the token is marked
  have hreissue : ∀ u, (s.reissueAddressAfterEmailChange u).Completes (AccountStep s user.id newEmail) :=
    fun u => s.reissueAddressAfterEmailChange_completes u
  refine (hreissue _).through (P := fun own' => (⟨caller, .clock, now⟩ : StoreEvent) ∈ own' ∧
    TokenFound p i caller own' (tokenSlip rec)) ⟨.tail _ List.mem_cons_self, hfound4⟩ ?_ ?_ ?_
  · exact fun own' q resp h _ => ⟨.tail _ h.1, h.2.cons _⟩
  · exact fun own' q h hstep => ⟨.leaves hstep.leaves_finds.1, fun _ => ⟨_, h.2⟩⟩
  rintro own5 - ⟨hclock, hfound5⟩
  refine spends_tokens hfound5 (by rw [hslip]; simp [spendsSlip, tokenSlip]) (hnot _ _ _) ?_
    fun own' _ hspent => hspent.ends ?_
  · exact fun atMs hmem => by rw [List.mem_singleton.mp hmem]; exact hclock
  · exact (deleteRefreshTokensForUser_leaves _).bind fun _ =>
      (revokeUserSessionsIfModeSession_leaves s _).bind fun _ => .pure _

lemma confirmEmailChange_keeps (token : String) (hcall : i.call = .confirmEmailChange token) :
    (s.confirmEmailChange p token).Leaves caller (TokenGuard p i caller) (TokenPost p i caller) [] := by
  have hslip : i.call.slip = .emailChange := by rw [hcall]; rfl
  have htoken : token = i.call.token := by rw [hcall]; rfl
  refine Looks.tokens (makes_refuseIf _) .nil fun own1 _ _ h1 => ?_
  subst htoken
  refine .bind ((presentedToken_keeps h1 fun t => by rw [hslip]; rfl).mono ?_ fun _ _ h => h)
  rintro own2 rec ⟨h2, hfound⟩
  refine Looks.tokens (looks_getUser _) h2 fun own3 user hsuffix h3 => ?_
  have hfound3 := hfound.suffix hsuffix
  cases user with
  | none => exact h3
  | some user =>
    generalize emailaddr.mailbox s.toASCII rec.newEmail = box
    refine Looks.tokens (makes_refuseIf _) h3 fun own4 _ hsuffix4 h4 => ?_
    refine Looks.tokens (looks_findUserByEmail _) h4 fun own5 existing hsuffix5 h5 => ?_
    refine Looks.tokens (makes_refuseIf _) h5 fun own6 _ hsuffix6 h6 => ?_
    exact changeEmailOf_keeps s user _ hslip (by rw [hcall]; exact fun _ _ _ => rfl) h6
      (hfound3.suffix (hsuffix4.trans (hsuffix5.trans hsuffix6)))

lemma sendEmailVerification_leaves (userID : String) :
    (s.sendEmailVerification p userID).Makes fun q => q.leavesSlips = true := by
  refine .bind (makes_refuseIf _) fun _ => .bind (makes_getUser rfl) fun user => ?_
  cases user with
  | none => exact .throw _
  | some user =>
    refine .ite (fun _ => ?_) fun _ => .pure ()
    exact .bind (makes_randText rfl) fun _ => .bind (makes_nowMs rfl) fun _ => .ask rfl

lemma openInvitedSession_leaves (client : ClientInfo) :
    (s.openInvitedSession p user client).Makes fun q => q.leavesSlips = true := by
  refine .ite (fun _ => ?_) fun _ => ?_
  · exact (sendEmailVerification_leaves s user.id).attempt.bind fun _ => .pure _
  · exact ((s.issueTokens_makes p user client).mono fun _ hstep => hstep.leaves_finds.1).bind fun _ => .pure _

lemma invitedUser_reads (inv : InvitationRecord) : Looks (AuthService.invitedUser inv) := by
  have hbyEmail : ∀ byID : Option User,
      Looks (if byID.isNone ∧ inv.email ≠ "" then findUserByEmail inv.email else pure byID) :=
    fun byID => .ite (fun _ => looks_findUserByEmail _) fun _ => .pure byID
  exact .ite (fun _ => (looks_getUser _).bind hbyEmail) fun _ => (Routine.Makes.pure none).bind hbyEmail

lemma acceptForUser_keeps (password name : String) (client : ClientInfo) (hslip : i.call.slip = .invitation)
    (hnot : ∀ key atMs, i.call.mayAct (.signIn (.updateInvitation key atMs)) = false)
    (hpost : TokenPost p i caller own) (hfound : TokenFound p i caller own (invitationSlip inv)) :
    (s.acceptForUser p inv user password name client).Leaves caller (TokenGuard p i caller)
      (TokenPost p i caller) own := by
  refine Looks.tokens (makes_refuseIf _) hpost fun own1 _ hsuffix1 h1 => ?_
  refine Looks.tokens (s.enforceAccountAccessLogin_reads user) h1 fun own2 _ hsuffix2 h2 => ?_
  refine Looks.tokens (makes_check _) h2 fun own3 _ hsuffix3 h3 => ?_
  refine Looks.tokens (hashed_reads _ _) h3 fun own4 pwHash hsuffix4 h4 => ?_
  have hfound4 := hfound.suffix (hsuffix1.trans (hsuffix2.trans (hsuffix3.trans hsuffix4)))
  refine nowMs_tokens h4 fun now h5 => ?_
  refine acts_tokens h5 (hfound4.cons _) rfl ?_ fun resp value hfound6 => ?_
  · intro resp err herr
    cases herr
    rfl
  refine spends_tokens hfound6 (by rw [hslip]; simp [spendsSlip, invitationSlip]) (hnot _ _) ?_
    fun own' _ hspent => hspent.ends (openInvitedSession_leaves s _ client)
  exact fun atMs hmem => by
    rw [List.mem_singleton.mp hmem]
    exact .tail _ (.head _)

lemma acceptInvitation_keeps (token password name : String) (client : ClientInfo)
    (hcall : i.call = .acceptInvitation token password name client) :
    (s.acceptInvitation p token password name client).Leaves caller (TokenGuard p i caller) (TokenPost p i caller)
      [] := by
  have hslip : i.call.slip = .invitation := by rw [hcall]; rfl
  have htoken : token = i.call.token := by rw [hcall]; rfl
  refine Looks.tokens (makes_refuseIf _) .nil fun own1 _ _ h1 => ?_
  refine Looks.tokens (makes_refuseIf _) h1 fun own2 _ _ h2 => ?_
  refine Looks.tokens (makes_check _) h2 fun own3 _ _ h3 => ?_
  refine .ask (tokenGuard_read rfl) fun found => ?_
  have h4 := h3.cons (q := .signIn (.findInvitationByHash (p.sha256Hex token))) found
    (.inl (i.call.mayAct_of_isRead rfl))
  cases found with
  | none => exact h4
  | some inv =>
    refine .refuseIf (fun _ => h4) fun hunused => ?_
    have hrow : slipFound (.signIn (.findInvitationByHash (p.sha256Hex token))) (some inv) =
        some (i.call.slip, "", p.sha256Hex i.call.token, invitationSlip inv) := by rw [hslip, ← htoken]; rfl
    have hfound := @FoundSlip.head _ caller own3 _ _ _ _ _ hrow (decide_eq_false hunused)
    refine Looks.tokens (.ite (fun _ => looks_nowMs.bind fun _ => makes_refuseIf _) fun _ => .pure ()) h4
      fun own5 _ hsuffix5 h5 => ?_
    refine Looks.tokens (invitedUser_reads inv) h5 fun own6 user hsuffix6 h6 => ?_
    cases user with
    | none => exact h6
    | some user =>
      exact acceptForUser_keeps s user password name client hslip (by rw [hcall]; exact fun _ _ => rfl) h6
        (hfound.suffix (hsuffix5.trans hsuffix6))

lemma TokenInvocation.program_keeps (p : Platform) (i : TokenInvocation) (caller : Nat) :
    (i.program p).Keeps caller (TokenGuard p i caller) (fun own _ => TokenPost p i caller own) [] := by
  obtain ⟨s, call⟩ := i
  cases call with
  | confirmPasswordReset token newPassword => exact (confirmPasswordReset_keeps s token newPassword rfl).wrap
  | confirmEmailChange token => exact (confirmEmailChange_keeps s token rfl).wrap
  | acceptInvitation token password name client => exact (acceptInvitation_keeps s token password name client rfl).wrap

/-- A step by which a call acts on a token that was presented to it. -/
def TokenActs (calls : List TokenInvocation) (slip : Slip) (token : String) (event : StoreEvent) : Prop :=
  ∃ i, calls[event.caller]? = some i ∧ i.call.slip = slip ∧ i.call.token = token ∧
    i.call.mayAct event.req = true ∧ performed event.req event.resp = true

section
variable {id : Option String}

/-- A call acts on its token only after finding it unspent. -/
lemma tokenGuard_acted (hguard : ∃ i, calls[caller]? = some i ∧ TokenGuard p i caller own q)
    (hacts : TokenActs calls slip token ⟨caller, q, resp⟩) :
    Pool.Took (FindsSlip slip "" (p.sha256Hex token)) own caller := by
  obtain ⟨i, hi, -, hfinds⟩ := hguard
  obtain ⟨i', hi', rfl, rfl, hmay, -⟩ := hacts
  obtain rfl := Option.some.inj (hi.symm.trans hi')
  obtain ⟨row, event, hmem, hcaller, hfound, hunspent⟩ := hfinds hmay
  exact ⟨event, hmem, hcaller, row, hfound, hunspent⟩

/-- A call that returns after acting has spent its token. -/
lemma tokenPost_settled (htold : ∀ event ∈ own, ToldOfSlip slip "" (p.sha256Hex token) id event)
    (hpost : ∃ i, calls[caller]? = some i ∧ TokenPost p i caller own)
    (hacted : Pool.Took (TokenActs calls slip token) own caller) :
    Pool.Took (fun event => settlesSlip slip id event.req = true) own caller := by
  obtain ⟨i, hi, hpost⟩ := hpost
  obtain ⟨event, hmem, rfl, i', hi', rfl, rfl, hmay, hdone⟩ := hacted
  obtain rfl := Option.some.inj (hi.symm.trans hi')
  obtain ⟨row, ⟨found, hfoundMem, -, hfound, -⟩, spends, hspendsMem, hcaller, hspends⟩ :=
    hpost ⟨event, hmem, rfl, hmay, hdone⟩
  have hid : id = some row.nodeID := ((htold found hfoundMem).named _ _ _ hfound).mpr ⟨rfl, rfl⟩
  refine ⟨spends, hspendsMem, hcaller, ?_⟩
  rw [hid]
  exact hspends

end

/-- A mailed token or an invitation acts in at most one call, in every interleaving in
    which a call looks it up only when every other call that has looked it up has
    returned or has marked it. -/
theorem mailed_tokens_act_once (p : Platform) (r : Repo) (slip : Slip) (token : String) (hunique : SlipsUnique r slip)
    (calls : List TokenInvocation) (schedule : List (Nat × Tick))
    (hapart : Pool.Along (handle p) (Pool.Apart (asksSlip slip "" (p.sha256Hex token))
      (settlesSlip slip (slipID r slip "" (p.sha256Hex token))))
      (Pool.start r (calls.map fun i => i.program p)) schedule) (caller₁ caller₂ : Nat)
    (hacts₁ : Pool.Took (TokenActs calls slip token)
      ((Pool.start r (calls.map fun i => i.program p)).run (handle p) schedule).trace caller₁)
    (hacts₂ : Pool.Took (TokenActs calls slip token)
      ((Pool.start r (calls.map fun i => i.program p)).run (handle p) schedule).trace caller₂) :
    caller₁ = caller₂ := by
  have hkeeps : ∀ (i : TokenInvocation) (caller : Nat),
      (i.program p).Keeps caller (TokenGuard p i caller) (fun own _ => TokenPost p i caller own) [] :=
    fun i caller => i.program_keeps p caller
  refine (slip_oneShot ?_ (fun _ _ _ _ _ => tokenGuard_acted) fun _ _ _ => tokenPost_settled).once
    (Pool.keep_start hkeeps r)
    (slipNamed_slipID hunique "" (p.sha256Hex token)) schedule hapart hacts₁ hacts₂
  rintro caller own q ⟨i, -, hstep, -⟩
  exact hstep

def sampleReset : EmailTokenRecord where
  tokenHash := tokenPlatform.sha256Hex "reset-1"
  userID := "alice"
  email := "a@b.com"
  expiresAt := 1000
  createdAt := 1

/-- Someone who has asked for a password reset. -/
def sampleResetStore : Repo :=
  run tokenPlatform new
    [(.user (.createUser { id := "alice", status := "active", kind := .person, email := "a@b.com" }), sampleTick),
     (.credential (.createEmailToken .passwordReset sampleReset), sampleTick)]

/-- The reset token is presented twice. -/
def sampleResets : List TokenInvocation :=
  [⟨sampleAuth, .confirmPasswordReset "reset-1" "First-Passw0rd!"⟩,
   ⟨sampleAuth, .confirmPasswordReset "reset-1" "Second-Passw0rd!"⟩]

/-- A number of steps of one call. -/
def tokenTurns (caller steps : Nat) : List (Nat × Tick) := List.replicate steps (caller, sampleTick)

def sampleResetRun (schedule : List (Nat × Tick)) : TokenPool :=
  (Pool.start sampleResetStore (sampleResets.map fun i => i.program tokenPlatform)).run (handle tokenPlatform) schedule

lemma sampleResetStore_unique : SlipsUnique sampleResetStore .passwordReset := by
  refine slipsUnique_single "mem-1" fun key row hrow => ?_
  have hstore : sampleResetStore.passwordResets = AList.insert "mem-1" { sampleReset with nodeID := "mem-1" } ∅ := rfl
  rw [slipRow, hstore] at hrow
  obtain ⟨found, hfound, rfl⟩ := Option.map_eq_some_iff.mp hrow
  obtain ⟨rfl, rfl⟩ := GoMap.lookup_single hfound
  exact ⟨rfl, rfl⟩

/-- One after the other, the first reset sets the password and the second is refused. -/
theorem mailed_tokens_act_once_sequential :
    let pool := sampleResetRun (tokenTurns 0 10 ++ tokenTurns 1 1)
    Pool.Took (TokenActs sampleResets .passwordReset "reset-1") pool.trace 0 ∧
      ∀ caller, Pool.Took (TokenActs sampleResets .passwordReset "reset-1") pool.trace caller → caller = 0 := by
  intro pool
  have hacts : Pool.Took (TokenActs sampleResets .passwordReset "reset-1") pool.trace 0 :=
    ⟨_, List.mem_of_getElem? (i := 5) rfl, rfl, _, rfl, rfl, rfl, rfl, rfl⟩
  refine ⟨hacts, fun caller hother => ?_⟩
  exact mailed_tokens_act_once tokenPlatform sampleResetStore .passwordReset "reset-1" sampleResetStore_unique
    sampleResets _ (by decide +kernel) caller 0 hother hacts

/-- Both resets look the token up before either marks it, and both set the password. -/
theorem mailed_token_acts_twice :
    let pool := sampleResetRun (tokenTurns 1 1 ++ tokenTurns 0 10 ++ tokenTurns 1 9)
    SlipsUnique sampleResetStore .passwordReset ∧
      Pool.Took (TokenActs sampleResets .passwordReset "reset-1") pool.trace 0 ∧
      Pool.Took (TokenActs sampleResets .passwordReset "reset-1") pool.trace 1 := by
  refine ⟨sampleResetStore_unique, ?_, ?_⟩
  · exact ⟨_, List.mem_of_getElem? (i := 13) rfl, rfl, _, rfl, rfl, rfl, rfl, rfl⟩
  · exact ⟨_, List.mem_of_getElem? (i := 4) rfl, rfl, _, rfl, rfl, rfl, rfl, rfl⟩

end identity.service
