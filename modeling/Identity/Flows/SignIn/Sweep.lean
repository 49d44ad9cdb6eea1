import Identity.Flows.Accounts.Service
import Identity.Flows.SignIn.Steps

open identity.repository identity.memory
namespace identity.service

/-! What a proof has done, read off the steps it has taken, the most recent first. -/

section Sweep
variable (userID : String)

/-- The step marks the account's address verified. -/
def marks : StoreEvent → Bool
  | ⟨_, .user (.setUserEmailVerified id _ _ _), .ok (verified, _)⟩ => id == userID && verified
  | _ => false

def isMarked (steps : Trace) : Bool := steps.any (marks userID)

/-- After the step the account has no passkey. -/
def emptiesPasskeys : StoreEvent → Bool
  | ⟨_, .credential (.listPasskeyCredentials id), found⟩ => id == userID && List.isEmpty found
  | ⟨_, .credential (.deletePasskeyCredentialsForUser id), _⟩ => id == userID
  | _ => false

/-- Since the mark there was a moment without passkeys. -/
def passkeysSwept : Trace → Bool
  | [] => false
  | event :: older => isMarked userID older && emptiesPasskeys userID event || passkeysSwept older

variable (bad : OAuthIdentity → Bool)

/-- The bad links that the listing after the mark found and that are still to be deleted;
    none before that listing. -/
def pendingLinks : Trace → Option (List OAuthIdentity)
  | [] => none
  | ⟨_, .credential (.listOAuthIdentitiesForUser id), links⟩ :: older =>
    if id = userID ∧ isMarked userID older = true then some (List.filter bad links) else pendingLinks older
  | ⟨_, .credential (.deleteOAuthIdentity id provider providerUserID), _⟩ :: older =>
    if id = userID then
      (pendingLinks older).map fun links =>
        links.filter fun link => !(link.provider == provider && link.providerUserID == providerUserID)
    else pendingLinks older
  | _ :: older => pendingLinks older

end Sweep

/-- What a proof asks besides its mark. -/
inductive ProofStep (userID : String) : Request → Prop
  | listPasskeys : ProofStep userID (.credential (.listPasskeyCredentials userID))
  | deletePasskeys : ProofStep userID (.credential (.deletePasskeyCredentialsForUser userID))
  | listLinks : ProofStep userID (.credential (.listOAuthIdentitiesForUser userID))
  | deleteLink (provider providerUserID : String) :
      ProofStep userID (.credential (.deleteOAuthIdentity userID provider providerUserID))
  | session (q : SessionRequest) : ProofStep userID (.session q)

/-- What a proof may ask: it marks the address once. -/
@[grind =]
def ProofGuard (userID : String) (own : Trace) (q : Request) : Prop :=
  ProofStep userID q ∨
    ∃ email atMs clear, q = .user (.setUserEmailVerified userID email atMs clear) ∧ isMarked userID own = false

@[simp]
lemma isMarked_cons (event : StoreEvent) :
    isMarked userID (event :: own) = (marks userID event || isMarked userID own) := List.any_cons

lemma ProofStep.not_marks (hstep : ProofStep userID q) (resp : Request.Response q) :
    marks userID ⟨caller, q, resp⟩ = false := by
  cases hstep <;> rfl

lemma pendingLinks_list (hmarked : isMarked userID own = true) :
    pendingLinks userID bad (⟨caller, .credential (.listOAuthIdentitiesForUser userID), links⟩ :: own) =
      some (links.filter bad) := if_pos ⟨rfl, hmarked⟩

lemma pendingLinks_delete :
    pendingLinks userID bad
      (⟨caller, .credential (.deleteOAuthIdentity userID provider providerUserID), resp⟩ :: own) =
      (pendingLinks userID bad own).map fun links =>
        links.filter fun link => !(link.provider == provider && link.providerUserID == providerUserID) := if_pos rfl

/-- The sweep after the mark is done. -/
@[grind =]
def CredentialsSwept (userID : String) (bad : OAuthIdentity → Bool) (own : Trace) : Prop :=
  passkeysSwept userID own = true ∧ pendingLinks userID bad own = some []

lemma passkeysSwept_cons (hswept : passkeysSwept userID own = true) (event : StoreEvent) :
    passkeysSwept userID (event :: own) = true := by
  rw [passkeysSwept, hswept, Bool.or_true]

lemma CredentialsSwept.session (hswept : CredentialsSwept userID bad own) (q : SessionRequest)
    (resp : Request.Response (.session q)) :
    CredentialsSwept userID bad (⟨caller, .session q, resp⟩ :: own) :=
  ⟨passkeysSwept_cons hswept.1 _, hswept.2⟩

variable (links : List OAuthIdentity)

lemma makes_voidProviderLinks : (voidProviderLinks userID links).Makes (ProofStep userID) := by
  induction links with
  | nil => exact .pure ()
  | cons link rest ih =>
    refine (makes_attemptRequest (.deleteLink _ _)).attempt.bind fun result => ?_
    cases result with
    | error err => exact .throw _
    | ok _ => exact ih

lemma makes_deletePasskeysIf (found : Bool) : (deletePasskeysIf found userID).Makes (ProofStep userID) :=
  .ite (fun _ => .ask .deletePasskeys) fun _ => .pure ()

/-- The steps of the second deletion run through what is pending. -/
lemma voidProviderLinks_sweeps
    (hswept : passkeysSwept userID own = true) (hpending : pendingLinks userID bad own = some pending)
    (hsub : pending ⊆ links) :
    (voidProviderLinks userID links).Yields caller (ProofGuard userID)
      (fun own' _ => CredentialsSwept userID bad own') own := by
  induction links generalizing own pending with
  | nil =>
    rw [List.subset_nil.mp hsub] at hpending
    exact ⟨hswept, hpending⟩
  | cons link rest ih =>
    refine .attempted (.inl (.deleteLink _ _)) fun resp => ?_
    cases resp with
    | error err => trivial
    | ok _ => grind [pendingLinks_delete, passkeysSwept_cons]

namespace AuthService
variable (s : AuthService)

lemma makes_endSessionsIf (voided : Bool) (now : Int) :
    (s.endSessionsIf voided userID now).Makes fun q => ∃ q', q = .session q' := by
  refine .ite (fun _ => ?_) fun _ => .pure ()
  refine (Routine.Makes.ask ⟨_, rfl⟩).bind fun _ => .ite (fun _ => .ask ⟨_, rfl⟩) fun _ => .pure ()

section
variable (user : User) (proof : ExternalProof) (now : Int)

lemma sweepAgain_keeps (voided : Bool)
    (hmarked : isMarked user.id own = true) : (s.sweepAgain user proof now voided).Yields caller (ProofGuard user.id)
      (fun own' _ => CredentialsSwept user.id (proof.voids s.toASCII user.email) own') own := by
  refine .ask (.inl .listPasskeys) fun passkeys => ?_
  -- either the listing is empty or the deletion follows
  have hrest : ∀ own', passkeysSwept user.id own' = true → isMarked user.id own' = true → (do
        let links ← listOAuthIdentitiesForUser user.id
        let lateLinks := links.filter (proof.voids s.toASCII user.email)
        voidProviderLinks user.id lateLinks
        s.endSessionsIf (voided || !passkeys.isEmpty || !lateLinks.isEmpty) user.id now).Yields caller
        (ProofGuard user.id) (fun own' _ => CredentialsSwept user.id (proof.voids s.toASCII user.email) own')
          own' := by
    intro own' hswept hmarked
    refine .ask (.inl .listLinks) fun links => ?_
    refine .bind ((voidProviderLinks_sweeps _ (passkeysSwept_cons hswept _) (pendingLinks_list hmarked)
      (List.Subset.refl _)).mono (fun own2 _ hswept2 => ?_) fun _ _ h => h)
    refine (s.makes_endSessionsIf _ now).lasting hswept2 ?_ ?_ (fun _ _ h => h) fun _ _ _ => trivial
    · rintro own3 _ resp hswept3 ⟨q, rfl⟩
      exact hswept3.session q resp
    · rintro own3 _ - ⟨q, rfl⟩
      exact .inl (.session q)
  refine .bind (.ite (fun _ => Routine.keeps_ask.mpr ⟨.inl .deletePasskeys, fun _ => ?_⟩) fun hnone => ?_)
  · refine hrest _ ?_ ?_
    · simp [passkeysSwept, hmarked, emptiesPasskeys]
    · simp [hmarked]
  refine hrest _ ?_ ?_
  · have hempty : List.isEmpty passkeys = true := by simpa using hnone
    simp [passkeysSwept, hmarked, emptiesPasskeys, hempty]
  · simp [hmarked]

/-- A proof that has marked the address has swept again when it returns. -/
lemma markEmailVerifiedViaExternalProof_keeps (hunmarked : isMarked user.id own = false) :
    (s.markEmailVerifiedViaExternalProof user proof now).Yields caller (ProofGuard user.id)
      (fun own' _ => isMarked user.id own' = true → CredentialsSwept user.id (proof.voids s.toASCII user.email) own')
        own := by
  refine .ite (fun _ hmarked => ?_) fun _ => ?_
  · rw [hunmarked] at hmarked
    cases hmarked
  -- up to the mark no step marks
  have hlasts : ∀ own' r (resp : Request.Response r), isMarked user.id own' = false → ProofStep user.id r →
      isMarked user.id (⟨caller, r, resp⟩ :: own') = false := by
    intro own' r resp hunmarked hstep
    rw [isMarked_cons, hstep.not_marks, hunmarked]
    rfl
  have hguard : ∀ own' r, isMarked user.id own' = false → ProofStep user.id r → ProofGuard user.id own' r :=
    fun _ _ _ hstep => .inl hstep
  refine (Routine.Makes.ask .listPasskeys).through hunmarked hlasts hguard (fun _ _ _ => trivial)
    fun own1 passkeys h1 => ?_
  refine (Routine.Makes.ask .listLinks).through h1 hlasts hguard (fun _ _ _ => trivial) fun own2 links h2 => ?_
  have hends : (s.endSessionsIf (user.passwordHash != "" || !passkeys.isEmpty ||
      !(links.filter (proof.voids s.toASCII user.email)).isEmpty) user.id now).Makes (ProofStep user.id) := by
    refine (s.makes_endSessionsIf _ now).mono ?_
    rintro _ ⟨q, rfl⟩
    exact .session q
  refine hends.through h2 hlasts hguard (fun _ _ _ => trivial) fun own3 _ h3 => ?_
  refine (makes_deletePasskeysIf _).through h3 hlasts hguard (fun _ _ _ => trivial) fun own4 _ h4 => ?_
  refine (makes_voidProviderLinks _).through h4 hlasts hguard (fun _ _ _ => trivial) fun own5 _ h5 => ?_
  refine .attempted (.inr ⟨_, _, _, rfl, h5⟩) fun resp => ?_
  cases resp with
  | error err => trivial
  | ok answer =>
    obtain ⟨verified, passwordCleared⟩ := answer
    cases verified with
    | false =>
      intro hmarked
      simp [marks, h5] at hmarked
    | true =>
      have hmarked : isMarked user.id (⟨caller, .user (.setUserEmailVerified user.id user.email now true),
          .ok (true, passwordCleared)⟩ :: own5) = true := by simp [marks]
      exact .bind ((s.sweepAgain_keeps user proof now _ hmarked).mono (fun _ _ hswept _ => hswept) fun _ _ h => h)

end
end AuthService
end identity.service
