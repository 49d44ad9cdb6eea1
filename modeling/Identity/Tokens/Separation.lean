import Identity.Tokens.Kinds

/-! One key signs every kind of token. A token keeps its kind when no verifier of another
kind accepts it; the headless verifier does not ask which sign-in a state token is for. -/

open identity.jwt identity.oauth
namespace identity.tokens
open Except AList ClaimSet Issue Verify
section Marks

lemma claimsMap_purpose (claims : Claims) (now expiry : Int) :
    (claims.claimsMap now expiry).getString "purpose" = claims.purpose := by
  have hread : (claims.claimsMap now expiry).lookup "purpose" =
      if claims.purpose ≠ "" then some (.str claims.purpose) else none := by
    simp [Claims.claimsMap, -insert_empty]
  rw [getString, hread]
  by_cases hpurpose : claims.purpose = ""
  · rw [if_neg (not_not_intro hpurpose), hpurpose]
  · rw [if_pos hpurpose]

lemma hostedClaims_lacks (q : HostedStateRequest) : ∀ name ∈ ["sub", "amr"], (hostedClaims q).lookup name = none := by
  simp [hostedClaims, -insert_empty]

variable {v : Verify}

/-- A plain token without a subject passes only the verifiers that look for a mark of
    their own. -/
lemma Verify.Insists.subjectless (hinsists : v.Insists token) (htyp : token.typ = "JWT")
    (hsub : token.claims.lookup "sub" = none) : v.kind = .headlessState ∧ token.claims.lookup "code_verifier" ≠ none ∨
      v.kind = .hostedState ∧ token.claims.lookup "flow" ≠ none ∨
      v.kind = .assurance ∧ token.claims.lookup "amr" ≠ none := by
  have hplain : token.typ ≠ delegatedAccessTokenType := by
    rw [htyp]
    decide
  cases v with
  | access | ticket => exact absurd (getString_absent hsub) hinsists.2.1
  | headlessState e => exact .inl ⟨rfl, hinsists⟩
  | hostedState now => exact .inr (.inl ⟨rfl, hinsists⟩)
  | delegated | teammate => exact absurd hinsists.1 hplain
  | assurance => exact .inr (.inr ⟨rfl, hinsists⟩)

/-- An access token or a ticket passes only the verifier of its purpose. -/
lemma Verify.Insists.claimed {claims : Claims} (hinsists : v.Insists ⟨"JWT", claims.claimsMap now expiry⟩) :
    v.kind = if claims.purpose = "" then .access else .ticket claims.purpose := by
  have hlacks : ∀ name ∈ ["code_verifier", "flow", "claim_id", "amr"], (claims.claimsMap now expiry).lookup name =
    none := by
    simp [Claims.claimsMap, -insert_empty]
  have hpurpose := claimsMap_purpose claims now expiry
  have hplain : "JWT" ≠ delegatedAccessTokenType := by decide
  cases v with
  | access =>
    rw [if_pos (hpurpose.symm.trans hinsists.2.2)]
    rfl
  | ticket tenant audience requireAudience wantPurpose now =>
    obtain ⟨-, -, hwant, hnamed⟩ := hinsists
    rw [hpurpose] at hwant
    rw [if_neg (hwant ▸ hnamed), hwant]
    rfl
  | headlessState | hostedState | assurance => exact absurd (hlacks _ (by simp)) hinsists
  | delegated | teammate => exact absurd hinsists.1 hplain

/-- A token of the delegated type passes only the two verifiers of that type. -/
lemma Verify.Insists.typed (hinsists : v.Insists token) (htyp : token.typ = delegatedAccessTokenType)
    (hlacks : ∀ name ∈ ["code_verifier", "flow", "amr"], token.claims.lookup name = none) :
    v.kind = .delegated ∧ token.claims.lookup "is_minor" ≠ none ∨
      v.kind = .teammate ∧ token.claims.lookup "claim_id" ≠ none := by
  cases v with
  | access | ticket => exact absurd htyp hinsists.1
  | headlessState | hostedState | assurance => exact absurd (hlacks _ (by simp)) hinsists
  | delegated => exact .inl ⟨rfl, hinsists.2⟩
  | teammate => exact .inr ⟨rfl, hinsists.2⟩

/-- The marks of an issuer pass the marks of a verifier of another kind only when a hosted
    state token meets the headless verifier. -/
lemma kind_of_marks {issue : Issue} (hwrites : issue.Writes token) (hinsists : v.Insists token) :
    v.kind = issue.kind ∨ issue.kind = .hostedState ∧ v.kind = .headlessState := by
  cases issue with
  | access claims now expiry =>
    subst hwrites
    exact .inl hinsists.claimed
  | ticket purpose claims now expiry =>
    subst hwrites
    refine .inl (hinsists.claimed.trans ?_)
    rw [if_neg purpose.named]
    rfl
  | headlessState q =>
    obtain ⟨htyp, hlacks⟩ := hwrites
    rcases hinsists.subjectless htyp (hlacks _ (by simp)) with ⟨hkind, -⟩ | ⟨-, hflow⟩ | ⟨-, hamr⟩
    · exact .inl hkind
    · exact absurd (hlacks _ (by simp)) hflow
    · exact absurd (hlacks _ (by simp)) hamr
  | hostedState q =>
    subst hwrites
    have hlacks := hostedClaims_lacks q
    rcases hinsists.subjectless rfl (hlacks _ (by simp)) with ⟨hkind, -⟩ | ⟨hkind, -⟩ | ⟨-, hamr⟩
    · exact .inr ⟨rfl, hkind⟩
    · exact .inl hkind
    · exact absurd (hlacks _ (by simp)) hamr
  | delegated claims =>
    obtain ⟨htyp, hlacks⟩ := hwrites
    rcases hinsists.typed htyp (by simp_all) with ⟨hkind, -⟩ | ⟨-, hclaim⟩
    · exact .inl hkind
    · exact absurd (hlacks _ (by simp)) hclaim
  | teammate claims =>
    obtain ⟨htyp, hlacks⟩ := hwrites
    rcases hinsists.typed htyp (by simp_all) with ⟨-, hminor⟩ | ⟨hkind, -⟩
    · exact absurd (hlacks _ (by simp)) hminor
    · exact .inl hkind
  | assurance claims ttl now =>
    obtain ⟨htyp, hlacks⟩ := hwrites
    rcases hinsists.subjectless htyp (hlacks _ (by simp)) with ⟨-, hverifier⟩ | ⟨-, hflow⟩ | ⟨hkind, -⟩
    · exact absurd (hlacks _ (by simp)) hverifier
    · exact absurd (hlacks _ (by simp)) hflow
    · exact .inl hkind

end Marks

/-- What the callback of a headless sign-in has to present for a hosted state token to
    pass: the state it carries, nothing that differs, in time. -/
def HeadlessAdmits (q : HostedStateRequest) (e : StateExpectation) : Prop :=
  (strings.toLower (strings.trimSpace e.provider) ≠ "" →
      strings.toLower (strings.trimSpace q.provider) = strings.toLower (strings.trimSpace e.provider)) ∧
    (strings.trimSpace e.redirectURI ≠ "" → strings.trimSpace q.redirectURI = strings.trimSpace e.redirectURI) ∧
    strings.trimSpace q.state = strings.trimSpace e.returnedState ∧
    (strings.trimSpace e.codeVerifier ≠ "" → strings.trimSpace q.codeVerifier = strings.trimSpace e.codeVerifier) ∧
    e.now ≤ unix (q.now + q.expiry) * second ∧ unix q.now * second ≤ e.now + twoMinutes

/-- A hosted state token reaches the headless verifier with what it checks. -/
def HostedPasses : Issue → Verify → Prop
  | .hostedState q, .headlessState e => HeadlessAdmits q e
  | _, _ => False

lemma HostedPasses.cases (hpasses : HostedPasses issue v) :
    ∃ q e, issue = .hostedState q ∧ v = .headlessState e ∧ HeadlessAdmits q e := by
  unfold HostedPasses at hpasses
  split at hpasses
  · rename_i q e
    exact ⟨q, e, rfl, rfl, hpasses⟩
  · exact hpasses.elim

lemma eq_hostedState {issue : Issue} (hkind : issue.kind = .hostedState) : ∃ q, issue = .hostedState q := by
  cases issue with
  | hostedState q => exact ⟨q, rfl⟩
  | _ => cases hkind

lemma eq_headlessState {v : Verify} (hkind : v.kind = .headlessState) : ∃ e, v = .headlessState e := by
  cases v with
  | headlessState e => exact ⟨e, rfl⟩
  | _ => cases hkind

lemma issueHostedStateToken_complete (hok : issueHostedStateToken k q = .ok text) :
    strings.toLower (strings.trimSpace q.provider) ≠ "" ∧ strings.trimSpace q.redirectURI ≠ "" ∧
      strings.trimSpace q.state ≠ "" ∧ strings.trimSpace q.codeVerifier ≠ "" := by
  unfold issueHostedStateToken at hok
  obtain ⟨hpresent, -⟩ := ok_of_unless hok
  simp only [not_or] at hpresent
  exact ⟨hpresent.1, hpresent.2.1, hpresent.2.2.2.1, hpresent.2.2.2.2.1⟩

lemma getStringClaim_of_lookup
    (hlookup : m.lookup name = some (.str value)) : getStringClaim m name = strings.trimSpace value := by
  rw [getStringClaim, getString_eq hlookup]

section
variable (q : HostedStateRequest)
include q

lemma hostedClaims_provider :
    getStringClaim (hostedClaims q) "provider" = strings.toLower (strings.trimSpace q.provider) := by
  refine (getStringClaim_of_lookup ?_).trans (strings.trimSpace_toLower_trimSpace q.provider)
  simp [hostedClaims]

lemma hostedClaims_redirectURI : getStringClaim (hostedClaims q) "redirect_uri" = strings.trimSpace q.redirectURI := by
  refine (getStringClaim_of_lookup ?_).trans (strings.trimSpace_trimSpace q.redirectURI)
  simp [hostedClaims]

lemma hostedClaims_state : getStringClaim (hostedClaims q) "oauth_state" = strings.trimSpace q.state := by
  refine (getStringClaim_of_lookup ?_).trans (strings.trimSpace_trimSpace q.state)
  simp [hostedClaims]

lemma hostedClaims_codeVerifier :
    getStringClaim (hostedClaims q) "code_verifier" = strings.trimSpace q.codeVerifier := by
  refine (getStringClaim_of_lookup ?_).trans (strings.trimSpace_trimSpace q.codeVerifier)
  simp [hostedClaims]

end

lemma hostedClaims_times (what : String) (q : HostedStateRequest) (now : Int) :
    checkStateTimes what (hostedClaims q) now = .ok () ↔
      now ≤ unix (q.now + q.expiry) * second ∧ unix q.now * second ≤ now + twoMinutes := by
  have hexp : (hostedClaims q).time "exp" = some (unix (q.now + q.expiry)) := by
    simp [ClaimSet.time, hostedClaims]
  have hiat : (hostedClaims q).time "iat" = some (unix q.now) := by
    simp [ClaimSet.time, hostedClaims]
  unfold checkStateTimes
  split
  · grind
  · grind

/-- The headless verifier, check by check. -/
lemma verifyStateToken_isOk (hverified : verifiedClaims k text = .ok m) : (verifyStateToken k text e).isOk = true ↔
      ¬ (getStringClaim m "provider" = "" ∨ getStringClaim m "redirect_uri" = "" ∨
        getStringClaim m "oauth_state" = "" ∨
          getStringClaim m "code_verifier" = "") ∧
        checkStateTimes "state token" m e.now = .ok () ∧
        ¬ (strings.toLower (strings.trimSpace e.provider) ≠ "" ∧
          getStringClaim m "provider" ≠ strings.toLower (strings.trimSpace e.provider)) ∧
        ¬ (strings.trimSpace e.redirectURI ≠ "" ∧ getStringClaim m "redirect_uri" ≠ strings.trimSpace e.redirectURI) ∧
        ¬ (strings.trimSpace e.returnedState = "" ∨
          getStringClaim m "oauth_state" ≠ strings.trimSpace e.returnedState) ∧
        ¬ (strings.trimSpace e.codeVerifier ≠ "" ∧
          getStringClaim m "code_verifier" ≠ strings.trimSpace e.codeVerifier) := by
  unfold verifyStateToken
  rw [hverified]
  refine isOk_unless.trans (and_congr_right fun _ => ?_)
  refine isOk_bind_unit.trans (and_congr_right fun _ => ?_)
  refine isOk_unless.trans (and_congr_right fun _ => ?_)
  refine isOk_unless.trans (and_congr_right fun _ => ?_)
  refine isOk_unless.trans (and_congr_right fun _ => ?_)
  refine isOk_unless.trans (and_iff_left ?_)
  rfl

lemma verifyStateToken_hosted (hok : issueHostedStateToken k q = .ok text) :
    (verifyStateToken k text e).isOk = true ↔ HeadlessAdmits q e := by
  obtain ⟨hprovider, hredirect, hstate, hverifier⟩ := issueHostedStateToken_complete hok
  have hverified : verifiedClaims k text = .ok (hostedClaims q) := by
    rw [verifiedClaims, issueHostedStateToken_ok hok]
  rw [verifyStateToken_isOk hverified, hostedClaims_provider, hostedClaims_redirectURI, hostedClaims_state,
    hostedClaims_codeVerifier, hostedClaims_times, HeadlessAdmits]
  -- the claims are there, and a state that matches is not empty
  have hreturned : ¬ (strings.trimSpace e.returnedState = "" ∨
      strings.trimSpace q.state ≠ strings.trimSpace e.returnedState) ↔
      strings.trimSpace q.state = strings.trimSpace e.returnedState := by
    refine ⟨fun hnot => Decidable.not_not.mp fun hne => hnot (.inr hne), fun heq hor => ?_⟩
    rcases hor with hempty | hne
    · exact hstate (heq.trans hempty)
    · exact hne heq
  constructor
  · grind
  · grind

/-- A token passes no verifier of another kind, exactly unless it is a hosted state token
    and the headless verifier is given what it checks. -/
theorem token_keeps_kind (k : Keys) (issue : Issue) (text : String) (v : Verify) (hrun : issue.run k = .ok text)
    (hkind : v.kind ≠ issue.kind) : v.accepts k text = false ↔ ¬ HostedPasses issue v := by
  have hother : v.accepts k text = true → issue.kind = .hostedState ∧ v.kind = .headlessState := by
    grind [writes_of_run, insists_of_accepts, kind_of_marks]
  rw [← Bool.not_eq_true]
  refine not_congr ⟨fun haccepts => ?_, fun hpasses => ?_⟩
  · obtain ⟨hissue, hverify⟩ := hother haccepts
    obtain ⟨q, rfl⟩ := eq_hostedState hissue
    obtain ⟨e, rfl⟩ := eq_headlessState hverify
    rw [Issue.run] at hrun
    exact (verifyStateToken_hosted hrun).mp haccepts
  obtain ⟨q, e, rfl, rfl, hadmits⟩ := HostedPasses.cases hpasses
  rw [Issue.run] at hrun
  exact (verifyStateToken_hosted hrun).mpr hadmits

def sampleHosted : HostedStateRequest where
  provider := "google"
  redirectURI := "https://id.example/oauth/callback"
  returnTo := "https://app.example/done"
  state := "state-1"
  codeVerifier := "verifier-1"
  csrfToken := "csrf-1"
  appCodeChallenge := ""
  projectID := "project-1"
  expiry := 600 * second
  now := 1700000000 * second

def sampleText : String := "header.hosted.signature"

lemma sampleKeys_verify_sign (token : Token) (text : String)
    (hsigned : (if token.typ = "JWT" ∧
      token.claims.entries = (hostedClaims sampleHosted).entries then Except.ok sampleText
      else .error "signing token") = .ok text) :
    (if text = sampleText then some (⟨"JWT", hostedClaims sampleHosted⟩ : Token) else none) = some token := by
  split at hsigned
  · rename_i htoken
    obtain ⟨htyp, hclaims⟩ := htoken
    obtain rfl := Except.ok.inj hsigned
    rw [if_pos rfl, ← htyp, ← AList.ext hclaims]
  · cases hsigned

/-- Keys that have signed one hosted state token, which expires. -/
def sampleKeys : Keys where
  sign token :=
    if token.typ = "JWT" ∧ token.claims.entries = (hostedClaims sampleHosted).entries then .ok sampleText
    else .error "signing token"
  verify text := if text = sampleText then some ⟨"JWT", hostedClaims sampleHosted⟩ else none
  validate m now :=
    if (m.time "exp").any fun exp => !decide (unix now < exp) then .error "\"exp\" not satisfied" else .ok ()
  verify_sign := sampleKeys_verify_sign

/-- The callback of a headless sign-in that presents the hosted sign-in's state. -/
def sampleCallback : StateExpectation where
  provider := "google"
  redirectURI := ""
  returnedState := "state-1"
  codeVerifier := ""
  now := 1700000060 * second

/-- A hosted state token is refused as an access token and as an assurance token. -/
theorem hosted_token_refused :
    (Verify.access "" "" false (1700000060 * second)).accepts sampleKeys sampleText = false ∧
      (Verify.assurance "" (1700000060 * second)).accepts sampleKeys sampleText = false :=
  ⟨(token_keeps_kind sampleKeys (.hostedState sampleHosted) sampleText _ (by decide +kernel) (by decide)).mpr id,
    (token_keeps_kind sampleKeys (.hostedState sampleHosted) sampleText _ (by decide +kernel) (by decide)).mpr id⟩

/-- The headless verifier takes the state token of a hosted sign-in for its own. -/
theorem hosted_token_passes_headless : (Issue.hostedState sampleHosted).run sampleKeys = .ok sampleText ∧
      (Verify.headlessState sampleCallback).kind ≠ (Issue.hostedState sampleHosted).kind ∧
      (Verify.headlessState sampleCallback).accepts sampleKeys sampleText = true := by
  refine ⟨by decide +kernel, by decide, by decide +kernel⟩

end identity.tokens
