import Identity.GoErrors.Basic
import Identity.Tokens.State

open identity.jwt identity.oauth
namespace identity.tokens
open AList
open Except (ok ok_of_bind ok_of_unless)

/-- The kinds of token one key signs. A ticket is for one purpose. -/
inductive Kind where
  | access
  | ticket (purpose : String)
  | headlessState
  | hostedState
  | delegated
  | teammate
  | assurance
deriving DecidableEq

/-- A purpose a ticket is minted for. -/
structure Purpose where
  text : String
  named : text ≠ ""

/-- The calls that issue a token, with what their callers supply. -/
inductive Issue where
  | access (claims : Claims) (now expiry : Int)
  | ticket (purpose : Purpose) (claims : Claims) (now expiry : Int)
  | headlessState (q : StateRequest)
  | hostedState (q : HostedStateRequest)
  | delegated (claims : DelegatedAccessClaims)
  | teammate (claims : TeammateAccessClaims)
  | assurance (claims : assurance.TokenClaims) (ttl now : Int)

/-- The verifiers, with what they are told to expect and the time they run at. -/
inductive Verify where
  | access (tenant audience : String) (requireAudience : Bool) (now : Int)
  | ticket (tenant audience : String) (requireAudience : Bool) (wantPurpose : String) (now : Int)
  | headlessState (e : StateExpectation)
  | hostedState (now : Int)
  | delegated (issuer project resource : String) (now : Int)
  | teammate (issuer project audience : String) (now : Int)
  | assurance (project : String) (now : Int)

namespace Issue

def kind : Issue → Kind
  | access .. => .access
  | ticket purpose .. => .ticket purpose.text
  | headlessState _ => .headlessState
  | hostedState _ => .hostedState
  | delegated _ => .delegated
  | teammate _ => .teammate
  | assurance .. => .assurance

/-- No caller gives an access token a purpose. -/
def run (k : Keys) : Issue → Except String String
  | access claims now expiry => k.signAccessToken { claims with purpose := "" } now expiry
  | ticket purpose claims now expiry => k.signAccessToken { claims with purpose := purpose.text } now expiry
  | headlessState q => issueStateToken k q
  | hostedState q => issueHostedStateToken k q
  | delegated claims => k.signDelegatedAccessToken claims
  | teammate claims => k.signTeammateAccessToken claims
  | assurance claims ttl now => assurance.mintToken k claims ttl now

end Issue

namespace Verify

def kind : Verify → Kind
  | access .. => .access
  | ticket _ _ _ wantPurpose _ => .ticket wantPurpose
  | headlessState _ => .headlessState
  | hostedState _ => .hostedState
  | delegated .. => .delegated
  | teammate .. => .teammate
  | assurance .. => .assurance

def accepts (k : Keys) (text : String) : Verify → Bool
  | access tenant audience requireAudience now => (verifyAccessToken k text tenant audience requireAudience now).isOk
  | ticket tenant audience requireAudience wantPurpose now =>
    (verifyPurposeToken k text tenant audience requireAudience wantPurpose now).isOk
  | headlessState e => (verifyStateToken k text e).isOk
  | hostedState now => (verifyHostedStateToken k text now).isOk
  | delegated issuer project resource now => (verifyDelegatedAccessToken k text issuer project resource now).isOk
  | teammate issuer project audience now => (verifyTeammateAccessToken k text issuer project audience now).isOk
  | assurance project now => (assurance.verifyToken k text project now).isOk

/-- The marks a verifier insists on. -/
def Insists (token : Token) : Verify → Prop
  | access .. => token.typ ≠ delegatedAccessTokenType ∧ token.claims.getString "sub" ≠ "" ∧
      token.claims.getString "purpose" = ""
  | ticket _ _ _ wantPurpose _ => token.typ ≠ delegatedAccessTokenType ∧ token.claims.getString "sub" ≠ "" ∧
      token.claims.getString "purpose" = wantPurpose ∧ wantPurpose ≠ ""
  | headlessState _ => token.claims.lookup "code_verifier" ≠ none
  | hostedState _ => token.claims.lookup "flow" ≠ none
  | delegated .. => token.typ = delegatedAccessTokenType ∧ token.claims.lookup "is_minor" ≠ none
  | teammate .. => token.typ = delegatedAccessTokenType ∧ token.claims.lookup "claim_id" ≠ none
  | assurance .. => token.claims.lookup "amr" ≠ none

end Verify

lemma verificationKey_ok (hok : verificationKey k text profile = .ok token) :
    k.verify text = some token ∧ (profile = delegatedAccessTokenType → token.typ = delegatedAccessTokenType) ∧
      (profile = "JWT" → token.typ ≠ delegatedAccessTokenType) := by
  unfold verificationKey at hok
  split at hok
  · cases hok
  rename_i found hfound
  split at hok
  · cases hok
  rename_i hprofile
  cases hok
  rw [not_or, not_and, not_and, not_and, Decidable.not_not] at hprofile
  refine ⟨hfound, hprofile.1, fun hjwt htyp => ?_⟩
  have hplain := hprofile.2 hjwt
  rw [htyp] at hplain
  exact hplain (by decide) (by decide)

/-- What the shared verification has seen. -/
lemma verifyTokenProfile_ok (hok :
    verifyTokenProfile k text tenant audience requireAudience profile now = .ok claims) :
    ∃ token, k.verify text = some token ∧ (profile = "JWT" → token.typ ≠ delegatedAccessTokenType) ∧
      token.claims.getString "sub" ≠ "" ∧ claims.purpose = token.claims.getString "purpose" := by
  obtain ⟨token, hkey, hok⟩ := ok_of_bind hok
  obtain ⟨-, -, hok⟩ := ok_of_bind hok
  obtain ⟨hverify, -, htyp⟩ := verificationKey_ok hkey
  refine ⟨token, hverify, htyp, ?_⟩
  split at hok
  · cases hok
  obtain ⟨-, hok⟩ := ok_of_unless hok
  obtain ⟨hsub, hok⟩ := ok_of_unless hok
  obtain ⟨-, hok⟩ := ok_of_unless hok
  obtain ⟨-, -, hok⟩ := ok_of_bind hok
  cases hok
  exact ⟨hsub, rfl⟩

lemma verifyAccessToken_ok (hok : verifyAccessToken k text tenant audience requireAudience now = .ok claims) :
    ∃ token, k.verify text = some token ∧ (Verify.access tenant audience requireAudience now).Insists token := by
  obtain ⟨found, hfound, hok⟩ := ok_of_bind hok
  obtain ⟨hpurpose, -⟩ := ok_of_unless hok
  obtain ⟨token, hverify, htyp, hsub, hread⟩ := verifyTokenProfile_ok hfound
  rw [Decidable.not_not, hread] at hpurpose
  exact ⟨token, hverify, htyp rfl, hsub, hpurpose⟩

lemma verifyPurposeToken_ok
    (hok : verifyPurposeToken k text tenant audience requireAudience wantPurpose now = .ok claims) :
    ∃ token, k.verify text = some token ∧
      (Verify.ticket tenant audience requireAudience wantPurpose now).Insists token := by
  obtain ⟨hwant, hok⟩ := ok_of_unless hok
  obtain ⟨found, hfound, hok⟩ := ok_of_bind hok
  obtain ⟨hpurpose, -⟩ := ok_of_unless hok
  obtain ⟨token, hverify, htyp, hsub, hread⟩ := verifyTokenProfile_ok hfound
  rw [Decidable.not_not, hread] at hpurpose
  exact ⟨token, hverify, htyp rfl, hsub, hpurpose, hwant⟩

/-- A claim that reads as text is there. -/
lemma lookup_of_getStringClaim (hread : getStringClaim m name ≠ "") : m.lookup name ≠ none := by
  intro hnone
  apply hread
  rw [getStringClaim, ClaimSet.getString_absent hnone]
  decide

lemma verifiedClaims_ok (hok : verifiedClaims k text = .ok m) :
    ∃ token, k.verify text = some token ∧ token.claims = m := by
  unfold verifiedClaims at hok
  split at hok
  · cases hok
  · grind

lemma verifyStateToken_ok (hok : verifyStateToken k text e = .ok claims) :
    ∃ token, k.verify text = some token ∧ (Verify.headlessState e).Insists token := by
  obtain ⟨m, hm, hok⟩ := ok_of_bind hok
  obtain ⟨hpresent, -⟩ := ok_of_unless hok
  obtain ⟨token, htoken, rfl⟩ := verifiedClaims_ok hm
  simp only [not_or] at hpresent
  exact ⟨token, htoken, lookup_of_getStringClaim hpresent.2.2.2⟩

lemma verifyHostedStateToken_ok (hok : verifyHostedStateToken k text now = .ok claims) :
    ∃ token, k.verify text = some token ∧ (Verify.hostedState now).Insists token := by
  obtain ⟨m, hm, hok⟩ := ok_of_bind hok
  obtain ⟨hflow, -⟩ := ok_of_unless hok
  rw [Decidable.not_not] at hflow
  have hpresent : getStringClaim m "flow" ≠ "" := by
    rw [hflow]
    decide
  obtain ⟨token, htoken, rfl⟩ := verifiedClaims_ok hm
  exact ⟨token, htoken, lookup_of_getStringClaim hpresent⟩

lemma verifyDelegatedAccessToken_ok
    (hok : verifyDelegatedAccessToken k text issuer project resource now = .ok claims) :
    ∃ token, k.verify text = some token ∧ (Verify.delegated issuer project resource now).Insists token := by
  obtain ⟨-, hok⟩ := ok_of_unless hok
  obtain ⟨-, hok⟩ := ok_of_unless hok
  obtain ⟨_, -, hok⟩ := ok_of_bind hok
  obtain ⟨-, hok⟩ := ok_of_unless hok
  obtain ⟨token, hkey, hok⟩ := ok_of_bind hok
  obtain ⟨isMinor, hminor, hok⟩ := ok_of_bind hok
  obtain ⟨hexplicit, -⟩ := ok_of_unless hok
  obtain ⟨hverify, htyp, -⟩ := verificationKey_ok hkey
  refine ⟨token, hverify, htyp rfl, fun hnone => hexplicit ?_⟩
  rw [ClaimSet.decodeBool, hnone] at hminor
  exact (ok.inj hminor).symm

lemma verifyTeammateAccessToken_ok
    (hok : verifyTeammateAccessToken k text issuer project audience now = .ok claims) :
    ∃ token, k.verify text = some token ∧ (Verify.teammate issuer project audience now).Insists token := by
  obtain ⟨-, hok⟩ := ok_of_unless hok
  obtain ⟨-, hok⟩ := ok_of_unless hok
  obtain ⟨_, -, hok⟩ := ok_of_bind hok
  obtain ⟨-, hok⟩ := ok_of_unless hok
  obtain ⟨token, hkey, hok⟩ := ok_of_bind hok
  obtain ⟨found, hfound, hok⟩ := ok_of_bind hok
  obtain ⟨_, hvalid, -⟩ := ok_of_bind hok
  obtain ⟨hverify, htyp, -⟩ := verificationKey_ok hkey
  refine ⟨token, hverify, htyp rfl, fun hnone => ?_⟩
  -- the claim that is absent decodes to the empty one, which does not validate
  have hempty : found.claimID = "" := by
    -- six fields are decoded before the claim's id and five after it
    iterate 6 obtain ⟨_, -, hfound⟩ := ok_of_bind hfound
    obtain ⟨claimID, hclaim, hfound⟩ := ok_of_bind hfound
    iterate 5 obtain ⟨_, -, hfound⟩ := ok_of_bind hfound
    rw [ClaimSet.decodeString, hnone] at hclaim
    rw [← ok.inj hfound]
    exact (ok.inj hclaim).symm
  unfold TeammateAccessClaims.validate at hvalid
  split at hvalid
  · cases hvalid
  · rename_i hnot
    simp [hempty] at hnot

lemma verifyToken_ok (hok : assurance.verifyToken k text project now = .ok claims) :
    ∃ token, k.verify text = some token ∧ (Verify.assurance project now).Insists token := by
  unfold assurance.verifyToken at hok
  split at hok
  · cases hok
  rename_i token htoken
  obtain ⟨-, -, hok⟩ := ok_of_bind hok
  obtain ⟨-, hok⟩ := ok_of_unless hok
  refine ⟨token, htoken, fun hnone => ?_⟩
  split at hok
  · cases hok
  obtain ⟨-, hok⟩ := ok_of_unless hok
  obtain ⟨hpassed, -⟩ := ok_of_unless hok
  simp [assurance.toStringSlice, hnone] at hpassed

lemma isOk_eq_true {result : Except ε α} (hok : result.isOk = true) : ∃ value, result = .ok value := by
  cases result with
  | error err => cases hok
  | ok value => exact ⟨value, rfl⟩

/-- Whatever a verifier accepts is signed and has the marks it insists on. -/
lemma Verify.insists_of_accepts {v : Verify} (haccepts : v.accepts k text = true) :
    ∃ token, k.verify text = some token ∧ v.Insists token := by
  cases v
  all_goals obtain ⟨claims, hok⟩ := isOk_eq_true haccepts
  case access => exact verifyAccessToken_ok hok
  case ticket => exact verifyPurposeToken_ok hok
  case headlessState => exact verifyStateToken_ok hok
  case hostedState => exact verifyHostedStateToken_ok hok
  case delegated => exact verifyDelegatedAccessToken_ok hok
  case teammate => exact verifyTeammateAccessToken_ok hok
  case assurance => exact verifyToken_ok hok

section Issuers
variable {k : Keys}

/-- The marks an issuer writes. -/
def Issue.Writes (token : Token) : Issue → Prop
  | .access claims now expiry => token = ⟨"JWT", { claims with purpose := "" }.claimsMap now expiry⟩
  | .ticket purpose claims now expiry => token = ⟨"JWT", { claims with purpose := purpose.text }.claimsMap now expiry⟩
  | .headlessState _ => token.typ = "JWT" ∧ ∀ name ∈ ["sub", "flow", "amr"], token.claims.lookup name = none
  | .hostedState q => token = ⟨"JWT", hostedClaims q⟩
  | .delegated _ => token.typ = delegatedAccessTokenType ∧
      ∀ name ∈ ["code_verifier", "flow", "claim_id", "amr"], token.claims.lookup name = none
  | .teammate _ => token.typ = delegatedAccessTokenType ∧
      ∀ name ∈ ["code_verifier", "flow", "is_minor", "amr"], token.claims.lookup name = none
  | .assurance .. => token.typ = "JWT" ∧ ∀ name ∈ ["sub", "code_verifier", "flow"], token.claims.lookup name = none

lemma delegated_lacks {claims : DelegatedAccessClaims} (hm : claims.claimsMap = .ok m) :
    ∀ name ∈ ["code_verifier", "flow", "claim_id", "amr"], m.lookup name = none := by
  obtain ⟨_, -, hm⟩ := ok_of_bind hm
  injection hm with hm
  subst hm
  simp [-insert_empty]

lemma teammate_lacks {claims : TeammateAccessClaims} (hm : claims.claimsMap = .ok m) :
    ∀ name ∈ ["code_verifier", "flow", "is_minor", "amr"], m.lookup name = none := by
  obtain ⟨_, -, hm⟩ := ok_of_bind hm
  injection hm with hm
  subst hm
  simp [-insert_empty]

lemma issueStateToken_lacks (hok : issueStateToken k q = .ok text) :
    ∃ token, k.verify text = some token ∧ (Issue.headlessState q).Writes token := by
  unfold issueStateToken at hok
  obtain ⟨-, hok⟩ := ok_of_unless hok
  refine ⟨_, k.verify_sign _ _ hok, rfl, ?_⟩
  simp [-insert_empty]

lemma issueHostedStateToken_ok (hok : issueHostedStateToken k q = .ok text) :
    k.verify text = some ⟨"JWT", hostedClaims q⟩ := by
  unfold issueHostedStateToken at hok
  obtain ⟨-, hok⟩ := ok_of_unless hok
  exact k.verify_sign _ _ hok

lemma mintToken_lacks (hok : assurance.mintToken k claims ttl now = .ok text) :
    ∃ token, k.verify text = some token ∧ (Issue.assurance claims ttl now).Writes token := by
  obtain ⟨-, hok⟩ := ok_of_unless hok
  refine ⟨_, k.verify_sign _ _ hok, rfl, ?_⟩
  simp [-insert_empty]

lemma Issue.writes_of_run {issue : Issue} (hrun : issue.run k = .ok text) :
    ∃ token, k.verify text = some token ∧ issue.Writes token := by
  cases issue with
  | access | ticket => exact ⟨_, k.verify_sign _ _ hrun, rfl⟩
  | headlessState q => exact issueStateToken_lacks hrun
  | hostedState q =>
    rw [run] at hrun
    exact ⟨_, issueHostedStateToken_ok hrun, rfl⟩
  | delegated claims =>
    obtain ⟨m, hm, hrun⟩ := ok_of_bind hrun
    exact ⟨_, k.verify_sign _ _ hrun, rfl, delegated_lacks hm⟩
  | teammate claims =>
    obtain ⟨m, hm, hrun⟩ := ok_of_bind hrun
    exact ⟨_, k.verify_sign _ _ hrun, rfl, teammate_lacks hm⟩
  | assurance claims ttl now => exact mintToken_lacks hrun

end Issuers
end identity.tokens
