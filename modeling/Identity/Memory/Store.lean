import Identity.Service.AgentOAuth.State

open identity.service
namespace identity.memory

/-- The in-memory store of one project. Each table is a map from the row's own
    key, and one counter names the rows of all tables. Tables that no modelled
    function reads or drains are left out. -/
structure Repo where
  projectID : String := ""
  seq : Nat := 0
  oauthClients : GoMap String OAuthClient := ∅
  agentAuthorizations : GoMap String AgentAuthorization := ∅
  agentOAuthCodes : GoMap String String := ∅
  agentOAuthRefresh : GoMap String AgentOAuthRefresh := ∅
  agentMachines : GoMap String AgentMachine := ∅
  agentMachineRegistrations : GoMap String AgentMachine := ∅
  agentMachineChallenges : GoMap String AgentMachineChallenge := ∅
  users : GoMap String User := ∅
  agentCreations : GoMap (String × String) AgentCreationReceipt := ∅
  refreshTokens : GoMap String RefreshTokenRecord := ∅
  passkeyCreds : GoMap String PasskeyCredRecord := ∅
  passkeyChallenges : GoMap String PasskeyChallengeRecord := ∅
  qrSessions : GoMap String QrLoginSessionRecord := ∅
  oauthOneTimeCodes : GoMap String UserOwnedRecord := ∅
  emailLoginCodes : GoMap String OneTimeCodeRecord := ∅
  magicLinkTokens : GoMap String MagicLinkTokenRecord := ∅
  phoneVerifyCodes : GoMap String OneTimeCodeRecord := ∅
  totpCreds : GoMap String TotpCredRecord := ∅
  recoveryCodes : GoMap String RecoveryCodeRecord := ∅
  loginChallenges : GoMap String LoginChallengeRecord := ∅
  invitations : GoMap String InvitationRecord := ∅
  passwordResets : GoMap String EmailTokenRecord := ∅
  emailVerifications : GoMap String EmailTokenRecord := ∅
  emailChanges : GoMap String EmailTokenRecord := ∅
  oauthIdentities : GoMap String OAuthIdentity := ∅
  idvRecords : GoMap String UserOwnedRecord := ∅
  parentalConsents : GoMap String ParentalConsentRecord := ∅
  guardianEdges : GoMap String GuardianEdge := ∅
  sessions : GoMap String SessionRecord := ∅

/-- The empty store of the boot-default project. -/
def new : Repo := {}

/-- The name of the `n`th generated row. -/
def memID (n : Nat) : String := "mem-" ++ toString n

/-- The next generated name, and the store with its counter advanced. -/
def Repo.nextID (r : Repo) : String × Repo := (memID (r.seq + 1), { r with seq := r.seq + 1 })

lemma memID_injective (heq : memID m = memID n) : m = n := by
  have hdigits : Nat.toDigits 10 m = Nat.toDigits 10 n := by
    have hchars := congrArg String.toList heq
    simpa [memID, Nat.toList_repr] using hchars
  rw [← Nat.ofDigitChars_ten_toDigits (n := m), hdigits, Nat.ofDigitChars_ten_toDigits]

/-- A name that does not start as a generated one is not generated. -/
lemma ne_memID_of_head (id : String) (hhead : id.toList.head? ≠ some 'm') (n : Nat) : id ≠ memID n := by
  rintro rfl
  simp [memID] at hhead

/-- A value of a field map passed to an update. -/
inductive FieldValue where
  | str (value : String)
  | bool (value : Bool)
  | int (value : Int)
deriving DecidableEq

/-- A Go `map[string]any` of columns to write. -/
abbrev Fields := GoMap String FieldValue

/-- The field map with the given entries; a repeated key keeps its first value. -/
def fields (entries : List (String × FieldValue)) : Fields :=
  (entries.map fun entry => (⟨entry.1, entry.2⟩ : Sigma fun _ : String => FieldValue)).toAList

/-- A column of the patch, read with an unchecked type assertion: a value of the
    wrong type writes the zero value, unlike in a user's patch. -/
def patchedText (fields : Fields) (key old : String) : String :=
  match fields.lookup key with
  | none => old
  | some (.str s) => s
  | some _ => ""

def patchedInt (fields : Fields) (key : String) (old : Int) : Int :=
  match fields.lookup key with
  | none => old
  | some (.int x) => x
  | some _ => 0

def patchedBool (fields : Fields) (key : String) (old : Bool) : Bool :=
  match fields.lookup key with
  | none => old
  | some (.bool b) => b
  | some _ => false

end identity.memory
