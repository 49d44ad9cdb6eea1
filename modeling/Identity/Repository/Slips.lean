import Identity.Interleaving.OneShot
import Identity.Repository.Frame

open identity.service identity.memory
namespace identity.repository
open Repo GoMap
open Option (map_eq_some_iff)
variable {α : Type}

/-- What is handed out once and to be redeemed once: mailed tokens, invitations, recovery
    codes, and the sign-ins that wait for a second factor. -/
inductive Slip where
  | passwordReset
  | emailChange
  | invitation
  | recoveryCode
  | loginChallenge
deriving DecidableEq

/-- What the redemption of a slip rests on. Only recovery codes are looked up by their
    owner too. -/
structure SlipRow where
  nodeID : String
  owner : String
  secret : String
  spent : Bool
deriving DecidableEq

def tokenSlip (t : EmailTokenRecord) : SlipRow := ⟨t.nodeID, "", t.tokenHash, decide (0 < t.consumedAt)⟩

def invitationSlip (inv : InvitationRecord) : SlipRow := ⟨inv.nodeID, "", inv.tokenHash, decide (0 < inv.acceptedAt)⟩

def recoverySlip (rc : RecoveryCodeRecord) : SlipRow := ⟨rc.nodeID, rc.userID, rc.codeHash, rc.used⟩

def challengeSlip (lc : LoginChallengeRecord) : SlipRow := ⟨lc.nodeID, "", lc.challengeID, false⟩

/-- The row of a slip under a key. -/
def slipRow (r : Repo) (slip : Slip) (key : String) : Option SlipRow :=
  match slip with
  | .passwordReset => (r.passwordResets.lookup key).map tokenSlip
  | .emailChange => (r.emailChanges.lookup key).map tokenSlip
  | .invitation => (r.invitations.lookup key).map invitationSlip
  | .recoveryCode => (r.recoveryCodes.lookup key).map recoverySlip
  | .loginChallenge => (r.loginChallenges.lookup key).map challengeSlip

/-- The rows of a slip's table. -/
def slipRows (r : Repo) : Slip → List SlipRow
  | .passwordReset => r.passwordResets.rows.map tokenSlip
  | .emailChange => r.emailChanges.rows.map tokenSlip
  | .invitation => r.invitations.rows.map invitationSlip
  | .recoveryCode => r.recoveryCodes.rows.map recoverySlip
  | .loginChallenge => r.loginChallenges.rows.map challengeSlip

/-- The name of the slip with an owner and a secret, if the store has one. -/
def slipID (r : Repo) (slip : Slip) (owner secret : String) : Option String :=
  ((slipRows r slip).find? fun row => row.owner == owner && row.secret == secret).map SlipRow.nodeID

/-- A lookup of a slip that found one: which slip, by what, and the row. -/
def slipFound : (q : Request) → q.Response → Option (Slip × String × String × SlipRow)
  | .credential (.findEmailTokenByHash .passwordReset hash), found =>
    Option.map (fun t => (.passwordReset, "", hash, tokenSlip t)) found
  | .credential (.findEmailTokenByHash .emailChange hash), found =>
    Option.map (fun t => (.emailChange, "", hash, tokenSlip t)) found
  | .signIn (.findInvitationByHash hash), found =>
    Option.map (fun inv => (.invitation, "", hash, invitationSlip inv)) found
  | .credential (.findRecoveryCodeByHash userID hash), found =>
    Option.map (fun rc => (.recoveryCode, userID, hash, recoverySlip rc)) found
  | .credential (.getLoginChallengeByChallengeID challengeID), found =>
    Option.map (fun lc => (.loginChallenge, "", challengeID, challengeSlip lc)) found
  | _, _ => none

/-- The lookup of a slip. -/
def asksSlip (slip : Slip) (owner secret : String) : Request → Bool
  | .credential (.findEmailTokenByHash .passwordReset hash) => slip == .passwordReset && owner == "" && hash == secret
  | .credential (.findEmailTokenByHash .emailChange hash) => slip == .emailChange && owner == "" && hash == secret
  | .signIn (.findInvitationByHash hash) => slip == .invitation && owner == "" && hash == secret
  | .credential (.findRecoveryCodeByHash userID hash) => slip == .recoveryCode && owner == userID && hash == secret
  | .credential (.getLoginChallengeByChallengeID challengeID) =>
    slip == .loginChallenge && owner == "" && challengeID == secret
  | _ => false

/-- The write that spends the slip under a key. -/
def spendsSlip (slip : Slip) (key : String) : Request → Bool
  | .credential (.markEmailTokenConsumed .passwordReset id _) => slip == .passwordReset && id == key
  | .credential (.markEmailTokenConsumed .emailChange id _) => slip == .emailChange && id == key
  | .signIn (.updateInvitation id _) => slip == .invitation && id == key
  | .credential (.updateRecoveryCode id patch) =>
    slip == .recoveryCode && id == key && patch.lookup "used" == some (.bool true)
  | .credential (.deleteLoginChallenge id) => slip == .loginChallenge && id == key
  | _ => false

/-- The operations that leave every slip alone. -/
def Request.leavesSlips : Request → Bool
  | .credential (.createEmailToken .emailVerification _) => true
  | .credential (.markEmailTokenConsumed .emailVerification _ _) => true
  | .credential (.updateTotpCredential _ _) => true
  | q => q.leavesCredentials && q.leavesSignIns

lemma slipRow_same (hcredentials : SameCredentials r r') (hsignIns : SameSignIns r r') (slip : Slip)
    (key : String) : slipRow r' slip key = slipRow r slip key := by
  cases slip with
  | passwordReset => rw [slipRow, slipRow, hcredentials.passwordResets]
  | emailChange => rw [slipRow, slipRow, hcredentials.emailChanges]
  | invitation => rw [slipRow, slipRow, hsignIns.invitations]
  | recoveryCode => rw [slipRow, slipRow, hcredentials.recoveryCodes]
  | loginChallenge => rw [slipRow, slipRow, hcredentials.loginChallenges]

lemma handle_slips (hleaves : q.leavesSlips = true) (p : Platform) (tick : Tick) (r : Repo)
    (slip : Slip) (key : String) : slipRow (handle p q tick r).2 slip key = slipRow r slip key := by
  unfold Request.leavesSlips at hleaves
  split at hleaves
  · cases slip <;> rfl
  · rename_i id atMs
    simp only [handle, CredentialRequest.handle, markEmailVerificationTokenConsumed, Repo.markEmailTokenConsumed]
    split
    · rfl
    · cases slip <;> rfl
  · rename_i nodeID patch
    simp only [handle, CredentialRequest.handle, Repo.updateTotpCredential]
    split
    · rfl
    · cases slip <;> rfl
  · rw [Bool.and_eq_true] at hleaves
    exact slipRow_same (handle_credentials p tick r hleaves.1) (handle_signIns p tick r hleaves.2) slip key

/-- A later form of a slip's row. -/
@[grind]
structure SlipRow.Follows (row row' : SlipRow) : Prop where
  nodeID : row'.nodeID = row.nodeID
  owner : row'.owner = row.owner
  secret : row'.secret = row.secret
  spent : row.spent = true → row'.spent = true

/-- Slips are not made or renamed, and a spent one stays spent. -/
def SlipsFollow (r r' : Repo) : Prop :=
  ∀ slip key row', slipRow r' slip key = some row' → ∃ row, slipRow r slip key = some row ∧ row.Follows row'

/-- No slip under the key is left to redeem. -/
@[grind =]
def SpentSlip (r : Repo) (slip : Slip) (key : String) : Prop :=
  ∀ row, slipRow r slip key = some row → row.spent = true

lemma SlipsFollow.of_eq (hsame : ∀ slip key, slipRow r' slip key = slipRow r slip key) :
    SlipsFollow r r' := by
  intro slip key row hrow
  rw [hsame] at hrow
  exact ⟨row, hrow, rfl, rfl, rfl, id⟩

/-- One slip of the store is spent and the others are as before. -/
@[grind]
structure SpendsOne (r r' : Repo) (slip : Slip) (key : String) : Prop where
  others : ∀ other, other ≠ slip → ∀ query, slipRow r' other query = slipRow r other query
  self : ∀ query row', slipRow r' slip query = some row' → slipRow r slip query = some row' ∧ query ≠ key ∨
    ∃ row, slipRow r slip query = some row ∧ row.Follows row' ∧ row'.spent = true

lemma SpendsOne.follow (hone : SpendsOne r r' slip key) :
    SlipsFollow r r' := by
  intro other query row' hrow
  by_cases hsame : other = slip
  · grind
  · grind

lemma SpendsOne.spent (hone : SpendsOne r r' slip key) :
    SpentSlip r' slip key := by
  intro row hrow
  rcases hone.self key row hrow with ⟨-, hne⟩ | ⟨-, -, -, hspent⟩
  · exact absurd rfl hne
  · exact hspent

variable {m : GoMap String α} {view : α → SlipRow}

/-- A table in which one row was overwritten by a later, spent form of it. -/
lemma insert_spent
    (hrow : m.lookup key = some row) (hfollows : (view row).Follows (view row')) (hspent : (view row').spent = true)
    (query : String) (after : SlipRow) (hafter : ((m.insert key row').lookup query).map view = some after) :
    (m.lookup query).map view = some after ∧ query ≠ key ∨
      ∃ before, (m.lookup query).map view = some before ∧ before.Follows after ∧ after.spent = true := by
  rw [lookup_insert_eq] at hafter
  by_cases heq : query = key
  · grind
  · rw [if_neg heq] at hafter
    exact .inl ⟨hafter, heq⟩

/-- A table without a row for the key has nothing to spend under it. -/
lemma none_spent (hnone : m.lookup key = none)
    (query : String) (after : SlipRow) (hafter : (m.lookup query).map view = some after) :
    (m.lookup query).map view = some after ∧ query ≠ key ∨
      ∃ before, (m.lookup query).map view = some before ∧ before.Follows after ∧ after.spent = true := by
  refine .inl ⟨hafter, ?_⟩
  rintro rfl
  rw [hnone] at hafter
  cases hafter

section
variable (r : Repo)
variable (id : String)

/-- Both kinds of mailed tokens that are slips are spent by being marked. -/
lemma markEmailTokenConsumed_spends (hpos : 0 < atMs)
    (hkind : kind = .passwordReset ∧ slip = .passwordReset ∨ kind = .emailChange ∧ slip = .emailChange) :
    SpendsOne r (r.markEmailTokenConsumed kind id atMs).2 slip id := by
  unfold Repo.markEmailTokenConsumed
  rcases hkind with ⟨rfl, rfl⟩ | ⟨rfl, rfl⟩
  all_goals
    split
    · rename_i hnone
      exact ⟨fun _ _ _ => rfl, none_spent hnone⟩
    rename_i t ht
    refine ⟨fun other hother query => ?_, insert_spent ht ⟨rfl, rfl, rfl, fun _ => ?_⟩ ?_⟩
    · cases other <;> first | rfl | exact absurd rfl hother
    · exact decide_eq_true hpos
    · exact decide_eq_true hpos

lemma updateInvitation_spends (hpos : 0 < acceptedAt) :
    SpendsOne r (r.updateInvitation id acceptedAt).2 .invitation id := by
  unfold Repo.updateInvitation
  split
  · rename_i hnone
    exact ⟨fun _ _ _ => rfl, none_spent hnone⟩
  rename_i inv hinv
  refine ⟨fun other hother query => ?_, insert_spent hinv ⟨rfl, rfl, rfl, fun _ => ?_⟩ ?_⟩
  · cases other <;> first | rfl | exact absurd rfl hother
  · exact decide_eq_true hpos
  · exact decide_eq_true hpos

lemma updateRecoveryCode_spends (hused : patch.lookup "used" = some (.bool true)) :
    SpendsOne r (r.updateRecoveryCode id patch).2 .recoveryCode id := by
  have hpatched : ∀ old, patchedBool patch "used" old = true := fun old => by rw [patchedBool, hused]
  unfold Repo.updateRecoveryCode
  split
  · rename_i hnone
    exact ⟨fun _ _ _ => rfl, none_spent hnone⟩
  rename_i rc hrc
  refine ⟨fun other hother query => ?_, insert_spent hrc ⟨rfl, rfl, rfl, fun _ => hpatched _⟩ (hpatched _)⟩
  cases other <;> first | rfl | exact absurd rfl hother

lemma deleteLoginChallenge_spends : SpendsOne r (r.deleteLoginChallenge id) .loginChallenge id := by
  refine ⟨fun other hother query => ?_, fun query row hrow => ?_⟩
  · cases other <;> first | rfl | exact absurd rfl hother
  change (((r.loginChallenges.erase id).lookup query).map challengeSlip) = some row at hrow
  rw [lookup_erase_eq] at hrow
  by_cases heq : query = id
  · rw [if_pos heq] at hrow
    cases hrow
  · rw [if_neg heq] at hrow
    exact .inl ⟨hrow, heq⟩

end

/-- The write that spends a slip spends it and touches no other. -/
lemma handle_spends (hspends : spendsSlip slip key q = true)
    (hpos : ∀ atMs ∈ q.timestamps, 0 < atMs) (p : Platform) (tick : Tick) (r : Repo) :
    SpendsOne r (handle p q tick r).2 slip key := by
  unfold spendsSlip at hspends
  split at hspends
  rotate_right
  · cases hspends
  all_goals simp only [Bool.and_eq_true, beq_iff_eq] at hspends
  · obtain ⟨rfl, rfl⟩ := hspends
    exact markEmailTokenConsumed_spends r _ (hpos _ (List.mem_singleton.mpr rfl)) (.inl ⟨rfl, rfl⟩)
  · obtain ⟨rfl, rfl⟩ := hspends
    exact markEmailTokenConsumed_spends r _ (hpos _ (List.mem_singleton.mpr rfl)) (.inr ⟨rfl, rfl⟩)
  · obtain ⟨rfl, rfl⟩ := hspends
    exact updateInvitation_spends r _ (hpos _ (List.mem_singleton.mpr rfl))
  · obtain ⟨⟨rfl, rfl⟩, hused⟩ := hspends
    exact updateRecoveryCode_spends r _ hused
  · obtain ⟨rfl, rfl⟩ := hspends
    exact deleteLoginChallenge_spends r _

/-- Slips are stored under their own names. -/
@[grind =]
def SlipsKeyed (r : Repo) (slip : Slip) : Prop := ∀ key row, slipRow r slip key = some row → row.nodeID = key

lemma findRow_slip (hkeyed : ∀ key after, (m.lookup key).map view = some after → after.nodeID = key)
    (hfind : m.findRow match? = some row) : (m.lookup (view row).nodeID).map view = some (view row) ∧
      match? row = true := by
  obtain ⟨⟨key, hkey⟩, hmatch⟩ := findRow_some hfind
  have hview : (m.lookup key).map view = some (view row) := by rw [hkey, Option.map_some]
  refine ⟨?_, hmatch⟩
  rw [hkeyed key _ hview]
  exact hview

/-- What a lookup finds is the row under its name, and has the secret that was asked
    for. -/
lemma slipFound_row (hkeyed : SlipsKeyed r slip)
    (hfound : slipFound q (handle p q tick r).1 = some (slip, owner, secret, row)) :
    slipRow r slip row.nodeID = some row ∧ row.owner = owner ∧ row.secret = secret ∧
      asksSlip slip owner secret q = true := by
  unfold slipFound at hfound
  split at hfound
  rotate_right
  · cases hfound
  all_goals
    obtain ⟨found, hanswer, heq⟩ := map_eq_some_iff.mp hfound
    cases heq
    obtain ⟨hrow, hmatch⟩ := findRow_slip hkeyed hanswer
    simp only [Bool.and_eq_true, beq_iff_eq] at hmatch
    -- a recovery code is found by its owner too
    first
    | exact ⟨hrow, rfl, hmatch, by simp [asksSlip]⟩
    | exact ⟨hrow, hmatch.1, hmatch.2, by simp [asksSlip]⟩

lemma mem_rows_map :
    row ∈ m.rows.map view ↔ ∃ key, (m.lookup key).map view = some row := by
  simp only [map_eq_some_iff]
  constructor
  · grind
  · grind

lemma mem_slipRows : row ∈ slipRows r slip ↔ ∃ key, slipRow r slip key = some row := by
  cases slip <;> exact mem_rows_map

/-- What the unique indexes of the tables say: a slip is stored under its own name, and
    no two have the same owner and secret. -/
@[grind]
structure SlipsUnique (r : Repo) (slip : Slip) : Prop where
  keyed : SlipsKeyed r slip
  once : ∀ key₁ key₂ row₁ row₂, slipRow r slip key₁ = some row₁ → slipRow r slip key₂ = some row₂ →
    row₁.owner = row₂.owner → row₁.secret = row₂.secret → key₁ = key₂

/-- A table with one row under its own name. -/
lemma slipsUnique_single (id : String)
    (hrows : ∀ key row, slipRow r slip key = some row → key = id ∧ row.nodeID = id) : SlipsUnique r slip where
  keyed key row hrow := (hrows key row hrow).2.trans (hrows key row hrow).1.symm
  once key₁ key₂ row₁ row₂ hrow1 hrow2 _ _ := (hrows key₁ row₁ hrow1).1.trans (hrows key₂ row₂ hrow2).1.symm

/-- The slips with a given owner and secret: at most one, under the name `id`. -/
@[grind =]
def SlipNamed (slip : Slip) (owner secret : String) (id : Option String) (r : Repo) : Prop :=
  ∀ key row, slipRow r slip key = some row → row.nodeID = key ∧
    (id = some key ↔ row.owner = owner ∧ row.secret = secret)

variable {id : Option String}

lemma SlipNamed.keyed
    (hnamed : SlipNamed slip owner secret id r) : SlipsKeyed r slip := fun key row hrow => (hnamed key row hrow).1

lemma SlipNamed.follow
    (hnamed : SlipNamed slip owner secret id r) (hfollow : SlipsFollow r r') : SlipNamed slip owner secret id r' := by
  intro key row' hrow'
  obtain ⟨row, hrow, hfollows⟩ := hfollow slip key row' hrow'
  obtain ⟨hname, hid⟩ := hnamed key row hrow
  rw [hfollows.nodeID, hfollows.owner, hfollows.secret]
  exact ⟨hname, hid⟩

lemma slipNamed_slipID (hunique : SlipsUnique r slip) (owner secret : String) :
    SlipNamed slip owner secret (slipID r slip owner secret) r := by
  intro key row hrow
  refine ⟨hunique.keyed key row hrow, ?_⟩
  rw [slipID, map_eq_some_iff]
  constructor
  · grind [mem_slipRows]
  rintro ⟨rfl, rfl⟩
  cases hfind : (slipRows r slip).find? fun other => other.owner == row.owner && other.secret == row.secret with
  | none => grind [mem_slipRows]
  | some found =>
    obtain ⟨query, hquery⟩ := mem_slipRows.mp (List.mem_of_find?_eq_some hfind)
    grind

end identity.repository
