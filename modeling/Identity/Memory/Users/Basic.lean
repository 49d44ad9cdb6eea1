import Mathlib.Data.List.Sort
import Identity.Memory.Revocation

open identity.service
namespace identity.memory

/-- The text columns a patch may write, by name. -/
def userStringFields : List (String × (String → User → User)) :=
  [("name", fun s u => { u with name := s }),
    ("role", fun s u => { u with role := s }),
    ("email", fun s u => { u with email := s }),
    ("avatar_url", fun s u => { u with avatarURL := s }),
    ("password_hash", fun s u => { u with passwordHash := s }),
    ("status", fun s u => { u with status := s }),
    ("recovery_email", fun s u => { u with recoveryEmail := s }),
    ("external_id", fun s u => { u with externalID := s }),
    ("phone_number", fun s u => { u with phoneNumber := s }),
    ("market", fun s u => { u with market := s }),
    ("username", fun s u => { u with username := s }),
    ("account_address", fun s u => { u with accountAddress := s }),
    ("merged_into_user_id", fun s u => { u with mergedIntoUserID := s })]

def userBoolFields : List (String × (Bool → User → User)) :=
  [("totp_required", fun b u => { u with totpRequired := b }),
    ("email_verified", fun b u => { u with emailVerified := b }),
    ("is_anonymous", fun b u => { u with isAnonymous := b }),
    ("phone_verified", fun b u => { u with phoneVerified := b }),
    ("password_change_required", fun b u => { u with passwordChangeRequired := b })]

/-- The numeric columns, with the two whose stored form is not the wire form. -/
def userInt64Fields : List (String × (Int → User → User)) :=
  [("locked_until", fun x u => { u with lockedUntil := x }),
    ("last_login_at", fun x u => { u with lastLoginAtMs := x }),
    ("email_verified_at", fun x u => { u with emailVerifiedAt := x }),
    ("anonymous_last_seen_ms", fun x u => { u with anonymousLastSeenMs := x }),
    ("phone_verified_at", fun x u => { u with phoneVerifiedAt := x }),
    ("date_of_birth_ms", fun x u => { u with dateOfBirthMs := x }),
    ("deletion_scheduled_at_ms", fun x u => { u with deletionScheduledAtMs := x }),
    ("failed_login_count", fun x u => { u with failedLoginCount := x }),
    ("updated_at", fun x u => { u with updatedAt := x })]

/-- Write the column a table has under a name, if it has one. -/
def writeColumn {α : Type} (table : List (String × (α → User → User))) (key : String) (value : α)
    (u : User) : User :=
  match table.lookup key with
  | some write => write value u
  | none => u

/-- One entry of a patch. An unknown name and a value of the wrong type are
    skipped. -/
def applyUserField (u : User) (key : String) (value : FieldValue) : User :=
  match value with
  | .str s => writeColumn userStringFields key s u
  | .bool b => writeColumn userBoolFields key b u
  | .int x => writeColumn userInt64Fields key x u

def applyUserFields (u : User) (fields : Fields) : User :=
  fields.entries.foldl (fun u' entry => applyUserField u' entry.1 entry.2) u

/-- The text a patch gives a column, empty when it gives none. -/
def fieldText (fields : Fields) (key : String) : String :=
  match fields.lookup key with
  | some (.str s) => s
  | _ => ""

/-- What every writer of a table keeps, writing by name keeps. -/
lemma writeColumn_keeps (table : List (String × (α → User → User))) (proj : User → β)
    (hall : ∀ entry ∈ table, ∀ value u, proj (entry.2 value u) = proj u) (key : String) (value : α) (u : User) :
    proj (writeColumn table key value u) = proj u := by
  unfold writeColumn
  cases hwrite : table.lookup key with
  | none => rfl
  | some write =>
    obtain ⟨before, after, heq, -⟩ := List.lookup_eq_some_iff.mp hwrite
    exact hall (key, write) (by rw [heq]; simp) value u

/-- No column a patch can name holds the id. -/
lemma applyUserField_id (u : User) (key : String) (value : FieldValue) : (applyUserField u key value).id = u.id := by
  cases value with
  | str s => exact writeColumn_keeps userStringFields User.id (by simp [userStringFields]) key s u
  | bool b => exact writeColumn_keeps userBoolFields User.id (by simp [userBoolFields]) key b u
  | int x => exact writeColumn_keeps userInt64Fields User.id (by simp [userInt64Fields]) key x u

lemma applyUserFields_id (u : User) (fields : Fields) : (applyUserFields u fields).id = u.id := by
  unfold applyUserFields
  induction fields.entries generalizing u with
  | nil => rfl
  | cons entry rest ih => rw [List.foldl_cons, ih, applyUserField_id]

/-- What only the writer of one column changes, a patch that does not name the column
    keeps. -/
lemma applyUserFields_keeps (proj : User → β) (column : String)
    (hstring : ∀ entry ∈ userStringFields, entry.1 ≠ column → ∀ value u, proj (entry.2 value u) = proj u)
    (hbool : ∀ entry ∈ userBoolFields, entry.1 ≠ column → ∀ value u, proj (entry.2 value u) = proj u)
    (hint : ∀ entry ∈ userInt64Fields, entry.1 ≠ column → ∀ value u, proj (entry.2 value u) = proj u)
    {fields : Fields} (hnot : fields.lookup column = none) (u : User) : proj (applyUserFields u fields) = proj u := by
  have hcolumn : ∀ {α : Type} (table : List (String × (α → User → User))) (key : String) (value : α) (v : User),
    key ≠ column →
      (∀ entry ∈ table, entry.1 ≠ column → ∀ value u, proj (entry.2 value u) = proj u) →
      proj (writeColumn table key value v) = proj v := by
    intro α table key value v hkey hall
    unfold writeColumn
    cases hwrite : table.lookup key with
    | none => rfl
    | some write =>
      obtain ⟨before, after, heq, -⟩ := List.lookup_eq_some_iff.mp hwrite
      exact hall (key, write) (by rw [heq]; simp) hkey value v
  have hkeys : ∀ entry ∈ fields.entries, entry.1 ≠ column := by
    rintro ⟨key, value⟩ hentry rfl
    rw [AList.mem_lookup_iff.mpr hentry] at hnot
    cases hnot
  unfold applyUserFields
  generalize fields.entries = entries at hkeys
  induction entries generalizing u with
  | nil => rfl
  | cons entry rest ih =>
    rw [List.foldl_cons, ih _ fun e he => hkeys e (.tail _ he)]
    have hkey := hkeys entry (.head _)
    unfold applyUserField
    split
    · exact hcolumn userStringFields entry.1 _ u hkey hstring
    · exact hcolumn userBoolFields entry.1 _ u hkey hbool
    · exact hcolumn userInt64Fields entry.1 _ u hkey hint

lemma applyUserFields_merged {fields : Fields} (hnot : fields.lookup "merged_into_user_id" = none) (u : User) :
    (applyUserFields u fields).mergedIntoUserID = u.mergedIntoUserID :=
  applyUserFields_keeps User.mergedIntoUserID "merged_into_user_id" (by simp [userStringFields])
    (by simp [userBoolFields])
    (by simp [userInt64Fields]) hnot u

def Repo.getUser (r : Repo) (userID : String) : Option User := r.users.lookup userID

def Repo.findUserByEmail (r : Repo) (email : String) : Option User :=
  if email = "" then none
  else r.users.findRow fun u => u.email != "" && foldEmail u.email == foldEmail email

def Repo.findUserByUsername (r : Repo) (username : String) : Option User :=
  if username = "" then none
  else r.users.findRow fun u => u.username != "" && u.username == username

/-- A row other than `userID`'s satisfies `p`. -/
def Repo.heldByOther (r : Repo) (userID : String) (p : User → Bool) : Bool :=
  r.users.entries.any fun entry => entry.1 != userID && p entry.2

/-- The unique column in which an existing row clashes with a new one. -/
def duplicateUser (u existing : User) : Option Err :=
  if u.email != "" && foldEmail existing.email == foldEmail u.email then
    some (.quoted "user" u.email .alreadyExists)
  else if u.externalID != "" && existing.externalID == u.externalID then
    some (.quoted "external_id" u.externalID .alreadyExists)
  else if u.username != "" && existing.username == u.username then
    some (.quoted "username" u.username .alreadyExists)
  else if u.accountAddress != "" && existing.accountAddress == u.accountAddress then
    some (.quoted "account address" u.accountAddress .alreadyExists)
  else none

/-- The row `CreateUser` stores under an id. -/
def newUserRow (u : User) (id : String) : User :=
  { u with id := id, kind := if u.kind = .unset then .person else u.kind }

/-- Store a row under its caller's id, or under a generated one when it has none. -/
def Repo.insertUser (r : Repo) (u : User) : Except Err String × Repo :=
  if u.id = "" then
    (.ok (memID (r.seq + 1)),
      { r with
        seq := r.seq + 1
        users := r.users.insert (memID (r.seq + 1)) (newUserRow u (memID (r.seq + 1))) })
  else if (r.users.lookup u.id).isSome then (.error (.quoted "user id" u.id .alreadyExists), r)
  else (.ok u.id, { r with users := r.users.insert u.id (newUserRow u u.id) })

def Repo.createUser (r : Repo) (u : User) : Except Err String × Repo :=
  match r.users.rows.findSome? (duplicateUser u) with
  | some err => (.error err, r)
  | none => r.insertUser u

def Repo.invalidateAgentCreations (r : Repo) (userID : String) : Repo :=
  { r with agentCreations := invalidateAgentCreationReceipts r.agentCreations userID }

/-- Fence the creation receipts that name a user whose row changed for the worse. -/
def Repo.fenceAgentCreations (r : Repo) (userID : String) (before after : User) : Repo :=
  if agentCreationAuthorityLost before after then r.invalidateAgentCreations userID else r

/-- Overwrite a user row and end what rested on the row it replaces. -/
def Repo.writeUser (r : Repo) (userID : String) (before after : User) (atMs : Int) : Repo :=
  { r with users := r.users.insert userID after }.revokeAgentOAuthUserLocked (some before) (some after) atMs

/-- The first column in which a patch clashes with another row. -/
def Repo.patchConflict (r : Repo) (userID : String) (fields : Fields) : Option Err :=
  let ext := fieldText fields "external_id"
  let email := fieldText fields "email"
  let username := fieldText fields "username"
  let addr := fieldText fields "account_address"
  if ext != "" && r.heldByOther userID (fun other => other.externalID == ext) then
    some (.quoted "external_id" ext .alreadyExists)
  else if email != "" && r.heldByOther userID (fun other => foldEmail other.email == foldEmail email) then
    some (.quoted "email" email .alreadyExists)
  else if username != "" && r.heldByOther userID (fun other => other.username == username) then
    some (.quoted "username" username .alreadyExists)
  else if addr != "" && r.heldByOther userID (fun other => other.accountAddress == addr) then
    some (.quoted "account address" addr .alreadyExists)
  else none

def userNotFound (userID : String) : Err := .text ("user " ++ userID ++ " not found")

def Repo.updateUser (r : Repo) (now : Int) (userID : String) (fields : Fields) : Except Err Unit × Repo :=
  match r.users.lookup userID with
  | none => (.error (userNotFound userID), r)
  | some u =>
    match r.patchConflict userID fields with
    | some err => (.error err, r)
    | none =>
      let after := applyUserFields u fields
      (.ok (), (r.fenceAgentCreations userID u after).writeUser userID u after now)

def Repo.setDateOfBirthOnce (r : Repo) (userID : String) (dobMs : Int) (status : String) (nowMs : Int) :
    Except Err Bool × Repo :=
  if userID = "" then (.error (.text "memory: SetDateOfBirthOnce: missing user id"), r)
  else
    match r.users.lookup userID with
    | none => (.ok false, r)
    | some u =>
      if u.dateOfBirthMs ≠ 0 then (.ok false, r)
      else
        let after := { u with
          dateOfBirthMs := dobMs
          status := if status ≠ "" then status else u.status
          updatedAt := nowMs }
        (.ok true, (r.fenceAgentCreations userID u after).writeUser userID u after nowMs)

/-- Overwrite columns no grant rests on. -/
def Repo.touchUser (r : Repo) (userID : String) (f : User → User) : Except Err Unit × Repo :=
  match r.users.lookup userID with
  | none => (.error (userNotFound userID), r)
  | some u => (.ok (), { r with users := r.users.insert userID (f u) })

def Repo.incrementFailedLoginCount (r : Repo) (userID : String) : Except Err Int × Repo :=
  match r.users.lookup userID with
  | none => (.error (userNotFound userID), r)
  | some u =>
    if u.failedLoginCount ≥ 2 ^ 31 - 1 then
      (.error (.text ("failed login count overflow for user " ++ userID)), r)
    else
      (.ok (u.failedLoginCount + 1),
        { r with users := r.users.insert userID { u with failedLoginCount := u.failedLoginCount + 1 } })

def Repo.resetFailedLoginCount (r : Repo) (userID : String) : Except Err Unit × Repo :=
  r.touchUser userID fun u => { u with failedLoginCount := 0, lockedUntil := 0 }

def Repo.setUserLockedUntil (r : Repo) (userID : String) (lockedUntilMs : Int) : Except Err Unit × Repo :=
  r.touchUser userID fun u => { u with lockedUntil := lockedUntilMs }

def Repo.setUserPhoneVerified (r : Repo) (userID phoneNumber : String) (atMs : Int) : Except Err Unit × Repo :=
  r.touchUser userID fun u =>
    { u with phoneNumber := phoneNumber, phoneVerified := true, phoneVerifiedAt := atMs }

/-- Answers whether the address was verified and whether a password was cleared. -/
def Repo.setUserEmailVerified (r : Repo) (userID email : String) (atMs : Int) (clearPassword : Bool) :
    Except Err (Bool × Bool) × Repo :=
  if userID = "" || email = "" then
    (.error (.text "memory: SetUserEmailVerified: missing user id or email"), r)
  else
    match r.users.lookup userID with
    | none => (.ok (false, false), r)
    | some u =>
      if u.email ≠ email then (.ok (false, false), r)
      else
        let verified := { u with emailVerified := true, emailVerifiedAt := atMs, updatedAt := atMs }
        let after := if clearPassword then
            { verified with passwordHash := "", passwordChangeRequired := false }
          else verified
        (.ok (true, clearPassword && u.passwordHash != ""), r.writeUser userID u after atMs)

def Repo.setUserIDVVerified (r : Repo) (userID : String) (atMs : Int) : Except Err Unit × Repo :=
  match r.users.lookup userID with
  | none => (.error (userNotFound userID), r)
  | some u => (.ok (), r.writeUser userID u { u with idvVerified := true, idvVerifiedAt := atMs } atMs)

def Repo.updateUserEmail (r : Repo) (userID newEmail : String) (atMs : Int) : Except Err Unit × Repo :=
  match r.users.lookup userID with
  | none => (.error (userNotFound userID), r)
  | some u =>
    if newEmail != "" && r.heldByOther userID (fun other => foldEmail other.email == foldEmail newEmail) then
      (.error (.quoted "email" newEmail .alreadyExists), r)
    else
      let after := { u with
        email := newEmail
        emailVerified := true
        emailVerifiedAt := atMs
        updatedAt := atMs }
      (.ok (), r.writeUser userID u after atMs)

/-- Answers the address the account holds afterwards, empty for a missing account. -/
def Repo.assignAccountAddress (r : Repo) (userID address : String) : Except Err String × Repo :=
  if userID = "" || address = "" then
    (.error (.text "memory: AssignAccountAddress: missing user id or address"), r)
  else
    match r.users.lookup userID with
    | none => (.ok "", r)
    | some u =>
      if u.accountAddress ≠ "" then (.ok u.accountAddress, r)
      else if r.heldByOther userID (fun other => other.accountAddress == address) then
        (.error (.quoted "account address" address .alreadyExists), r)
      else (.ok address, { r with users := r.users.insert userID { u with accountAddress := address } })

/-- Drop every row of a table that belongs to a user. -/
def deleteByUser {α : Type} (table : GoMap String α) (want : String) (userID : α → String) : GoMap String α :=
  table.keep fun row => userID row != want

/-- The loop that drops a deleted user's guardian edges, ending what the child of
    each edge had delegated. -/
def Repo.drainGuardianEdges (r : Repo) (now : Int) (userID : String) : Repo :=
  (r.guardianEdges.entries.filter fun entry =>
      entry.2.guardianUserID == userID || entry.2.childUserID == userID).foldl
    (fun r' entry =>
      let r'' := r'.revokeAgentOAuthOwnerLocked entry.2.childUserID now
      { r'' with guardianEdges := r''.guardianEdges.erase entry.1 })
    r

/-- Drop a user's rows from every user-owned table. -/
def Repo.drainUserTables (r : Repo) (userID : String) : Repo :=
  { r with
    refreshTokens := deleteByUser r.refreshTokens userID (·.userID)
    sessions := deleteByUser r.sessions userID (·.userID)
    passkeyCreds := deleteByUser r.passkeyCreds userID (·.userID)
    passkeyChallenges := deleteByUser r.passkeyChallenges userID (·.userID)
    qrSessions := deleteByUser r.qrSessions userID (·.userID)
    oauthOneTimeCodes := deleteByUser r.oauthOneTimeCodes userID (·.userID)
    totpCreds := deleteByUser r.totpCreds userID (·.userID)
    recoveryCodes := deleteByUser r.recoveryCodes userID (·.userID)
    loginChallenges := deleteByUser r.loginChallenges userID (·.userID)
    invitations := deleteByUser r.invitations userID (·.userID)
    passwordResets := deleteByUser r.passwordResets userID (·.userID)
    emailVerifications := deleteByUser r.emailVerifications userID (·.userID)
    emailChanges := deleteByUser r.emailChanges userID (·.userID)
    oauthIdentities := deleteByUser r.oauthIdentities userID (·.userID)
    idvRecords := deleteByUser r.idvRecords userID (·.userID)
    phoneVerifyCodes := deleteByUser r.phoneVerifyCodes userID (·.holder) }

def Repo.deleteUserLocked (r : Repo) (now : Int) (userID : String) : Repo :=
  let r := r.invalidateAgentCreations userID
  let r := r.revokeAgentOAuthUserLocked (r.users.lookup userID) none now
  let r := r.drainUserTables userID
  let r := r.drainGuardianEdges now userID
  { r with users := r.users.erase userID }

def Repo.deleteUser (r : Repo) (now : Int) (userID : String) : Repo :=
  if userID = "" then r else r.deleteUserLocked now userID

/-- Oldest activity first, then by id. -/
def staleBefore (a b : String × Int) : Prop := a.2 < b.2 ∨ (a.2 = b.2 ∧ a.1 ≤ b.1)

instance : DecidableRel staleBefore := fun _ _ => inferInstanceAs (Decidable (_ ∨ _))

/-- Select and delete under one lock. -/
def Repo.deleteStaleAnonymousUsers (r : Repo) (now beforeMs : Int) (limit : Int) : Except Err Unit × Repo :=
  if limit ≤ 0 then
    (.error (.text ("memory: DeleteStaleAnonymousUsers: limit must be > 0, got " ++ toString limit)), r)
  else
    let stale := r.users.entries.filter fun entry =>
      entry.2.isAnonymous && entry.2.anonymousLastSeenMs < beforeMs
    let victims := (stale.map fun entry => (entry.1, entry.2.anonymousLastSeenMs)).insertionSort staleBefore
    (.ok (), (victims.take limit.toNat).foldl (fun r' victim => r'.deleteUserLocked now victim.1) r)

/-- The loop of a merge over every account: re-point agents, and fence the receipts
    of those that changed owner. -/
def Repo.mergeAgents (r : Repo) (m : AccountMerge) : Repo :=
  let fenced := r.users.rows.foldl (fun r' u => r'.fenceAgentCreations u.id u (m.applyToAgent u)) r
  { fenced with users := r.users.mapRows m.applyToAgent }

/-- Re-point the retired account's providers and end its tokens and sessions. -/
def Repo.mergeSideTables (r : Repo) (m : AccountMerge) : Repo :=
  { r with
    oauthIdentities := r.oauthIdentities.mapRows fun oi =>
      if oi.userID == m.otherID then { oi with userID := m.survivorID } else oi
    refreshTokens := deleteByUser r.refreshTokens m.otherID (·.userID)
    sessions := r.sessions.mapRows fun se =>
      if se.userID == m.otherID && se.revokedAtMs == 0 then { se with revokedAtMs := m.atMs } else se }

/-- The deferred loop of a merge: end what rested on any row that changed. -/
def Repo.revokeChangedUsers (r : Repo) (before : GoMap String User) (atMs : Int) : Repo :=
  before.entries.foldl
    (fun r' entry => r'.revokeAgentOAuthUserLocked (some entry.2) (r'.users.lookup entry.1) atMs) r

/-- The store once an accepted merge has written its rows. -/
def Repo.mergeRows (r : Repo) (m : AccountMerge) (survivor other : User) : Repo :=
  let merged := { r with users := (r.users.insert m.survivorID survivor).insert m.otherID other }
  ((merged.invalidateAgentCreations m.otherID).mergeAgents m).mergeSideTables m

def Repo.applyAccountMerge (r : Repo) (m : AccountMerge) : Except Err Unit × Repo :=
  match m.applyToUsers (r.users.lookup m.survivorID) (r.users.lookup m.otherID) with
  | .error err => (.error err, r.revokeChangedUsers r.users m.atMs)
  | .ok (survivor, other) => (.ok (), (r.mergeRows m survivor other).revokeChangedUsers r.users m.atMs)

/-- Count the agents of an owner. -/
def Repo.countAgents (r : Repo) (ownerID : String) : Nat :=
  (r.users.rows.filter fun u => u.isAgent && u.ownerUserID == ownerID).length

/-- Oldest first, then by id. -/
def createdBefore (a b : User) : Prop := a.createdAt < b.createdAt ∨ (a.createdAt = b.createdAt ∧ a.id ≤ b.id)

instance : DecidableRel createdBefore := fun _ _ => inferInstanceAs (Decidable (_ ∨ _))

/-- The users an owner filter selects, which an empty owner does not narrow. All
    pages of the listing are read in one step. -/
def Repo.listOwnedAgents (r : Repo) (ownerID : String) : List User :=
  (r.users.rows.filter fun u => ownerID == "" || u.ownerUserID == ownerID).insertionSort createdBefore

/-- The receipt a creation leaves. -/
def AgentCreation.receipt (request : AgentCreation) (agentID : String) : AgentCreationReceipt where
  callerID := request.callerID
  requestID := request.requestID
  fingerprint := request.fingerprint
  agentID := agentID
  ownerID := request.agent.ownerUserID

/-- Record the receipt of a keyed creation. -/
def Repo.recordCreation (r : Repo) (request : AgentCreation) (agentID : String) : Repo :=
  if request.requestID = "" then r
  else
    { r with
      agentCreations := r.agentCreations.insert (request.callerID, request.requestID)
        (AgentCreation.receipt request agentID) }

/-- Store the requested agent under a generated name, with its receipt. -/
def Repo.allocateAgent (r : Repo) (request : AgentCreation) : Except Err (User × Bool) × Repo :=
  let id := memID (r.seq + 1)
  if (r.users.lookup id).isSome then
    (.error (.wrapped .alreadyExists "new subject id unavailable"), { r with seq := r.seq + 1 })
  else
    (.ok ({ request.agent with id := id }, true),
      { r with
        seq := r.seq + 1
        users := r.users.insert id { request.agent with id := id } }.recordCreation request id)

/-- Create an agent with its retry receipt, or answer the agent of an earlier
    receipt. The second component says whether an agent was created. -/
def Repo.createAgent (r : Repo) (request : AgentCreation) : Except Err (User × Bool) × Repo :=
  match validateAgentCreation request with
  | .error err => (.error err, r)
  | .ok () =>
    match checkAgentCreationAuthority (r.users.lookup request.callerID)
        (r.users.lookup request.agent.ownerUserID) with
    | .error err => (.error err, r)
    | .ok () =>
      match if request.requestID = "" then none
        else r.agentCreations.lookup (request.callerID, request.requestID) with
      | some receipt =>
        match checkAgentCreationReplay receipt request (r.users.lookup receipt.agentID) with
        | .error err => (.error err, r)
        | .ok agent => (.ok (agent, false), r)
      | none =>
        if (r.countAgents request.agent.ownerUserID : Int) ≥ request.ownerLimit then
          (.error (.sentinel .agentLimitReached), r)
        else r.allocateAgent request

/-- Settle a transfer that waits on `pendingOwnerID`, or leave the agent alone. -/
def settledAgent (u : User) (pendingOwnerID : String) (accept : Bool) (atMs : Int) : Option User :=
  if !u.isAgent || pendingOwnerID == "" || u.pendingOwnerUserID != pendingOwnerID then none
  else some { u with
    ownerUserID := if accept then pendingOwnerID else u.ownerUserID
    pendingOwnerUserID := ""
    updatedAt := atMs }

/-- Write an agent's owners while `expectedOwnerID` still owns it. -/
def ownedAgent (u : User) (expectedOwnerID ownerID pendingOwnerID : String) (atMs : Int) : Option User :=
  if !u.isAgent || expectedOwnerID == "" || ownerID == "" || u.ownerUserID != expectedOwnerID then none
  else some { u with ownerUserID := ownerID, pendingOwnerUserID := pendingOwnerID, updatedAt := atMs }

/-- Apply a conditional change to an agent's row, with its fences and revocations. -/
def Repo.changeAgent (r : Repo) (agentID : String) (change : User → Option User) (atMs : Int) : Bool × Repo :=
  match r.users.lookup agentID with
  | none => (false, r)
  | some u =>
    match change u with
    | none => (false, r)
    | some after => (true, (r.fenceAgentCreations agentID u after).writeUser agentID u after atMs)

def Repo.settleAgentTransfer (r : Repo) (agentID pendingOwnerID : String) (accept : Bool) (atMs : Int) :
    Except Err Bool × Repo :=
  if agentID = "" || pendingOwnerID = "" then
    (.error (.text "memory: SettleAgentTransfer: missing agent or pending owner id"), r)
  else
    let out := r.changeAgent agentID (fun u => settledAgent u pendingOwnerID accept atMs) atMs
    (.ok out.1, out.2)

def Repo.setAgentOwnership (r : Repo) (agentID expectedOwnerID ownerID pendingOwnerID : String) (atMs : Int) :
    Except Err Bool × Repo :=
  if agentID = "" || expectedOwnerID = "" || ownerID = "" then
    (.error (.text "memory: SetAgentOwnership: missing agent or owner id"), r)
  else
    let out := r.changeAgent agentID (fun u => ownedAgent u expectedOwnerID ownerID pendingOwnerID atMs) atMs
    (.ok out.1, out.2)

end identity.memory
