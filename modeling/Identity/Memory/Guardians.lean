import Identity.Memory.Users.Basic

open identity.service
namespace identity.memory

/-- A user-node patch of the administrators' graph interface. The SQL stores run it
    as one update of the same user row, whose triggers end what rested on the row;
    a patch of a missing row changes nothing. -/
def Repo.updateUserNode (r : Repo) (now : Int) (userID : String) (patch : Fields) : Repo :=
  match r.users.lookup userID with
  | none => r
  | some u => r.writeUser userID u (applyUserFields u patch) now

def Repo.findInvitationByHash (r : Repo) (tokenHash : String) : Option InvitationRecord :=
  r.invitations.findRow fun inv => inv.tokenHash == tokenHash

/-- The invitation node an administrator creates. -/
def Repo.createInvitation (r : Repo) (inv : InvitationRecord) : String × Repo :=
  let (id, r) := r.nextID
  (id, { r with invitations := r.invitations.insert id { inv with nodeID := id } })

def Repo.updateInvitation (r : Repo) (nodeID : String) (acceptedAt : Int) : Except Err Unit × Repo :=
  match r.invitations.lookup nodeID with
  | none => (.error (.text ("invitation " ++ nodeID ++ " not found")), r)
  | some inv => (.ok (), { r with invitations := r.invitations.insert nodeID { inv with acceptedAt := acceptedAt } })

/-- Oldest first, then by id. -/
def mintedBefore (a b : RefreshTokenRecord) : Prop :=
  a.createdAt < b.createdAt ∨ (a.createdAt = b.createdAt ∧ a.nodeID ≤ b.nodeID)

instance : DecidableRel mintedBefore := fun _ _ => inferInstanceAs (Decidable (_ ∨ _))

/-- The refresh tokens of a user as the graph interface lists them, consumed ones too. -/
def Repo.queryRefreshTokenNodes (r : Repo) (userID : String) : List RefreshTokenRecord :=
  (r.refreshTokens.rows.filter fun t => t.userID == userID).insertionSort mintedBefore

/-- Earliest deadline first, then by id. -/
def deletedBefore (a b : User) : Prop :=
  a.deletionScheduledAtMs < b.deletionScheduledAtMs ∨
    (a.deletionScheduledAtMs = b.deletionScheduledAtMs ∧ a.id ≤ b.id)

instance : DecidableRel deletedBefore := fun _ _ => inferInstanceAs (Decidable (_ ∨ _))

/-- The accounts whose self-service deletion window has elapsed. -/
def Repo.listUsersPendingDeletionBefore (r : Repo) (cutoffMs limit : Int) : Except Err (List User) :=
  if limit ≤ 0 then
    .error (.text ("memory: ListUsersPendingDeletionBefore: limit must be > 0, got " ++ toString limit))
  else
    .ok (((r.users.rows.filter fun u => u.status == statusPendingDeletion &&
      !(u.deletionScheduledAtMs ≤ 0 || u.deletionScheduledAtMs > cutoffMs)).insertionSort
        deletedBefore).take limit.toNat)

/-- The key of an edge; the separator cannot occur in a user id. -/
def guardianEdgeKey (guardianUserID childUserID : String) : String :=
  guardianUserID ++ "\x00" ++ childUserID

/-- Idempotent: an existing edge keeps its creation time. -/
def Repo.upsertGuardianEdge (r : Repo) (e : GuardianEdge) : Except Err Unit × Repo :=
  if e.guardianUserID = "" || e.childUserID = "" then
    (.error (.text "guardian edge: missing guardian or child user id"), r)
  else if (r.guardianEdges.lookup (guardianEdgeKey e.guardianUserID e.childUserID)).isSome then (.ok (), r)
  else
    (.ok (), { r with
      guardianEdges := r.guardianEdges.insert (guardianEdgeKey e.guardianUserID e.childUserID)
        { e with projectID := r.projectID } })

/-- Losing a guardian ends what the child had delegated. -/
def Repo.deleteGuardianEdge (r : Repo) (now : Int) (guardianUserID childUserID : String) : Repo :=
  let key := guardianEdgeKey guardianUserID childUserID
  if (r.guardianEdges.lookup key).isSome then
    let r := r.revokeAgentOAuthOwnerLocked childUserID now
    { r with guardianEdges := r.guardianEdges.erase key }
  else r

def Repo.getGuardianEdge (r : Repo) (guardianUserID childUserID : String) : Option GuardianEdge :=
  r.guardianEdges.lookup (guardianEdgeKey guardianUserID childUserID)

/-- The guardians of a child, ordered by their ids. -/
def Repo.listGuardiansOfChild (r : Repo) (childUserID : String) (limit offset : Int) :
    Except Err (List GuardianEdge) :=
  if limit ≤ 0 then
    .error (.text ("memory: ListGuardiansOfChild: limit must be > 0, got " ++ toString limit))
  else
    .ok ((((r.guardianEdges.rows.filter fun e => e.childUserID == childUserID).insertionSort
      fun a b => a.guardianUserID ≤ b.guardianUserID).drop offset.toNat).take limit.toNat)

/-- The children of a guardian, ordered by their ids. -/
def Repo.listChildrenOfGuardian (r : Repo) (guardianUserID : String) (limit offset : Int) :
    Except Err (List GuardianEdge) :=
  if limit ≤ 0 then
    .error (.text ("memory: ListChildrenOfGuardian: limit must be > 0, got " ++ toString limit))
  else
    .ok ((((r.guardianEdges.rows.filter fun e => e.guardianUserID == guardianUserID).insertionSort
      fun a b => a.childUserID ≤ b.childUserID).drop offset.toNat).take limit.toNat)

def Repo.createParentalConsent (r : Repo) (rec : ParentalConsentRecord) : Except Err Unit × Repo :=
  if rec.consentID = "" then (.error (.text "parental consent: missing consent id"), r)
  else if (r.parentalConsents.lookup rec.consentID).isSome then
    (.error (.text ("parental consent " ++ rec.consentID ++ " already exists")), r)
  else
    (.ok (), { r with
      parentalConsents := r.parentalConsents.insert rec.consentID { rec with projectID := r.projectID } })

/-- Newest grant first, then by id. -/
def newerConsent (a b : ParentalConsentRecord) : Prop :=
  b.grantedAt < a.grantedAt ∨ (a.grantedAt = b.grantedAt ∧ a.consentID ≤ b.consentID)

instance : DecidableRel newerConsent := fun _ _ => inferInstanceAs (Decidable (_ ∨ _))

/-- The consents for a child that have not been withdrawn. -/
def Repo.listActiveParentalConsentsForChild (r : Repo) (childUserID : String) : List ParentalConsentRecord :=
  (r.parentalConsents.rows.filter fun rec =>
    rec.childUserID == childUserID && rec.revokedAt == 0).insertionSort newerConsent

/-- The loop that keeps the latest grant among the consents that stand. -/
def Repo.getActiveParentalConsentForChild (r : Repo) (childUserID : String) : Option ParentalConsentRecord :=
  (r.parentalConsents.rows.filter fun rec => rec.childUserID == childUserID && rec.revokedAt == 0).foldl
    (fun latest rec =>
      match latest with
      | none => some rec
      | some best => if best.grantedAt < rec.grantedAt then some rec else some best)
    none

def Repo.markParentalConsentRevoked (r : Repo) (consentID revokedByUserID : String) (atMs : Int) :
    Except Err Unit × Repo :=
  match r.parentalConsents.lookup consentID with
  | none => (.error (.text ("parental consent " ++ consentID ++ " not found")), r)
  | some rec =>
    (.ok (), { r with
      parentalConsents := r.parentalConsents.insert consentID
        { rec with revokedAt := atMs, revokedByUserID := revokedByUserID } })

/-- The unique column or key in which a managed child clashes with what is stored. -/
def Repo.managedChildConflict (r : Repo) (u : User) (consent : ParentalConsentRecord) : Option Err :=
  if u.username != "" && r.users.anyRow (fun existing => existing.username == u.username) then
    some (.quoted "username" u.username .alreadyExists)
  else if u.accountAddress != "" && r.users.anyRow (fun existing => existing.accountAddress == u.accountAddress) then
    some (.quoted "account address" u.accountAddress .alreadyExists)
  else if u.email != "" && r.users.anyRow (fun existing => foldEmail existing.email == foldEmail u.email) then
    some (.quoted "email" u.email .alreadyExists)
  else if (r.parentalConsents.lookup consent.consentID).isSome then
    some (.quoted "consent" consent.consentID .alreadyExists)
  else none

/-- The child's row, its guardian edge and its consent record, or none of them. -/
def Repo.createManagedChildAccount (r : Repo) (u : User) (edge : GuardianEdge)
    (consent : ParentalConsentRecord) : Except Err String × Repo :=
  if edge.guardianUserID = "" then
    (.error (.text "memory: CreateManagedChildAccount: missing guardian user id"), r)
  else if consent.consentID = "" then
    (.error (.text "memory: CreateManagedChildAccount: missing consent id"), r)
  else
    match r.managedChildConflict u consent with
    | some err => (.error err, r)
    | none =>
      match r.insertUser u with
      | (.error err, r) => (.error err, r)
      | (.ok id, r) =>
        (.ok id, { r with
          guardianEdges := r.guardianEdges.insert (guardianEdgeKey edge.guardianUserID id)
            { edge with projectID := r.projectID, childUserID := id }
          parentalConsents := r.parentalConsents.insert consent.consentID
            { consent with projectID := r.projectID, childUserID := id } })

end identity.memory
