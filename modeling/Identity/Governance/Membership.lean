import Mathlib.Data.List.Sort
import Identity.Interleaving.Condition
import Identity.ReadCommitted.Store
import Identity.Service.Errors

/-! `internal/repo/postgres`: the memberships of one tenant and the records of its removals,
statement by statement. -/

open identity.service
namespace identity.postgres

inductive MembershipSource where
  | domain
  | invited
  | added
  | created
deriving DecidableEq

inductive Role where
  | member
  | admin
  | owner
deriving DecidableEq

inductive MembershipStatus where
  | active
  | pending
  | inactive
  | suspended
deriving DecidableEq

/-- A row of `tenant_memberships`. A row that is deleted and inserted again has another id. -/
structure TenantMembership where
  id : Nat
  userID : String
  source : MembershipSource
  role : Role
  status : MembershipStatus
deriving DecidableEq

def Role.rank : Role → Nat
  | owner => 3
  | admin => 2
  | member => 1

namespace TenantMembership
variable (m : TenantMembership)

def isActiveOwner : Bool := m.role == .owner && m.status == .active

/-- An active owner or admin. -/
def governs : Bool := m.status == .active && (m.role == .owner || m.role == .admin)

/-- The membership is active at the granted role or a higher one. -/
def holdsRole (role : Role) : Bool := m.status == .active && decide (role.rank ≤ m.role.rank)

/-- A grant does not write a suspended membership, nor one that holds the role from a source
    that the grant keeps. -/
def grantSkips (source : MembershipSource) (role : Role) : Bool :=
  m.status == .suspended || m.holdsRole role && (m.source != .domain || source == .domain)

/-- The row after the `DO UPDATE` of a grant. -/
def granted (source : MembershipSource) (role : Role) : TenantMembership :=
  { m with
    source := if m.source = .domain then source else m.source
    role := if m.holdsRole role then m.role else role
    status := .active }

end TenantMembership

/-- The writes of one row by its user. -/
inductive RowWrite where
  | delete
  | suspend
  | restore
  | makeOwner
  | makeAdmin
deriving DecidableEq

/-- What a step meets: the time, whether the account's email is on a domain the tenant has
    verified, and whether the domain lets people join the claimed tenant. -/
structure Tick where
  time : Int := 0
  onVerifiedDomain : Bool := true
  doorOpen : Bool := true

/-- The row after a write, none when it is deleted. -/
def RowWrite.apply (tick : Tick) (m : TenantMembership) : RowWrite → Option TenantMembership
  | delete => none
  | suspend => some { m with status := .suspended }
  | restore =>
    some { m with status := if m.source = .domain ∧ tick.onVerifiedDomain = false then .inactive else .active }
  | makeOwner => some { m with role := .owner, source := if m.source = .domain then .added else m.source }
  | makeAdmin => some { m with role := .admin }

/-- The tables of one tenant. Advisory locks are on the membership of a user. -/
structure TenantDb where
  members : ReadCommitted.Store String TenantMembership
  removals : ReadCommitted.Store String Int
  advisory : LockTable String
  nextID : Nat

/-- The statements, each of a transaction that is named by its call. `FOR UPDATE` is the
    reading of the rows that match when it starts, and then the locking of each. -/
inductive Statement where
  | lockMembership (tx : Nat) (userID : String)
  | selectOwnersAnd (tx : Nat) (userIDs : List String)
  | lockRow (tx : Nat) (row : TenantMembership)
  | readMembership (tx : Nat) (userID : String)
  | countOtherOwners (tx : Nat) (userID : String)
  | writeRow (tx : Nat) (userID : String) (write : RowWrite)
  | grant (tx : Nat) (userID : String) (source : MembershipSource) (role : Role)
  | recordRemoval (tx : Nat) (userID : String)
  | clearRemoval (tx : Nat) (userID : String)
  | isRemoved (tx : Nat) (userID : String)
  | doorOpen (tx : Nat)
  | upsertDerived (userID : String)
  | commit (tx : Nat)
  | rollback (tx : Nat)
deriving DecidableEq

@[reducible] def Statement.Response : Statement → Type
  | lockMembership _ _ => Unit
  | selectOwnersAnd _ _ => List TenantMembership
  | lockRow _ _ => Option TenantMembership
  | readMembership _ _ => Option TenantMembership
  | countOtherOwners _ _ => Nat
  | writeRow _ _ _ => Option TenantMembership
  | grant _ _ _ _ => Option TenantMembership
  | recordRemoval _ _ => Unit
  | clearRemoval _ _ => Unit
  | isRemoved _ _ => Bool
  | doorOpen _ => Bool
  | upsertDerived _ => Unit
  | commit _ => Unit
  | rollback _ => Unit

/-- The steps of a run, the latest first. -/
abbrev DbTrace : Type := List (Event Statement.Response)

namespace TenantDb
variable (db : TenantDb) (tx : Nat)

/-- The active owners and the memberships of the users, in the order of the user ids. -/
def selectOwnersAnd (userIDs : List String) : List TenantMembership :=
  ((db.members.visible tx).rows.filter fun m => m.isActiveOwner || userIDs.contains m.userID).insertionSort
    fun m m' => m.userID ≤ m'.userID

/-- Lock the row that was read and read it again. A row that has been deleted is skipped. -/
def lockRow (row : TenantMembership) : Option TenantMembership × TenantDb :=
  match db.members.read tx row.userID with
  | none => (none, db)
  | some m => if m.id = row.id then (some m, { db with members := db.members.lock tx row.userID }) else (none, db)

def countOtherOwners (userID : String) : Nat :=
  (db.members.visible tx).rows.countP fun m => m.userID != userID && m.isActiveOwner

def writeRow (tick : Tick) (userID : String) (write : RowWrite) : Option TenantMembership × TenantDb :=
  match db.members.read tx userID with
  | none => (none, db)
  | some m => (write.apply tick m, { db with members := db.members.write tx userID (write.apply tick m) })

/-- `INSERT … ON CONFLICT DO UPDATE`: a row in conflict is locked also when it is not
    written. -/
def grant (userID : String) (source : MembershipSource) (role : Role) : Option TenantMembership × TenantDb :=
  match db.members.read tx userID with
  | none =>
    let row : TenantMembership := ⟨db.nextID, userID, source, role, .active⟩
    (some row, { db with members := db.members.write tx userID (some row), nextID := db.nextID + 1 })
  | some m =>
    if m.grantSkips source role then (none, { db with members := db.members.lock tx userID })
    else (some (m.granted source role),
      { db with members := db.members.write tx userID (some (m.granted source role)) })

/-- A membership that is there keeps everything but its time; a removed user gets none. -/
def upsertDerived (userID : String) : TenantDb :=
  match db.removals.committed.lookup userID, db.members.committed.lookup userID with
  | none, none =>
    { db with members := db.members.put userID ⟨db.nextID, userID, .domain, .member, .active⟩,
              nextID := db.nextID + 1 }
  | _, _ => db

def commit : TenantDb :=
  { db with members := db.members.commit tx, removals := db.removals.commit tx, advisory := db.advisory.release tx }

def rollback : TenantDb :=
  { db with members := db.members.rollback tx, removals := db.removals.rollback tx,
            advisory := db.advisory.release tx }

end TenantDb

def handle : Handler Statement.Response Tick TenantDb
  | .lockMembership tx userID, _, db => ((), { db with advisory := db.advisory.take tx userID })
  | .selectOwnersAnd tx userIDs, _, db => (db.selectOwnersAnd tx userIDs, db)
  | .lockRow tx row, _, db => db.lockRow tx row
  | .readMembership tx userID, _, db => (db.members.read tx userID, db)
  | .countOtherOwners tx userID, _, db => (db.countOtherOwners tx userID, db)
  | .writeRow tx userID write, tick, db => db.writeRow tx tick userID write
  | .grant tx userID source role, _, db => db.grant tx userID source role
  | .recordRemoval tx userID, tick, db =>
    ((), { db with removals := db.removals.write tx userID (some tick.time) })
  | .clearRemoval tx userID, _, db => ((), { db with removals := db.removals.write tx userID none })
  | .isRemoved tx userID, _, db => ((db.removals.read tx userID).isSome, db)
  | .doorOpen _, tick, db => (tick.doorOpen, db)
  | .upsertDerived userID, _, db => ((), db.upsertDerived userID)
  | .commit tx, _, db => ((), db.commit tx)
  | .rollback tx, _, db => ((), db.rollback tx)

/-- The lock that a statement waits for is free. -/
def Statement.ready (db : TenantDb) : Statement → Bool
  | lockMembership tx userID => db.advisory.free tx userID
  | lockRow tx row => db.members.free tx row.userID
  | writeRow tx userID _ => db.members.free tx userID
  | grant tx userID _ _ => db.members.free tx userID
  | recordRemoval tx userID => db.removals.free tx userID
  | clearRemoval tx userID => db.removals.free tx userID
  -- a transaction of its own
  | upsertDerived userID => (db.members.locks.lookup userID).isNone
  | _ => true

/-! `internal/repo/postgres`: the transactions on the memberships of one tenant. -/

abbrev DbCall (α : Type) := Call Statement.Response α

/-- What a call returns, or its error. -/
abbrev MembershipCall := DbCall (Except Err (Option TenantMembership))

section Transactions
variable (tx : Nat)

abbrev run (statement : Statement) : DbCall statement.Response := Call.ask statement

/-- The deferred rollback of a call that returns before it commits. -/
def abandon (result : Except Err (Option TenantMembership)) : MembershipCall := do
  run (.rollback tx)
  return result

def lockRows (userIDs : List String) : List TenantMembership → DbCall (List TenantMembership)
  | [] => return []
  | row :: rest => do
    let found ← run (.lockRow tx row)
    let held ← lockRows userIDs rest
    match found with
    | some m => if userIDs.contains m.userID then return m :: held else return held
    | none => return held

/-- The memberships of the users, as they stand once they and the active owners are locked. -/
def lockOwnersAnd (userIDs : List String) : DbCall (List TenantMembership) := do
  let rows ← run (.selectOwnersAnd tx userIDs)
  lockRows tx userIDs rows

def held (rows : List TenantMembership) (userID : String) : Option TenantMembership :=
  rows.find? fun m => m.userID == userID

/-- Refuse to take the last active owner out of the tenant. -/
def keepAnOwner (target : TenantMembership) (verb : String) : DbCall (Except Err Unit) := do
  if target.isActiveOwner then
    let others ← run (.countOtherOwners tx target.userID)
    if others = 0 then return .error (.wrapped .lastOwner ("cannot " ++ verb ++ " the last owner of a tenant"))
    else return .ok ()
  else return .ok ()

def requiredIDs : Err := .wrapped .invalidArgument "project_id, tenant_id and user_id are required"

def removeMembership (userID : String) : MembershipCall := do
  if userID = "" then return .error requiredIDs
  else
    run (.lockMembership tx userID)
    let rows ← lockOwnersAnd tx [userID]
    match held rows userID with
    | none => abandon tx (.ok none)
    | some target =>
      match ← keepAnOwner tx target "remove" with
      | .error err => abandon tx (.error err)
      | .ok () =>
        let _ ← run (.writeRow tx userID .delete)
        run (.recordRemoval tx userID)
        run (.commit tx)
        return .ok (some target)

def suspendMembership (userID : String) : MembershipCall := do
  if userID = "" then return .error requiredIDs
  else
    run (.lockMembership tx userID)
    let rows ← lockOwnersAnd tx [userID]
    match held rows userID with
    | none => abandon tx (.error (.wrapped .notFound "the user is not a member of the tenant"))
    | some target =>
      if target.status = .suspended then abandon tx (.ok (some target))
      else if target.status ≠ .active then
        abandon tx (.error (.wrapped .notFound "the user is not an active member of the tenant"))
      else
        match ← keepAnOwner tx target "suspend" with
        | .error err => abandon tx (.error err)
        | .ok () =>
          let suspended ← run (.writeRow tx userID .suspend)
          run (.commit tx)
          return .ok suspended

/-- Who lifts a suspension. -/
inductive Restorer where
  | member (userID : String)
  | operator
deriving DecidableEq

def Restorer.userID : Restorer → String
  | member userID => userID
  | operator => ""

def Restorer.isOperator : Restorer → Bool
  | member _ => false
  | operator => true

def Restorer.namesNobody (r : Restorer) : Bool := !r.isOperator && r.userID == ""

/-- An operator, or an active owner or admin among the rows. -/
def mayRestore (by' : Restorer) (rows : List TenantMembership) : Bool :=
  by'.isOperator || (held rows by'.userID).any TenantMembership.governs

/-- The account row that a suspended membership's restore also locks is not modelled: what
    it decides is the step's input. -/
def restoreMembership (userID : String) (by' : Restorer) : MembershipCall := do
  if userID = "" then return .error requiredIDs
  else if by'.namesNobody then return .error (.wrapped .permissionDenied "a restore must name who restores")
  else
    run (.lockMembership tx userID)
    let _ ← run (.readMembership tx userID)
    let rows ← lockOwnersAnd tx [userID, by'.userID]
    if mayRestore by' rows = false then
      abandon tx (.error (.wrapped .permissionDenied
        "only an active owner or admin of the tenant may restore a member"))
    else
      match held rows userID with
      | none => abandon tx (.error (.wrapped .notFound "the user is not a member of the tenant"))
      | some target =>
        if target.status = .active then abandon tx (.ok (some target))
        else if target.status ≠ .suspended then
          abandon tx (.error (.wrapped .notFound "the user is not a suspended member of the tenant"))
        else
          let restored ← run (.writeRow tx userID .restore)
          run (.commit tx)
          return .ok restored

def transferOwnership (fromUserID toUserID : String) : MembershipCall := do
  if fromUserID = "" ∨ toUserID = "" then
    return .error (.wrapped .invalidArgument "project_id, tenant_id and both user ids are required")
  else if fromUserID = toUserID then
    return .error (.wrapped .invalidArgument "ownership cannot pass to the same user")
  else
    let rows ← lockOwnersAnd tx [fromUserID, toUserID]
    if (held rows fromUserID).all fun m => !m.isActiveOwner then
      abandon tx (.error (.wrapped .permissionDenied "only an active owner may transfer ownership"))
    else if (held rows toUserID).all fun m => m.status != .active then
      abandon tx (.error (.wrapped .notFound "the new owner is not an active member of the tenant"))
    else
      let to' ← run (.writeRow tx toUserID .makeOwner)
      let _ ← run (.writeRow tx fromUserID .makeAdmin)
      run (.commit tx)
      return .ok to'

/-- The grant's statement and, when it wrote nothing, what the user holds. -/
def grantIn (userID : String) (source : MembershipSource) (role : Role) : MembershipCall := do
  match ← run (.grant tx userID source role) with
  | some granted => return .ok (some granted)
  | none =>
    match ← run (.readMembership tx userID) with
    | none => return .error (.wrapped .unavailable "membership vanished")
    | some kept =>
      if kept.status = .suspended then return .error (.sentinel .memberSuspended) else return .ok (some kept)

/-- Only a grant of another source than the email's domain ends a removal. -/
def clearRemoval (userID : String) (source : MembershipSource) : DbCall Unit := do
  if source = .domain then return ()
  else run (.clearRemoval tx userID)

def commitGrant (result : Except Err (Option TenantMembership)) : MembershipCall := do
  match result with
  | .error err => abandon tx (.error err)
  | .ok granted =>
    run (.commit tx)
    return .ok granted

def grantMembership (userID : String) (source : MembershipSource) (role : Role) : MembershipCall := do
  if userID = "" then return .error requiredIDs
  else
    run (.lockMembership tx userID)
    clearRemoval tx userID source
    let result ← grantIn tx userID source role
    commitGrant tx result

def joinByDomain (userID : String) : MembershipCall := do
  if userID = "" then
    return .error (.wrapped .invalidArgument "project_id, tenant_id, user_id and domain_id are required")
  else
    run (.lockMembership tx userID)
    let door ← run (.doorOpen tx)
    if door = false then abandon tx (.ok none)
    else
      let removed ← run (.isRemoved tx userID)
      if removed = true then abandon tx (.error (.sentinel .removedFromTenant))
      else
        let result ← grantIn tx userID .domain .member
        commitGrant tx result

/-- The membership of a signup on the tenant's domain; which tenant the domain's signups join
    is decided before. -/
def ensureTenantForDomain (userID : String) : MembershipCall := do
  if userID = "" then return .error (.wrapped .invalidArgument "missing user_id")
  else
    run (.upsertDerived userID)
    return .ok none

end Transactions

/-- The calls on one tenant. -/
inductive MembershipTask where
  | remove (userID : String)
  | suspend (userID : String)
  | restore (userID : String) (by' : Restorer)
  | transfer (fromUserID toUserID : String)
  | grant (userID : String) (source : MembershipSource) (role : Role)
  | join (userID : String)
  | ensure (userID : String)
deriving DecidableEq

def MembershipTask.program (tx : Nat) : MembershipTask → MembershipCall
  | remove userID => removeMembership tx userID
  | suspend userID => suspendMembership tx userID
  | restore userID by' => restoreMembership tx userID by'
  | transfer fromUserID toUserID => transferOwnership tx fromUserID toUserID
  | grant userID source role => grantMembership tx userID source role
  | join userID => joinByDomain tx userID
  | ensure userID => ensureTenantForDomain userID

abbrev TenantPool := Pool Statement.Response TenantDb (Except Err (Option TenantMembership))

/-- The calls of a run, each with a transaction of its own, over what is committed. -/
def tenantPool (rows : GoMap String TenantMembership) (removals : GoMap String Int) (nextID : Nat)
    (tasks : List MembershipTask) : TenantPool :=
  Pool.start ⟨.idle rows, .idle removals, (∅ : GoMap String Nat), nextID⟩
    (tasks.zipIdx.map fun item => item.1.program item.2)

/-- A step waits until the lock it needs is free. -/
def Waits (pool : TenantPool) (_ : Nat) (_ : Tick) (statement : Statement) : Prop :=
  statement.ready pool.store = true

instance (pool : TenantPool) (caller : Nat) (tick : Tick) (statement : Statement) :
    Decidable (Waits pool caller tick statement) :=
  inferInstanceAs (Decidable (_ = true))

end identity.postgres
