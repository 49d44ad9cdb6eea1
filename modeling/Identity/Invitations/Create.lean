import Identity.Governance.Membership
import Identity.Service.EmailAddress
import Identity.Service.User

/-! `internal/repo/postgres`: the invitations of a project, statement by statement. -/

open identity.service identity.postgres ReadCommitted
namespace identity.invitations

inductive InvitationStatus where
  | pending
  | accepted
  | revoked
  | expired
deriving DecidableEq

/-- A row of `tenant_invitations`, stored under its id. -/
structure TenantInvitation where
  tenantID : String
  tokenHash : String
  email : String
  invitedBy : String
  role : Role
  status : InvitationStatus := .pending
  expiresAtMs : Int
  acceptedAtMs : Int := 0
  createdAtMs : Int
deriving DecidableEq

/-- A project's invitations, with ids that have been given out. -/
structure InvitationRows where
  rows : GoMap Nat TenantInvitation
  nextID : Nat
  below : ∀ id inv, rows.lookup id = some inv → id < nextID

/-- What a create is held to; the times are read from the caller's clock. -/
structure InvitationLimits where
  maxPerTenant : Int
  windowStartMs : Int
  resendCooldownStartMs : Int
  maxPerInviter : Int
  maxPerRecipient : Int
deriving DecidableEq

/-- Two invitations of one tenant to one address. -/
@[grind =]
def SameRecipient (inv inv' : TenantInvitation) : Prop :=
  inv.tenantID = inv'.tenantID ∧ foldEmail inv.email = foldEmail inv'.email

/-- Which invitations a limit counts. -/
inductive Scope where
  | tenant (tenantID : String)
  | inviter (userID : String)
  | recipient (tenantID key : String)
deriving DecidableEq

def Scope.covers (inv : TenantInvitation) : Scope → Bool
  | tenant tenantID => inv.tenantID == tenantID
  | inviter userID => inv.invitedBy == userID
  | recipient tenantID key => inv.tenantID == tenantID && foldEmail inv.email == key

/-- The advisory locks of a create. -/
inductive CreateLock where
  | tenant (tenantID : String)
  | inviter (userID : String)
deriving DecidableEq

structure InvitationDb where
  rows : Store Nat TenantInvitation
  advisory : LockTable CreateLock
  nextID : Nat

inductive Statement where
  | requireTenantAdmin (tenantID callerID : String)
  | now
  | randomToken
  | lockXact (tx : Nat) (lock : CreateLock)
  | sentSince (tx : Nat) (scope : Scope) (startMs : Int)
  | count (tx : Nat) (scope : Scope) (startMs : Int)
  | revokePending (tx : Nat) (tenantID key : String)
  | insert (tx : Nat) (inv : TenantInvitation)
  | commit (tx : Nat)
  | rollback (tx : Nat)
deriving DecidableEq

@[reducible] def Statement.Response : Statement → Type
  | requireTenantAdmin _ _ => Except Err Unit
  | now => Int
  | randomToken => String
  | lockXact _ _ => Unit
  | .sentSince _ _ _ => Bool
  | count _ _ _ => Nat
  | revokePending _ _ _ => Unit
  | insert _ _ => Nat
  | commit _ => Unit
  | rollback _ => Unit

/-- The steps of a run, the latest first. -/
abbrev DbTrace : Type := List (Event Statement.Response)

/-- What a step meets: the clock, whether the caller may invite, and the hash of a fresh
    token. -/
structure Tick where
  nowMs : Int
  admin : Except Err Unit := .ok ()
  tokenHash : String := "hash"

namespace InvitationDb
variable (db : InvitationDb) (tx : Nat)

/-- How many invitations of the scope were created at or after the time, whatever their
    status. -/
def count (scope : Scope) (startMs : Int) : Nat :=
  (db.rows.visible tx).rows.countP fun inv => scope.covers inv && decide (startMs ≤ inv.createdAtMs)

def isOpen (tenantID key : String) (inv : TenantInvitation) : Bool :=
  (Scope.recipient tenantID key).covers inv && inv.status == .pending

/-- The ids of the pending invitations of a tenant to an address. -/
def openIDs (tenantID key : String) : List Nat :=
  ((db.rows.visible tx).entries.filter fun entry => isOpen tenantID key entry.2).map fun entry => entry.1

def revoke (id : Nat) : InvitationDb :=
  match db.rows.read tx id with
  | none => db
  | some inv => { db with rows := db.rows.write tx id (some { inv with status := .revoked }) }

/-- Revoke every pending invitation of the tenant to the address. -/
def revokePending (tenantID key : String) : InvitationDb :=
  (db.openIDs tx tenantID key).foldl (fun db' id => db'.revoke tx id) db

def insert (inv : TenantInvitation) : Nat × InvitationDb :=
  (db.nextID, { db with rows := db.rows.write tx db.nextID (some inv), nextID := db.nextID + 1 })

def commit : InvitationDb :=
  { db with rows := db.rows.commit tx, advisory := db.advisory.release tx }

def rollback : InvitationDb :=
  { db with rows := db.rows.rollback tx, advisory := db.advisory.release tx }

end InvitationDb

def handle : Handler Statement.Response Tick InvitationDb
  | .requireTenantAdmin _ _, tick, db => (tick.admin, db)
  | .now, tick, db => (tick.nowMs, db)
  | .randomToken, tick, db => (tick.tokenHash, db)
  | .lockXact tx lock, _, db => ((), { db with advisory := db.advisory.take tx lock })
  | .sentSince tx scope startMs, _, db => (decide (db.count tx scope startMs ≠ 0), db)
  | .count tx scope startMs, _, db => (db.count tx scope startMs, db)
  | .revokePending tx tenantID key, _, db => ((), db.revokePending tx tenantID key)
  | .insert tx inv, _, db => db.insert tx inv
  | .commit tx, _, db => ((), db.commit tx)
  | .rollback tx, _, db => ((), db.rollback tx)

/-- The locks that a statement waits for are free. -/
def Statement.ready (db : InvitationDb) : Statement → Bool
  | lockXact tx lock => db.advisory.free tx lock
  | revokePending tx tenantID key => (db.openIDs tx tenantID key).all fun id => db.rows.free tx id
  | _ => true

/-! Inviting an address to a tenant. -/

abbrev DbCall (α : Type) := Call Statement.Response α

abbrev run (statement : Statement) : DbCall statement.Response := Call.ask statement

/-- The invitation settings, each at least 1 as the getters of the configuration answer them. -/
structure InvitationConfig where
  tenantInvitationLimit : Int
  tenantInvitationInviterLimit : Int
  tenantInvitationRecipientLimit : Int
  tenantInvitationWindowMs : Int
  tenantInvitationResendCooldownMs : Int
  invitationTTLMs : Int
  limit_pos : 0 < tenantInvitationLimit
  inviterLimit_pos : 0 < tenantInvitationInviterLimit
  recipientLimit_pos : 0 < tenantInvitationRecipientLimit
  window_pos : 0 < tenantInvitationWindowMs
  cooldown_pos : 0 < tenantInvitationResendCooldownMs
  ttl_pos : 0 < invitationTTLMs

/-- Two invitations a tenant and a minute to wait. -/
def sampleConfig : InvitationConfig where
  tenantInvitationLimit := 2
  tenantInvitationInviterLimit := 2
  tenantInvitationRecipientLimit := 1
  tenantInvitationWindowMs := 3600000
  tenantInvitationResendCooldownMs := 60000
  invitationTTLMs := 86400000
  limit_pos := by decide
  inviterLimit_pos := by decide
  recipientLimit_pos := by decide
  window_pos := by decide
  cooldown_pos := by decide
  ttl_pos := by decide

def InvitationConfig.invitationLimits (cfg : InvitationConfig) (now : Int) : InvitationLimits where
  maxPerTenant := cfg.tenantInvitationLimit
  windowStartMs := now - cfg.tenantInvitationWindowMs
  resendCooldownStartMs := now - cfg.tenantInvitationResendCooldownMs
  maxPerInviter := cfg.tenantInvitationInviterLimit
  maxPerRecipient := cfg.tenantInvitationRecipientLimit

section Store
variable (tx : Nat)

/-- The deferred rollback of a create that returns before it commits. -/
def abandon (err : Err) : DbCall (Except Err Nat) := do
  run (.rollback tx)
  return .error err

/-- Refuse a create past a cap. -/
def refusePast (scope : Scope) (startMs cap : Int) (refusal : Sentinel) : DbCall (Except Err Unit) := do
  let made ← run (.count tx scope startMs)
  if cap ≤ made then return .error (.sentinel refusal) else return .ok ()

def checkCooldown (inv : TenantInvitation) (limits : InvitationLimits) : DbCall (Except Err Unit) := do
  if limits.resendCooldownStartMs > 0 then
    let recent ← run (.sentSince tx (.recipient inv.tenantID (foldEmail inv.email)) limits.resendCooldownStartMs)
    if recent then return .error (.sentinel .invitationResendTooSoon) else return .ok ()
  else return .ok ()

def checkTenant (inv : TenantInvitation) (limits : InvitationLimits) : DbCall (Except Err Unit) :=
  refusePast tx (.tenant inv.tenantID) limits.windowStartMs limits.maxPerTenant .invitationLimited

def checkInviter (inv : TenantInvitation) (limits : InvitationLimits) : DbCall (Except Err Unit) := do
  if limits.maxPerInviter > 0 ∧ inv.invitedBy ≠ "" then
    refusePast tx (.inviter inv.invitedBy) limits.windowStartMs limits.maxPerInviter .inviterLimited
  else return .ok ()

def checkRecipient (inv : TenantInvitation) (limits : InvitationLimits) : DbCall (Except Err Unit) := do
  if limits.maxPerRecipient > 0 then
    refusePast tx (.recipient inv.tenantID (foldEmail inv.email)) limits.windowStartMs limits.maxPerRecipient
      .invitationRecipientLimited
  else return .ok ()

/-- The locks, tenant first. -/
def lockCreate (inv : TenantInvitation) : DbCall Unit := do
  run (.lockXact tx (.tenant inv.tenantID))
  if inv.invitedBy ≠ "" then run (.lockXact tx (.inviter inv.invitedBy)) else return ()

/-- Revoke the open invitation of the address and insert the new one. -/
def replaceInvitation (inv : TenantInvitation) : DbCall (Except Err Nat) := do
  run (.revokePending tx inv.tenantID (foldEmail inv.email))
  let id ← run (.insert tx { inv with status := .pending, acceptedAtMs := 0 })
  run (.commit tx)
  return .ok id

def createLocked (inv : TenantInvitation) (limits : InvitationLimits) : DbCall (Except Err Nat) := do
  lockCreate tx inv
  match ← checkCooldown tx inv limits with
  | .error err => abandon tx err
  | .ok () =>
    match ← checkTenant tx inv limits with
    | .error err => abandon tx err
    | .ok () =>
      match ← checkInviter tx inv limits with
      | .error err => abandon tx err
      | .ok () =>
        match ← checkRecipient tx inv limits with
        | .error err => abandon tx err
        | .ok () => replaceInvitation tx inv

def createInvitation (inv : TenantInvitation) (limits : InvitationLimits) : DbCall (Except Err Nat) := do
  if limits.maxPerTenant ≤ 0 then return .error (.wrapped .invalidArgument "max_per_tenant must be positive")
  else if inv.tenantID = "" then return .error (.wrapped .invalidArgument "project_id and tenant_id are required")
  else if inv.email = "" then return .error (.wrapped .invalidArgument "email is required")
  else if inv.tokenHash = "" then return .error (.wrapped .invalidArgument "token_hash is required")
  else if inv.expiresAtMs = 0 then return .error (.wrapped .invalidArgument "expires_at_ms is required")
  else
    let now ← run .now
    createLocked tx { inv with createdAtMs := if inv.createdAtMs = 0 then now else inv.createdAtMs } limits

end Store

def normalizeInvitationEmail (toASCII : emailaddr.ToASCII) (emailAddr : String) : Except Err String :=
  let (e, usable) := emailaddr.mailbox toASCII emailAddr
  if e = "" then .error (.wrapped .invalidArgument "missing email")
  else if usable = false then .error (.wrapped .invalidArgument ("invalid email \"" ++ emailAddr ++ "\""))
  else .ok e

def normalizeInvitationRole (role : String) : Except Err Role :=
  match strings.trimSpace (strings.toLower role) with
  | "" => .ok .member
  | "member" => .ok .member
  | "admin" => .ok .admin
  | "owner" => .ok .owner
  | _ => .error (.wrapped .invalidArgument ("role \"" ++ role ++ "\" (want \"member\", \"admin\" or \"owner\")"))

/-- A call of `CreateTenantInvitation`. -/
structure CreateTask where
  callerID : String
  tenantID : String
  emailAddr : String
  role : String

/-- What the service asks of its stores, its clock and its random source. -/
structure InvitationPort {Req : Type} (Resp : Req → Type) where
  requireTenantAdmin : String → String → Call Resp (Except Err Unit)
  randomToken : Call Resp String
  now : Call Resp Int
  createInvitation : TenantInvitation → InvitationLimits → Call Resp (Except Err Nat)

/-- The invitation is mailed, or its token handed to the caller, after this. -/
def createTenantInvitation {Req : Type} {Resp : Req → Type} (port : InvitationPort Resp) (cfg : InvitationConfig)
    (toASCII : emailaddr.ToASCII) (task : CreateTask) : Call Resp (Except Err Nat) := do
  if task.callerID = "" then return .error (.sentinel .unauthenticated)
  else if strings.trimSpace task.tenantID = "" then return .error (.wrapped .invalidArgument "missing tenant_id")
  else
    match normalizeInvitationEmail toASCII task.emailAddr with
    | .error err => return .error err
    | .ok email =>
      match normalizeInvitationRole task.role with
      | .error err => return .error err
      | .ok role =>
        match ← port.requireTenantAdmin (strings.trimSpace task.tenantID) task.callerID with
        | .error err => return .error err
        | .ok () =>
          let tokenHash ← port.randomToken
          let now ← port.now
          port.createInvitation
            { tenantID := strings.trimSpace task.tenantID, tokenHash, email, invitedBy := task.callerID, role,
              expiresAtMs := now + cfg.invitationTTLMs, createdAtMs := now }
            (cfg.invitationLimits now)

/-- The stores, statement by statement. -/
def statementPort (tx : Nat) : InvitationPort Statement.Response where
  requireTenantAdmin tenantID callerID := run (.requireTenantAdmin tenantID callerID)
  randomToken := run .randomToken
  now := run .now
  createInvitation := createInvitation tx

abbrev InvitationPool := Pool Statement.Response InvitationDb (Except Err Nat)

/-- The calls of a run, each with a transaction of its own. -/
def invitationPool (cfg : InvitationConfig) (toASCII : emailaddr.ToASCII) (rows : GoMap Nat TenantInvitation)
    (nextID : Nat)
    (tasks : List CreateTask) : InvitationPool :=
  Pool.start ⟨.idle rows, (∅ : GoMap CreateLock Nat), nextID⟩
    (tasks.zipIdx.map fun item => createTenantInvitation (statementPort item.2) cfg toASCII item.1)

/-- A step waits for the locks it needs, and the clock reads more than the cooldown. -/
def Waits (cfg : InvitationConfig) (pool : InvitationPool) (_ : Nat) (tick : Tick) (statement : Statement) : Prop :=
  statement.ready pool.store = true ∧ cfg.tenantInvitationResendCooldownMs < tick.nowMs

instance (cfg : InvitationConfig) (pool : InvitationPool) (caller : Nat) (tick : Tick) (statement : Statement) :
    Decidable (Waits cfg pool caller tick statement) :=
  inferInstanceAs (Decidable (_ ∧ _))

/-! What a create has found when it inserts its invitation. -/

variable {now : Int}

def Statement.ends : Statement → Bool
  | commit _ => true
  | rollback _ => true
  | _ => false

def Statement.writes : Statement → Bool
  | revokePending _ _ _ => true
  | insert _ _ => true
  | _ => false

def Statement.inserts : Statement → Bool
  | insert _ _ => true
  | _ => false

/-- The lock under which the invitations of a scope are counted. -/
def Scope.lock : Scope → CreateLock
  | tenant tenantID => .tenant tenantID
  | inviter userID => .inviter userID
  | recipient tenantID _ => .tenant tenantID

def InvitationConfig.cap (cfg : InvitationConfig) : Scope → Int
  | .tenant _ => cfg.tenantInvitationLimit
  | .inviter _ => cfg.tenantInvitationInviterLimit
  | .recipient _ _ => cfg.tenantInvitationRecipientLimit

section Readings
variable (i : Nat) (own : DbTrace)

/-- The transaction has not ended. -/
@[grind =]
def Open : Prop := ∀ event ∈ own, event.req.ends = false

def Unwritten : Prop := ∀ event ∈ own, event.req.writes = false

def Uninserted : Prop := ∀ event ∈ own, event.req.inserts = false

@[grind =]
def Under (lock : CreateLock) : Prop := ⟨i, .lockXact i lock, ()⟩ ∈ own

@[grind =]
def CountedBelow (scope : Scope) (startMs cap : Int) : Prop :=
  ∃ made : Nat, ⟨i, .count i scope startMs, made⟩ ∈ own ∧ (made : Int) < cap

@[grind =]
def Revoked (inv : TenantInvitation) : Prop := ⟨i, .revokePending i inv.tenantID (foldEmail inv.email), ()⟩ ∈ own

/-- The create may insert the invitation: the locks are held and every limit was met at the
    reading of its clock. -/
@[grind]
structure Cleared (cfg : InvitationConfig) (now : Int) (inv : TenantInvitation) : Prop where
  tenantLock : Under i own (.tenant inv.tenantID)
  inviterLock : Under i own (.inviter inv.invitedBy)
  read : ⟨i, .now, now⟩ ∈ own
  stamped : now ≠ 0 → inv.createdAtMs = now
  cooled : cfg.tenantInvitationResendCooldownMs < now →
    ⟨i, .sentSince i (.recipient inv.tenantID (foldEmail inv.email)) (now - cfg.tenantInvitationResendCooldownMs),
      false⟩ ∈ own
  counted : ∀ scope : Scope, scope.covers inv = true →
    CountedBelow i own scope (now - cfg.tenantInvitationWindowMs) (cfg.cap scope)

end Readings

/-- What a create asks for, given the statements it has run. -/
def Asks (cfg : InvitationConfig) (i : Nat) (own : DbTrace) : Statement → Prop
  | .requireTenantAdmin _ _ => True
  | .now => True
  | .randomToken => True
  | .lockXact tx _ => tx = i
  | .sentSince tx scope _ => tx = i ∧ Unwritten own ∧ Under i own scope.lock
  | .count tx scope _ => tx = i ∧ Unwritten own ∧ Under i own scope.lock
  | .revokePending tx tenantID _ => tx = i ∧ Unwritten own ∧ Under i own (.tenant tenantID)
  | .insert tx inv =>
    tx = i ∧ inv.status = .pending ∧ Uninserted own ∧ Revoked i own inv ∧ ∃ now, Cleared i own cfg now inv
  | .commit tx => tx = i
  | .rollback tx => tx = i

@[grind =]
def Proceeds (cfg : InvitationConfig) (i : Nat) (own : DbTrace) (statement : Statement) : Prop :=
  Open own ∧ Asks cfg i own statement

variable {cfg : InvitationConfig} {i : Nat} {own own' : DbTrace} {statement : Statement} {resp : statement.Response}
  {scope : Scope} {inv : TenantInvitation}

lemma Open.cons (hopen : Open own) (hgoes : statement.ends = false) : Open (⟨i, statement, resp⟩ :: own) :=
  List.forall_mem_cons.mpr ⟨hgoes, hopen⟩

lemma Unwritten.cons (hunwritten : Unwritten own)
    (hreads : statement.writes = false) : Unwritten (⟨i, statement, resp⟩ :: own) :=
  List.forall_mem_cons.mpr ⟨hreads, hunwritten⟩

/-- The call has gone on without a write. -/
@[grind]
structure Went (own own' : DbTrace) : Prop where
  before : own <:+ own'
  goes : Open own'
  unwritten : Unwritten own'

lemma Went.refl (hopen : Open own) (hunwritten : Unwritten own) : Went own own :=
  ⟨List.suffix_refl own, hopen, hunwritten⟩

lemma Went.cons {start : DbTrace} (hwent : Went start own) (hgoes : statement.ends = false) (hreads :
    statement.writes = false) :
    Went start (⟨i, statement, resp⟩ :: own) :=
  ⟨hwent.before.later, hwent.goes.cons hgoes, hwent.unwritten.cons hreads⟩

lemma Went.trans {first : DbTrace} (hfirst : Went first own) (hsecond : Went own own') :
    Went first own' :=
  ⟨hfirst.before.trans hsecond.before, hsecond.goes, hsecond.unwritten⟩

lemma CountedBelow.later {startMs cap : Int} (hcounted : CountedBelow i own scope startMs cap)
    (hwent : Went own own') : CountedBelow i own' scope startMs cap := by
  obtain ⟨made, hmem, hbelow⟩ := hcounted
  exact ⟨made, hwent.before.mem hmem, hbelow⟩

lemma abandon_keeps (hopen : Open own) (err : Err) : (abandon i err).Asks i (Proceeds cfg i) own :=
  ⟨⟨hopen, rfl⟩, fun _ => trivial⟩

lemma refusePast_keeps (scope : Scope) (startMs cap : Int) (refusal : Sentinel) (hopen : Open own)
    (hunwritten : Unwritten own) (hunder : Under i own scope.lock) :
    (refusePast i scope startMs cap refusal).Keeps i (Proceeds cfg i)
      (fun own' result => Went own own' ∧ (result = .ok () → CountedBelow i own' scope startMs cap)) own := by
  refine .ask ⟨hopen, rfl, hunwritten, hunder⟩ fun made => ?_
  have hwent : Went own (⟨i, .count i scope startMs, made⟩ :: own) := (Went.refl hopen hunwritten).cons rfl rfl
  split
  · exact ⟨hwent, by simp⟩
  · rename_i hbelow
    exact ⟨hwent, fun _ => ⟨made, .head _, Int.not_le.mp hbelow⟩⟩

lemma lockCreate_keeps (inv : TenantInvitation) (hinvited : inv.invitedBy ≠ "") (hopen : Open own)
    (hunwritten : Unwritten own) : (lockCreate i inv).Keeps i (Proceeds cfg i)
      (fun own' _ => Went own own' ∧ Under i own' (.tenant inv.tenantID) ∧ Under i own' (.inviter inv.invitedBy))
        own := by
  refine .ask ⟨hopen, rfl⟩ fun _ => ?_
  rw [if_pos hinvited]
  have hwent : Went own (⟨i, .lockXact i (.tenant inv.tenantID), ()⟩ :: own) :=
    (Went.refl hopen hunwritten).cons rfl rfl
  exact ⟨⟨hwent.goes, rfl⟩, fun _ => ⟨hwent.cons rfl rfl, .tail _ List.mem_cons_self, .head _⟩⟩

lemma checkCooldown_keeps (inv : TenantInvitation) (limits : InvitationLimits) (hopen : Open own)
    (hunwritten : Unwritten own) (hunder : Under i own (.tenant inv.tenantID)) :
    (checkCooldown i inv limits).Keeps i (Proceeds cfg i)
      (fun own' result => Went own own' ∧ (result = .ok () → 0 < limits.resendCooldownStartMs →
        ⟨i, .sentSince i (.recipient inv.tenantID (foldEmail inv.email)) limits.resendCooldownStartMs, false⟩ ∈ own'))
          own := by
  unfold checkCooldown
  split
  · refine .ask ⟨hopen, rfl, hunwritten, hunder⟩ fun recent => ?_
    have hwent : Went own
      (⟨i, .sentSince i (.recipient inv.tenantID (foldEmail inv.email)) limits.resendCooldownStartMs, recent⟩ ::
        own) := (Went.refl hopen hunwritten).cons rfl rfl
    cases recent with
    | true => exact ⟨hwent, by simp⟩
    | false => exact ⟨hwent, fun _ _ => .head _⟩
  · rename_i hnone
    exact ⟨Went.refl hopen hunwritten, fun _ hstart => absurd hstart hnone⟩

/-- The scopes of an invitation are its tenant, its inviter and its recipient. -/
lemma covers_cases (hcovers : scope.covers inv = true) :
    scope = .tenant inv.tenantID ∨ scope = .inviter inv.invitedBy ∨
      scope = .recipient inv.tenantID (foldEmail inv.email) := by
  cases scope with
  | tenant tenantID => exact .inl (congrArg Scope.tenant (beq_iff_eq.mp hcovers).symm)
  | inviter userID => exact .inr (.inl (congrArg Scope.inviter (beq_iff_eq.mp hcovers).symm))
  | recipient tenantID key =>
    obtain ⟨htenant, hkey⟩ := Bool.and_eq_true_iff.mp hcovers
    grind

lemma replaceInvitation_keeps (hopen : Open own) (hunwritten : Unwritten own)
    (hcleared : Cleared i own cfg now { inv with status := .pending, acceptedAtMs := 0 }) :
    (replaceInvitation i inv).Asks i (Proceeds cfg i) own := by
  refine .ask ⟨hopen, rfl, hunwritten, hcleared.tenantLock⟩ fun _ => ?_
  have hnext : Open (⟨i, .revokePending i inv.tenantID (foldEmail inv.email), ()⟩ :: own) := hopen.cons rfl
  refine .ask ⟨hnext, rfl, rfl, fun event hevent => ?_, .head _, now, ?_⟩ fun id => ?_
  · rcases List.mem_cons.mp hevent with rfl | hold
    · rfl
    have hwrites := hunwritten event hold
    cases hreq : event.req with
    | insert tx inserted =>
      rw [hreq] at hwrites
      cases hwrites
    | _ => rfl
  · grind
  · exact ⟨⟨hnext.cons rfl, rfl⟩, fun _ => trivial⟩

lemma createLocked_keeps (hinvited : inv.invitedBy ≠ "") (hopen : Open own)
    (hunwritten : Unwritten own) (hread : ⟨i, .now, now⟩ ∈ own) (hstamped : now ≠ 0 → inv.createdAtMs = now) :
    (createLocked i inv (cfg.invitationLimits now)).Asks i (Proceeds cfg i) own := by
  refine .bind ((lockCreate_keeps inv hinvited hopen hunwritten).mono fun own1 _ hlocked => ?_)
  obtain ⟨hwent1, htenant, hinviter⟩ := hlocked
  refine .bind ((checkCooldown_keeps inv _ hwent1.goes hwent1.unwritten htenant).mono fun own2 cooled hcooled => ?_)
  obtain ⟨hwent2, hcool⟩ := hcooled
  cases cooled with
  | error err => exact abandon_keeps hwent2.goes err
  | ok _ =>
  refine .bind ((refusePast_keeps (.tenant inv.tenantID) _ _ _ hwent2.goes hwent2.unwritten
    (hwent2.before.mem htenant)).mono fun own3 sent hsent => ?_)
  obtain ⟨hwent3, hcount⟩ := hsent
  cases sent with
  | error err => exact abandon_keeps hwent3.goes err
  | ok _ =>
  have hsince3 := hwent2.trans hwent3
  rw [checkInviter, if_pos ⟨cfg.inviterLimit_pos, hinvited⟩]
  refine .bind ((refusePast_keeps (.inviter inv.invitedBy) _ _ _ hwent3.goes hwent3.unwritten
    (hsince3.before.mem hinviter)).mono fun own4 byInviter hby => ?_)
  obtain ⟨hwent4, hinviterCount⟩ := hby
  cases byInviter with
  | error err => exact abandon_keeps hwent4.goes err
  | ok _ =>
  have hsince4 := hsince3.trans hwent4
  rw [checkRecipient, if_pos (c := (cfg.invitationLimits now).maxPerRecipient > 0) cfg.recipientLimit_pos]
  refine .bind ((refusePast_keeps (.recipient inv.tenantID (foldEmail inv.email)) _ _ _ hwent4.goes hwent4.unwritten
    (hsince4.before.mem htenant)).mono fun own5 toRecipient hto => ?_)
  obtain ⟨hwent5, hrecipientCount⟩ := hto
  cases toRecipient with
  | error err => exact abandon_keeps hwent5.goes err
  | ok _ =>
  have hsince5 := hsince4.trans hwent5
  refine replaceInvitation_keeps hwent5.goes hwent5.unwritten
    ⟨hsince5.before.mem htenant, hsince5.before.mem hinviter, (hwent1.trans hsince5).before.mem hread,
      hstamped, fun hstart => ?_,
      fun scope hcovers => ?_⟩
  · exact ((hwent3.trans hwent4).trans hwent5).before.mem (hcool rfl (by
      show 0 < now - cfg.tenantInvitationResendCooldownMs
      omega))
  rcases covers_cases hcovers with rfl | rfl | rfl
  · exact (hcount rfl).later (hwent4.trans hwent5)
  · exact (hinviterCount rfl).later hwent5
  · exact hrecipientCount rfl

lemma createInvitation_keeps (hinvited : inv.invitedBy ≠ "") (hopen : Open own)
    (hunwritten : Unwritten own) (hread : ⟨i, .now, now⟩ ∈ own) (hstamped : inv.createdAtMs = now) :
    (createInvitation i inv (cfg.invitationLimits now)).Asks i (Proceeds cfg i) own := by
  unfold createInvitation
  split
  · trivial
  split
  · trivial
  split
  · trivial
  split
  · trivial
  split
  · trivial
  refine .ask ⟨hopen, trivial⟩ fun reading => ?_
  refine createLocked_keeps hinvited (hopen.cons rfl) (hunwritten.cons rfl) (.tail _ hread) fun hnow => ?_
  rw [hstamped, if_neg hnow]

lemma createTenantInvitation_keeps (toASCII : emailaddr.ToASCII) (task : CreateTask) :
    (createTenantInvitation (statementPort i) cfg toASCII task).Asks i (Proceeds cfg i) [] := by
  have hopen : Open [] := fun _ hevent => nomatch hevent
  have hunwritten : Unwritten [] := fun _ hevent => nomatch hevent
  unfold createTenantInvitation
  split
  · trivial
  rename_i hcaller
  split
  · trivial
  split
  · trivial
  split
  · trivial
  refine .ask ⟨hopen, trivial⟩ fun admin => ?_
  cases admin with
  | error err => trivial
  | ok _ =>
    refine .ask ⟨hopen.cons rfl, trivial⟩ fun tokenHash => ?_
    refine .ask ⟨(hopen.cons rfl).cons rfl, trivial⟩ fun now => ?_
    exact createInvitation_keeps hcaller (((hopen.cons rfl).cons rfl).cons rfl)
      (((hunwritten.cons rfl).cons rfl).cons rfl)
      List.mem_cons_self rfl

lemma invitationPool_keep (cfg : InvitationConfig) (toASCII : emailaddr.ToASCII) (rows : GoMap Nat TenantInvitation)
    (nextID : Nat) (tasks : List CreateTask) :
    (invitationPool cfg toASCII rows nextID tasks).Keep (Proceeds cfg) (fun _ _ _ => True) := by
  intro i call hcall
  rw [invitationPool, Pool.start, List.getElem?_map, Option.map_eq_some_iff] at hcall
  obtain ⟨⟨task, index⟩, hitem, rfl⟩ := hcall
  rw [List.getElem?_zipIdx, Option.map_eq_some_iff] at hitem
  obtain ⟨found, -, hpair⟩ := hitem
  cases hpair
  rw [Nat.zero_add]
  exact createTenantInvitation_keeps toASCII task

end identity.invitations
