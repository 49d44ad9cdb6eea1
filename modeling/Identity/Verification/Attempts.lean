import Identity.Verification.Service

/-! What the domain calls ask for, read against the steps they have taken. -/

open identity.service identity.postgres identity.invitations
namespace identity.verification

/-- The call was let in: its caller is a member of the tenant, or the tenant had no member. -/
@[grind =]
def Admitted (i : Nat) (own : CallTrace) (tenantID callerID : String) : Prop :=
  (∃ m, ⟨i, .getMembership tenantID callerID, some m⟩ ∈ own) ∨ ⟨i, .listMembershipsForTenant tenantID, []⟩ ∈ own

/-- The attempt that a call makes counts from the clock that it has read. -/
def FromClock (cfg : DomainConfig) (i : Nat) (own : CallTrace) (a : DomainAttempt) : Prop :=
  ∃ now, ⟨i, .now, now⟩ ∈ own ∧ a.atMs = now ∧ a.maxPerWindow = cfg.tenantDomainAttemptsLimit ∧
    a.windowStartMs = now - cfg.tenantDomainAttemptsWindowMs

/-- The person who verifies. -/
def DomainTask.verifier : DomainTask → Option String
  | verify callerID _ => some callerID
  | create _ _ _ _ => none
  | suspendTenant _ => none

def MayAsk (cfg : DomainConfig) (task : DomainTask) (i : Nat) (own : CallTrace) : Request → Prop
  | .recordDomainAttempt a => FromClock cfg i own a
  | .grantMembership tenantID userID _ _ => task.verifier = some userID ∧ Admitted i own tenantID userID
  | _ => True

/-- The call keeps to what it may ask for. -/
abbrev Asks (cfg : DomainConfig) (task : DomainTask) (i : Nat) {α : Type} (call : DomainCall α)
    (post : CallTrace → α → Prop) (own : CallTrace) : Prop :=
  call.Keeps i (MayAsk cfg task i) post own

lemma Admitted.mono (hadmitted : Admitted i own tenantID callerID)
    (hsuffix : own <:+ own') : Admitted i own' tenantID callerID :=
  hadmitted.imp (fun ⟨m, hmem⟩ => ⟨m, hsuffix.mem hmem⟩) fun hmem => hsuffix.mem hmem

lemma requireGovernableTenant_asks : Asks cfg task i (requireGovernableTenant tenantID) (fun _ _ => True) own := by
  refine .ask trivial fun status => ?_
  cases status with
  | none => trivial
  | some status =>
    cases status with
    | latent | claimed | suspended => trivial

/-- An admin is a member. -/
lemma authorizeTenantAdmin_asks : Asks cfg task i (authorizeTenantAdmin tenantID callerID)
      (fun own' result => result = .ok () → Admitted i own' tenantID callerID) own := by
  refine .ask trivial fun found => ?_
  cases found with
  | none => exact fun hok => by cases hok
  | some m =>
    show (if m.governs = true then _ else _ : DomainCall (Except Err Unit)).Keeps i _ _ _
    split
    · refine requireGovernableTenant_asks.suffix.mono fun own' result hafter _ => ?_
      exact .inl ⟨m, hafter.1.mem (.head _)⟩
    · exact fun hok => by cases hok

lemma recordAttempt_asks : Asks cfg task i (recordAttempt cfg tenantID) (fun _ _ => True) own :=
  ⟨trivial, fun now => ⟨⟨now, .head _, rfl, rfl, rfl⟩, fun _ => trivial⟩⟩

variable (d : Domain)

lemma checkDNSTXT_asks : Asks cfg task i (checkDNSTXT cfg d) (fun _ _ => True) own := by
  refine .ask trivial fun found => ?_
  cases found with
  | none => trivial
  | some records =>
    dsimp only
    split
    · trivial
    · trivial

lemma createDomain_asks (domain method : String) :
    Asks cfg task i (createDomain cfg callerID tenantID domain method) (fun _ _ => True) own := by
  unfold createDomain
  split
  · trivial
  split
  · trivial
  split
  · trivial
  split
  · trivial
  refine .bind (authorizeTenantAdmin_asks.mono fun own1 admitted _ => ?_)
  cases admitted with
  | error err => trivial
  | ok _ =>
    refine .bind (recordAttempt_asks.mono fun own2 recorded _ => ?_)
    cases recorded with
    | error err => trivial
    | ok _ => exact ⟨trivial, fun _ => trivial⟩

variable (status : TenantStatus)

lemma authorizeVerify_asks : Asks cfg task i (authorizeVerify tenantID status callerID)
      (fun own' result => result = .ok () → Admitted i own' tenantID callerID) own := by
  refine .bind (authorizeTenantAdmin_asks.mono fun own1 admitted hadmitted => ?_)
  cases admitted with
  | ok _ => exact fun _ => hadmitted rfl
  | error err =>
    dsimp only
    split
    · exact fun hok => by cases hok
    split
    · exact fun hok => by cases hok
    refine .ask trivial fun members => ?_
    cases members with
    | cons m rest => exact fun hok => by cases hok
    | nil => exact fun _ => .inr (.head _)

lemma failVerification_asks (err : Err) : Asks cfg task i (failVerification d err) (fun _ _ => True) own := by
  unfold failVerification
  split
  · exact ⟨trivial, fun _ => trivial⟩
  · trivial

lemma makeOwner_asks (domainID : String) (hverifier : task.verifier = some callerID)
    (hadmitted : Admitted i own tenantID callerID) :
    Asks cfg task i (makeOwner tenantID callerID domainID) (fun _ _ => True) own := by
  refine .ask ⟨hverifier, hadmitted⟩ fun granted => ?_
  cases granted with
  | ok m => exact ⟨trivial, fun _ => trivial⟩
  | error err =>
    dsimp only
    split
    · trivial
    · exact ⟨trivial, fun _ => trivial⟩

lemma claimTenant_asks (hverifier : task.verifier = some callerID) (hadmitted : Admitted i own d.tenantID callerID) :
    Asks cfg task i (claimTenant d status callerID) (fun _ _ => True) own := by
  unfold claimTenant
  split
  · refine .ask trivial fun moved => ?_
    cases moved with
    | error err => trivial
    | ok moved => exact makeOwner_asks d.id hverifier (hadmitted.mono (List.suffix_cons _ _))
  · exact makeOwner_asks d.id hverifier hadmitted

lemma markVerified_asks (hverifier : task.verifier = some callerID) (hadmitted : Admitted i own d.tenantID callerID) :
    Asks cfg task i (markVerified d status callerID) (fun _ _ => True) own := by
  refine .ask trivial fun marked => ?_
  cases marked with
  | ok _ => exact claimTenant_asks d status hverifier (hadmitted.mono (List.suffix_cons _ _))
  | error err =>
    dsimp only
    split
    · trivial
    · trivial

lemma checkAndClaim_asks (hverifier : task.verifier = some callerID) (hadmitted : Admitted i own d.tenantID callerID) :
    Asks cfg task i (checkAndClaim cfg d status callerID) (fun _ _ => True) own := by
  unfold checkAndClaim
  split
  · trivial
  refine .bind (recordAttempt_asks.suffix.mono fun own1 recorded hsince1 => ?_)
  cases recorded with
  | error err => trivial
  | ok _ =>
    refine .bind ((checkDNSTXT_asks d).suffix.mono fun own2 checked hsince2 => ?_)
    grind [failVerification_asks, markVerified_asks]

lemma verifyDomain_asks (domainID : String) (hverifier : task.verifier = some callerID) :
    Asks cfg task i (verifyDomain cfg callerID domainID) (fun _ _ => True) own := by
  unfold verifyDomain
  split
  · trivial
  split
  · trivial
  refine .ask trivial fun found => ?_
  cases found with
  | none => trivial
  | some d =>
    refine .ask trivial fun tenant => ?_
    cases tenant with
    | none => trivial
    | some status =>
      refine .bind ((authorizeVerify_asks status).mono fun own' authorized hadmitted => ?_)
      cases authorized with
      | error err => trivial
      | ok _ => exact checkAndClaim_asks d status hverifier (hadmitted rfl)

lemma adminSuspendTenant_asks : Asks cfg task i (adminSuspendTenant tenantID) (fun _ _ => True) own := by
  refine .ask trivial fun found => ?_
  cases found with
  | none => trivial
  | some status =>
    cases status with
    | suspended | latent => trivial
    | claimed =>
      refine .ask trivial fun moved => ?_
      cases moved with
      | error err => trivial
      | ok moved =>
        refine .ask trivial fun now => ?_
        cases now with
        | none => trivial
        | some status =>
          dsimp only
          split
          · trivial
          · trivial

lemma DomainTask.program_asks (cfg : DomainConfig) (task : DomainTask) :
    Asks cfg task i (task.program cfg) (fun _ _ => True) own := by
  cases task with
  | create callerID tenantID domain method =>
    show Asks cfg _ i (createDomain cfg callerID tenantID domain method) _ own
    exact createDomain_asks domain method
  | verify callerID domainID =>
    exact verifyDomain_asks domainID rfl
  | suspendTenant tenantID =>
    exact adminSuspendTenant_asks

lemma domainPool_keep (cfg : DomainConfig) (rows : ProjectRows) (tasks : List DomainTask) :
    (domainPool cfg rows tasks).Keep (fun i own r => ∃ task, tasks[i]? = some task ∧ MayAsk cfg task i own r)
      (fun i _ _ => ∃ task, tasks[i]? = some task ∧ True) :=
  Pool.keep_start (fun task _ => task.program_asks cfg) rows.db

/-! The attempts that a tenant makes on its domains, and the cap on them. -/

/-- The attempts of a tenant in the interval of a window's length from a time on. -/
def attemptsIn (cfg : DomainConfig) (tenantID : String) (lo : Int) (rows : List AttemptRow) : Nat :=
  rows.countP fun row => row.tenantID == tenantID && decide (lo ≤ row.attemptedAtMs) &&
    decide (row.attemptedAtMs ≤ lo + cfg.tenantDomainAttemptsWindowMs)

/-- No interval of a window's length has more attempts of a tenant than the cap. -/
def WithinCap (cfg : DomainConfig) (rows : List AttemptRow) : Prop :=
  ∀ tenantID lo, (attemptsIn cfg tenantID lo rows : Int) ≤ cfg.tenantDomainAttemptsLimit

/-- The attempts of a tenant at or after a time. -/
def attemptsFrom (tenantID : String) (startMs : Int) (rows : List AttemptRow) : Nat :=
  rows.countP fun row => row.tenantID == tenantID && decide (startMs ≤ row.attemptedAtMs)

def Request.attempt : Request → Option DomainAttempt
  | recordDomainAttempt a => some a
  | _ => none

/-- No attempt at or after the start of the window that a step counts over has been pruned. -/
def Unpruned (pool : DomainPool) (_ : Nat) (_ : Instant) (r : Request) : Prop :=
  ∀ a, r.attempt = some a →
    attemptsFrom a.tenantID a.windowStartMs pool.store.attempts =
      attemptsFrom a.tenantID a.windowStartMs pool.store.recorded

instance (pool : DomainPool) (caller : Nat) (instant : Instant) (r : Request) :
    Decidable (Unpruned pool caller instant r) :=
  inferInstanceAs (Decidable (∀ a, r.attempt = some a → _))

lemma attemptsIn_le_from (hstart : startMs ≤ lo) :
    attemptsIn cfg tenantID lo rows ≤ attemptsFrom tenantID startMs rows := by
  refine List.countP_mono_left fun row _ hin => ?_
  simp only [Bool.and_eq_true, decide_eq_true_eq] at hin ⊢
  exact ⟨hin.1.1, Int.le_trans hstart hin.1.2⟩

lemma attemptsIn_cons (row : AttemptRow) (lo : Int) :
    attemptsIn cfg tenantID lo (row :: rows) = attemptsIn cfg tenantID lo rows +
      if row.tenantID = tenantID ∧ lo ≤ row.attemptedAtMs ∧
        row.attemptedAtMs ≤ lo + cfg.tenantDomainAttemptsWindowMs then 1
      else 0 := by
  unfold attemptsIn
  rw [List.countP_cons]
  simp only [Bool.and_eq_true, beq_iff_eq, decide_eq_true_eq, and_assoc]

/-- An attempt that found fewer than the cap at or after the start of its window. -/
lemma WithinCap.cons (hcap : WithinCap cfg rows)
    (hfewer : (attemptsFrom row.tenantID startMs rows : Int) < cfg.tenantDomainAttemptsLimit)
    (hstart : startMs + cfg.tenantDomainAttemptsWindowMs ≤ row.attemptedAtMs) : WithinCap cfg (row :: rows) := by
  intro tenantID lo
  rw [attemptsIn_cons]
  split
  · rename_i hin
    obtain ⟨rfl, -, hhi⟩ := hin
    have hle : attemptsIn cfg row.tenantID lo rows ≤ attemptsFrom row.tenantID startMs rows :=
      attemptsIn_le_from (by omega)
    omega
  · exact hcap tenantID lo

namespace DomainDb

/-- What a recorded attempt did. -/
lemma recordDomainAttempt_recorded (db : DomainDb) (nowMs : Int) (a : DomainAttempt) :
    (db.recordDomainAttempt nowMs a).2.recorded = db.recorded ∨
      (attemptsFrom a.tenantID a.windowStartMs db.attempts : Int) < a.maxPerWindow ∧
        (db.recordDomainAttempt nowMs a).2.recorded =
          ⟨a.tenantID, if a.atMs = 0 then nowMs else a.atMs⟩ :: db.recorded := by
  unfold recordDomainAttempt
  split
  · exact .inl rfl
  split
  · exact .inl rfl
  dsimp only
  split
  · exact .inl rfl
  · rename_i hfewer
    exact .inr ⟨Int.not_le.mp hfewer, rfl⟩

lemma recorded_serve (instant : Instant) (hother : ∀ a, r ≠ .recordDomainAttempt a) :
    (serve r instant db).2.recorded = db.recorded := by
  cases r with
  | recordDomainAttempt a => exact absurd rfl (hother a)
  | setDomainStatus domainID status verifiedAtMs => exact (db.alike_setDomainStatus _ domainID status verifiedAtMs).2.2
  | setTenantStatus tenantID from' to' => exact (db.alike_setTenantStatus tenantID from' to').2.2
  | createDomain d => exact (db.alike_createDomain _ d).2.2
  | grantMembership tenantID userID source role =>
    unfold serve
    dsimp only
    split
    · rfl
    · rfl
  | _ => rfl

end DomainDb

/-- The cap holds so far, and no clock reading is ahead of the time. -/
@[grind]
structure Counted (cfg : DomainConfig) (time : Int) (pool : DomainPool) : Prop where
  cap : WithinCap cfg pool.store.recorded
  read : ∀ i now, ⟨i, .now, now⟩ ∈ pool.trace → now ≤ time

section Run
variable {r : Request}

lemma Counted.cap_step (hcounted : Counted cfg instant.nowMs pool)
    (hasks : MayAsk cfg task caller (Pool.own pool.trace caller) r) (hunpruned : Unpruned pool caller instant r) :
    WithinCap cfg (serve r instant pool.store).2.recorded := by
  by_cases hrecord : ∃ a, r = .recordDomainAttempt a
  · obtain ⟨a, rfl⟩ := hrecord
    obtain ⟨now, hnow, hat, hlimit, hstart⟩ := hasks
    have hread : now ≤ instant.nowMs := hcounted.read caller now (Pool.mem_trace hnow)
    rcases pool.store.recordDomainAttempt_recorded instant.nowMs a with hsame | ⟨hfewer, hcons⟩
    · exact hsame ▸ hcounted.cap
    rw [hunpruned a rfl, hlimit] at hfewer
    refine hcons ▸ hcounted.cap.cons hfewer ?_
    dsimp only
    split <;> omega
  · rw [DomainDb.recorded_serve instant fun a ha => hrecord ⟨a, ha⟩]
    exact hcounted.cap

lemma Counted.step (hcounted : Counted cfg instant.nowMs pool) (hcall : pool.Awaits caller r next)
    (hasks : MayAsk cfg task caller (Pool.own pool.trace caller) r) (hunpruned : Unpruned pool caller instant r) :
    Counted cfg instant.nowMs (pool.step serve caller instant) := by
  rw [Pool.step_request hcall]
  refine ⟨hcounted.cap_step hasks hunpruned, fun i now hnow => ?_⟩
  rcases List.mem_cons.mp hnow with heq | hold
  · injection heq with _ hr hresp
    subst hr
    exact Int.le_of_eq (eq_of_heq hresp)
  · exact hcounted.read i now hold

end Run

/-- The cap holds in every interval of a window's length, as long as every attempt that is
    counted still finds the earlier ones of its window in the table. The clock may not go
    back; how the calls overlap, and how many tenants and domains they name, is left open. -/
theorem domain_attempts_within_cap (cfg : DomainConfig) (rows : ProjectRows) (tasks : List DomainTask)
    (schedule : List (Nat × Instant)) (hstart : WithinCap cfg rows.attempts)
    (hclock : schedule.Pairwise fun turn later => turn.2.nowMs ≤ later.2.nowMs)
    (hunpruned : Pool.Along serve Unpruned (domainPool cfg rows tasks) schedule) :
    WithinCap cfg ((domainPool cfg rows tasks).run serve schedule).store.recorded := by
  obtain ⟨time, hcounted⟩ := Pool.along_clocked_start (fun instant : Instant => instant.nowMs) (Counted cfg)
    (fun time time' pool hcounted hle => ⟨hcounted.cap, fun i now hnow => Int.le_trans (hcounted.read i now hnow) hle⟩)
    (fun pool caller instant r next hcounted hcall _ hguard hcond => by
      obtain ⟨task, -, hasks⟩ := hguard
      exact hcounted.step hcall hasks hcond)
    (domainPool_keep cfg rows tasks)
    (fun time => ⟨hstart, fun i now hnow => nomatch hnow⟩) schedule hunpruned hclock
  exact hcounted.cap

/-- The digest of the challenge of tenant t of project p for b.example. -/
def sampleDigest (raw : String) : String :=
  if raw = "1:p:1:t:b.example" then "33b78b383f577c6e3a3be50bf2e9d0d7c35a377259f05ec36a4df712af7c1dff" else ""

lemma sampleLimit_pos : (0 : Int) < 2 := by decide

lemma sampleWindow_pos : (0 : Int) < 1000 := by decide

/-- Two attempts a second. -/
def sampleConfig : DomainConfig where
  projectID := "p"
  sha256Hex := sampleDigest
  tenantDomainAttemptsLimit := 2
  tenantDomainAttemptsWindowMs := 1000
  limit_pos := sampleLimit_pos
  window_pos := sampleWindow_pos

/-- A claimed tenant with its owner. -/
def sampleRows : ProjectRows where
  domains := ∅
  tenants := AList.insert "t" .claimed ∅
  members tenantID := if tenantID = "t" then AList.insert "x" ⟨1, "x", .created, .owner, .active⟩ ∅ else ∅
  removals _ := ∅
  nextID _ := 2
  attempts := []
  named := by decide

def sampleTasks : List DomainTask :=
  [.create "x" "t" "a.example" "", .create "x" "t" "b.example" "", .create "x" "t" "c.example" "",
    .create "x" "t" "d.example" ""]

/-- Calls that take so many steps each at a time, and register under their own ids. -/
def sampleAttempts (turns : List (Nat × Nat × Int)) : List (Nat × Instant) :=
  turns.flatMap fun (caller, steps, nowMs) => List.replicate steps (caller, { nowMs, newID := toString caller })

/-- The second attempt prunes the first, which has left its window; the third of the new
    window is refused. -/
def sampleWaiting : List (Nat × Instant) :=
  sampleAttempts [(0, 5, 9100), (1, 5, 10150), (2, 5, 10200), (3, 4, 10300)]

theorem third_attempt_waits :
    WithinCap sampleConfig ((domainPool sampleConfig sampleRows sampleTasks).run serve sampleWaiting).store.recorded :=
  domain_attempts_within_cap sampleConfig sampleRows sampleTasks sampleWaiting
    (fun _ _ => Int.le_of_lt sampleConfig.limit_pos) (by decide) (by decide +kernel)

/-- The third call reads the clock at 10000 and stalls; the fourth records its attempt at 10300
    and prunes what is older than 9300. The third, whose window starts at 9000, then counts one
    attempt where there were three. -/
theorem late_attempt_past_the_cap :
    let turns := sampleAttempts [(0, 5, 9100), (1, 5, 9200), (2, 3, 10000), (3, 5, 10300), (2, 1, 10300)]
    (turns.Pairwise fun turn later => turn.2.nowMs ≤ later.2.nowMs) ∧
    ((domainPool sampleConfig sampleRows sampleTasks).run serve turns).store.recorded =
      [⟨"t", 10000⟩, ⟨"t", 10300⟩, ⟨"t", 9200⟩, ⟨"t", 9100⟩] ∧
    attemptsIn sampleConfig "t" 9100 [⟨"t", 10000⟩, ⟨"t", 10300⟩, ⟨"t", 9200⟩, ⟨"t", 9100⟩] = 3 := by
  decide +kernel

end identity.verification
