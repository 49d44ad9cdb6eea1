import Identity.Flows.SignIn.Lockout
import Identity.Repository.Delegation

open identity.repository identity.memory
namespace identity.service
open GoMap

abbrev LoginPool := Pool Request.Response Repo (Except Err LoginResult)

/-- The step that locks an account until a time. -/
def lockStored (caller : Nat) (userID : String) (t : Int) : StoreEvent :=
  ⟨caller, .user (.setUserLockedUntil userID t), .ok ()⟩

/-- The account is locked until a time or longer. -/
def Locked (userID : String) (t : Int) (r : Repo) : Prop := ∃ u, r.users.lookup userID = some u ∧ t ≤ u.lockedUntil

def clearsLock (userID : String) (event : StoreEvent) : Bool :=
  match event.req with
  | .user (.resetFailedLoginCount id) => id == userID
  | _ => false

/-- The call has held a password against a hash. -/
def hasCompared (trace : Trace) (caller : Nat) : Bool :=
  (Pool.own trace caller).any fun event =>
    match event.req with
    | .compare _ _ => true
    | _ => false

/-- No call that proved the password and cleared the lockout is still to return. -/
def ClearersReturned (userID : String) (pool : LoginPool) : Prop :=
  ∀ event ∈ pool.trace, clearsLock userID event = true → hasCompared pool.trace event.caller = true →
    (pool.result event.caller).isSome = true

/-- The lockout columns are written on what was read: a call that clears a lockout it saw
    run out finds the lockout it saw, a call that locks the account does not shorten its
    lockout, and nobody starts reading between the moment a proven password clears the
    lockout and the return of that call. -/
def LockKept (userID : String) (pool : LoginPool) (caller : Nat) (_ : Tick) : Request → Prop
  | .user (.resetFailedLoginCount id) => id = userID → hasCompared pool.trace caller = false →
      ∀ seen ∈ (Pool.own pool.trace caller).getLast?.bind accountFound, ∀ u ∈ pool.store.users.lookup userID,
        u.lockedUntil = seen.lockedUntil
  | .user (.setUserLockedUntil id t) => id = userID → ∀ u ∈ pool.store.users.lookup userID, u.lockedUntil ≤ t
  | .user (.findUserByEmail _) => (Pool.own pool.trace caller).isEmpty = true → ClearersReturned userID pool
  | .user (.findUserByUsername _) => (Pool.own pool.trace caller).isEmpty = true → ClearersReturned userID pool
  | _ => True

instance (userID : String) (pool : LoginPool) : Decidable (ClearersReturned userID pool) :=
  inferInstanceAs (Decidable (∀ event ∈ pool.trace, _))

instance (userID : String) (pool : LoginPool) (caller : Nat) (tick : Tick) (q : Request) :
    Decidable (LockKept userID pool caller tick q) := by
  unfold LockKept
  split <;> infer_instance

section Run
variable {calls : List LoginInvocation} {userID : String} {locked : LoginPool}

lemma hasCompared_of_mem {password hash : String}
    (hmem : compared caller password hash ∈ trace) : hasCompared trace caller = true :=
  List.any_eq_true.mpr ⟨_, Pool.mem_own hmem, rfl⟩

lemma not_hasCompared (hnone : ∀ password hash, compared caller password hash ∉ Pool.own trace caller) :
    hasCompared trace caller = false := by
  rw [hasCompared, List.any_eq_false]
  rintro ⟨c, req, resp⟩ hmem
  cases req with
  | compare password hash =>
    obtain rfl : c = caller := (Pool.mem_of_mem_own hmem).2
    exact absurd hmem (hnone password hash)
  | _ => simp

/-- Every request of a login keeps every row's name. -/
lemma LoginGuard.keepsNames (hguard : LoginGuard i caller own q) (r : Repo) :
    r.users.Pointwise (fun u u' => u'.id = u.id) (handle p q tick r).2.users := by
  have hrefl : ∀ u : User, u.id = u.id := fun _ => rfl
  unfold LoginGuard at hguard
  split at hguard
  · exact GoMap.Pointwise.refl hrefl r.users
  · exact (resetFailedLoginCount_rewrites _ r).pointwise hrefl fun _ => rfl
  · exact (setUserLockedUntil_rewrites _ r _).pointwise hrefl fun _ => rfl
  · exact (hguard p tick r).mono fun _ _ hsame => hsame.1

/-- What holds at every moment of a run of logins. -/
structure LoginRun (userID : String) (r : Repo) (trace : Trace) : Prop where
  keyed : ∀ key u, r.users.lookup key = some u → u.id = key
  judged : ∀ c password hash, compared c password hash ∈ trace → Judged c (Pool.own trace c)
  stored : ∀ c t rest, trace = lockStored c userID t :: rest → Locked userID t r

lemma locked_of_stored (hstored : (handle p (.user (.setUserLockedUntil userID t)) tick r).1 = .ok ()) :
    Locked userID t (handle p (.user (.setUserLockedUntil userID t)) tick r).2 := by
  have hset : handle p (.user (.setUserLockedUntil userID t)) tick r = r.setUserLockedUntil userID t := rfl
  rw [hset, Repo.setUserLockedUntil, Repo.touchUser] at hstored ⊢
  cases hu : r.users.lookup userID with
  | none => rw [hu] at hstored; cases hstored
  | some u => exact ⟨{ u with lockedUntil := t }, lookup_insert_eq .. |>.trans (if_pos rfl), le_refl t⟩

lemma LoginRun.step (hrun : LoginRun userID r trace) (hguard : LoginGuard i caller (Pool.own trace caller) q) :
    LoginRun userID (handle p q tick r).2 (⟨caller, q, (handle p q tick r).1⟩ :: trace) where
  keyed := by
    intro key u hu
    obtain ⟨before, hbefore, hid⟩ := (hguard.keepsNames r).lookup_some_inv hu
    exact hid.trans (hrun.keyed key before hbefore)
  judged := by
    intro c password hash hmem
    have hsuffix : Pool.own trace c <:+ Pool.own (⟨caller, q, (handle p q tick r).1⟩ :: trace) c :=
      Pool.own_suffix (List.suffix_cons _ _) c
    rcases List.mem_cons.mp hmem with heq | hold
    · obtain ⟨rfl, rfl, -⟩ := Event.mk.inj heq
      exact Judged.mono hguard hsuffix
    · exact (hrun.judged c password hash hold).mono hsuffix
  stored := by
    intro c t rest htrace
    obtain ⟨rfl, rfl, hresp⟩ := Event.mk.inj (List.cons.inj htrace).1
    exact locked_of_stored (eq_of_heq hresp)

/-- No reading of the clock so far is past a time. -/
def ClockedBy (time : Int) (pool : LoginPool) : Prop := ∀ c now, clockRead c now ∈ pool.trace → now ≤ time

lemma ClockedBy.later (hclocked : ClockedBy time pool) (hle : time ≤ time') : ClockedBy time' pool :=
  fun c now hmem => (hclocked c now hmem).trans hle

lemma ClockedBy.step (hclocked : ClockedBy tick.now pool) (hcall : pool.Awaits caller q next) :
    ClockedBy tick.now (pool.step (handle p) caller tick) := by
  intro c now hmem
  rw [Pool.trace_step hcall rfl] at hmem
  rcases List.mem_cons.mp hmem with heq | hold
  · obtain ⟨-, rfl, hresp⟩ := Event.mk.inj heq
    have hnow : now = tick.now := eq_of_heq hresp
    exact hnow.le
  · exact hclocked c now hold

variable (calls userID locked) in
/-- Since a moment, a call that proved the password has cleared the lockout. -/
def Cleared (pool : LoginPool) : Prop :=
  ∃ d i, calls[d]? = some i ∧ locked.result d = none ∧ Proven i d pool.trace ∧
    ∃ resp, (⟨d, .user (.resetFailedLoginCount userID), resp⟩ : StoreEvent) ∈ pool.trace

lemma Cleared.step (hcleared : Cleared calls userID locked pool) :
    Cleared calls userID locked (pool.step (handle p) caller tick) := by
  obtain ⟨d, i, hi, hopen, hproven, resp, hmem⟩ := hcleared
  have hsuffix : pool.trace <:+ (pool.step (handle p) caller tick).trace := Pool.trace_step_suffix caller tick
  exact ⟨d, i, hi, hopen, hproven.mono hsuffix.subset, resp, hsuffix.subset hmem⟩

/-- Locked until `t`, the account stays locked until then or until a proven password
    clears the lockout. -/
lemma locked_step (hi : calls[caller]? = some i)
    (hguard : LoginGuard i caller (Pool.own pool.trace caller) q) (hclocked : ClockedBy tick.now pool)
    (hcall : pool.Awaits caller q next) (hkept : LockKept userID pool caller tick q)
    (hopen : pool.result caller = none → locked.result caller = none) (hlocked : Locked userID t pool.store) :
    Cleared calls userID locked (pool.step (handle p) caller tick) ∨
      Locked userID t (pool.step (handle p) caller tick).store ∨ t ≤ tick.now := by
  obtain ⟨u, hu, hle⟩ := hlocked
  rw [Pool.step_request hcall]
  unfold LoginGuard at hguard
  split at hguard
  · exact .inr (.inl ⟨u, hu, hle⟩)
  · rename_i id
    by_cases hid : id = userID
    · subst hid
      rcases hguard with hproven | ⟨hnone, seen, now, ⟨earlier, event, hown, hseen⟩, hclock, hover⟩
      · refine .inl ⟨caller, i, hi, hopen (Pool.unfinished_of_request hcall), ?_, _, .head _⟩
        exact hproven.mono fun event hmem => .tail _ (Pool.mem_trace hmem)
      -- the lockout that is cleared is the one the call saw run out
      have hsame := hkept rfl (not_hasCompared hnone) seen (by rw [hown]; simpa using hseen) u hu
      have hnow := hclocked caller now (Pool.mem_trace hclock)
      omega
    · have hother := (resetFailedLoginCount_rewrites id pool.store).lookup_ne (Ne.symm hid)
      exact .inr (.inl ⟨u, hother.trans hu, hle⟩)
  · rename_i id t'
    by_cases hid : id = userID
    · subst hid
      have hlonger := hkept rfl u hu
      obtain ⟨u', hu', hcases⟩ := (setUserLockedUntil_rewrites id pool.store t').lookup_self hu
      refine .inr (.inl ⟨u', hu', ?_⟩)
      rcases hcases with rfl | rfl
      · exact hle
      · exact hle.trans hlonger
    · have hother := (setUserLockedUntil_rewrites id pool.store t').lookup_ne (Ne.symm hid)
      exact .inr (.inl ⟨u, hother.trans hu, hle⟩)
  · obtain ⟨u', hu', -, hlock⟩ := (hguard p tick pool.store).lookup_some hu
    exact .inr (.inl ⟨u', hu', by omega⟩)

variable (calls) in
/-- Every call of the pool keeps to a login's guard. -/
abbrev KeepsLogins (pool : LoginPool) : Prop :=
  pool.Keep (fun caller own q => ∃ i, calls[caller]? = some i ∧ LoginGuard i caller own q)
    fun caller _ _ => ∃ i, calls[caller]? = some i ∧ True

lemma LoginRun.run (hrun : LoginRun userID pool.store pool.trace) (hkeep : KeepsLogins calls pool)
    (schedule : List (Nat × Tick)) :
    LoginRun userID (pool.run (handle p) schedule).store (pool.run (handle p) schedule).trace :=
  Pool.run_invariant (fun _ _ _ _ _ hrun ⟨_, _, hguard⟩ => hrun.step hguard) hkeep hrun schedule

section Clock
variable (hkept : Pool.Along (handle p) (LockKept userID) pool schedule)
  (hclock : schedule.Pairwise fun turn next => turn.2.now ≤ next.2.now) (hfrom : ∀ turn ∈ schedule, time ≤ turn.2.now)
  (hto : ∀ turn ∈ schedule, turn.2.now ≤ time') (hle : time ≤ time')

include hkept hclock hfrom hto hle

lemma ClockedBy.run (hclocked : ClockedBy time pool) (hkeep : KeepsLogins calls pool) :
    ClockedBy time' (pool.run (handle p) schedule) :=
  Pool.along_clocked Tick.now ClockedBy (fun _ _ _ h => h.later)
    (fun _ _ _ _ _ hclocked hcall _ _ _ => hclocked.step hcall) hkeep hclocked schedule hkept hclock hfrom hto hle

/-- Over a run that starts where the account is locked until `t`. -/
lemma locked_run (hkeep : KeepsLogins calls pool) (hclocked : ClockedBy time pool)
    (hlocked : Locked userID t pool.store) : Cleared calls userID pool (pool.run (handle p) schedule) ∨
      Locked userID t (pool.run (handle p) schedule).store ∨ t ≤ time' := by
  have hrun := Pool.along_clocked Tick.now (fun time pool' => ClockedBy time pool' ∧
      (∀ d, pool'.result d = none → pool.result d = none) ∧
      (Cleared calls userID pool pool' ∨ Locked userID t pool'.store ∨ t ≤ time)) ?_ ?_ hkeep
    ⟨hclocked, fun _ h => h, .inr (.inl hlocked)⟩ schedule hkept hclock hfrom hto hle
  · exact hrun.2.2
  · rintro time time' pool' ⟨hclocked, hopen, hstate⟩ hle
    exact ⟨hclocked.later hle, hopen, hstate.imp_right (Or.imp_right fun hpast => hpast.trans hle)⟩
  rintro pool' caller tick q next ⟨hclocked, hopen, hstate⟩ hcall - ⟨i, hi, hguard⟩ hkept
  refine ⟨hclocked.step hcall, fun d hnone => hopen d (Pool.unfinished_of_step hnone), ?_⟩
  rcases hstate with hcleared | hlocked | hpast
  · exact .inl hcleared.step
  · exact locked_step hi hguard hclocked hcall hkept (hopen caller) hlocked
  · exact .inr (.inr hpast)

end Clock
end Run

/-- The call's first step is about to find the account. -/
def ReadsAccount (p : Platform) (pool : LoginPool) (caller : Nat) (tick : Tick) (userID : String)
    (user : User) : Prop :=
  Pool.own pool.trace caller = [] ∧ user.id = userID ∧
    ∃ q, pool.pending caller = some q ∧ accountFound ⟨caller, q, (handle p q tick pool.store).1⟩ = some user

lemma lookup_of_accountFound (hfound : accountFound ⟨caller, q, (handle p q tick r).1⟩ = some user) :
    ∃ key, r.users.lookup key = some user := by
  cases q with
  | user q =>
    cases q with
    | findUserByEmail email =>
      have hfind : r.findUserByEmail email = some user := hfound
      unfold Repo.findUserByEmail at hfind
      split at hfind
      · cases hfind
      · exact (findRow_some hfind).1
    | findUserByUsername username =>
      have hfind : r.findUserByUsername username = some user := hfound
      unfold Repo.findUserByUsername at hfind
      split at hfind
      · cases hfind
      · exact (findRow_some hfind).1
    | _ => cases hfound
  | _ => cases hfound

lemma clearersReturned_of_accountFound
    (hfound : accountFound ⟨caller, q, resp⟩ = some user) (hfirst : Pool.own pool.trace caller = [])
    (hkept : LockKept userID pool caller tick q) : ClearersReturned userID pool := by
  have hempty : (Pool.own pool.trace caller).isEmpty = true := by rw [hfirst]; rfl
  cases q with
  | user q =>
    cases q with
    | findUserByEmail | findUserByUsername => exact hkept hempty
    | _ => cases hfound
  | _ => cases hfound

/-- A time between two stretches of a schedule. -/
lemma exists_time_between {before during later : List (Nat × Tick)}
    (hclock : (before ++ (during ++ turn :: later)).Pairwise fun turn next => turn.2.now ≤ next.2.now) :
    ∃ time, 0 ≤ time ∧ time ≤ turn.2.now ∧ (∀ earlier ∈ before, earlier.2.now ≤ time) ∧
      ∀ between ∈ during, time ≤ between.2.now := by
  obtain ⟨-, hrest, hacross⟩ := List.pairwise_append.mp hclock
  obtain ⟨hduring, -, hturn⟩ := List.pairwise_append.mp hrest
  cases during with
  | nil =>
    exact ⟨turn.2.now, turn.2.pos.le, le_refl _, fun earlier hmem => hacross earlier hmem turn (by simp), by simp⟩
  | cons first rest =>
    refine ⟨first.2.now, first.2.pos.le, hturn first (by simp) turn (by simp), fun earlier hmem => ?_, ?_⟩
    · exact hacross earlier hmem first (by simp)
    intro between hmem
    rcases List.mem_cons.mp hmem with rfl | hmem
    · exact le_refl _
    · exact (List.pairwise_cons.mp hduring).1 between hmem

/-- Any number of logins in any interleaving under a clock that does not go back: once a
    step has locked the account until `t`, a call that reads the account before `t` (and
    reads the clock before `t`) does not get to compare a password, unless a call with the
    right password has returned in between. This is where the lockout is written on what
    was read. -/
theorem lockout_bounds_guessing (p : Platform) (r : Repo) (hkeyed : ∀ key u, r.users.lookup key = some u → u.id = key)
    (calls : List LoginInvocation) (userID : String) (before during later : List (Nat × Tick)) (caller : Nat)
    (tick : Tick)
    (hclock : (before ++ (during ++ (caller, tick) :: later)).Pairwise fun turn next => turn.2.now ≤ next.2.now)
    (hkept : Pool.Along (handle p) (LockKept userID) (Pool.start r (calls.map fun i => i.program p))
      (before ++ (during ++ (caller, tick) :: later))) :
    let locked := (Pool.start r (calls.map fun i => i.program p)).run (handle p) before
    let reading := locked.run (handle p) during
    let after := (reading.step (handle p) caller tick).run (handle p) later
    ∀ locker t user, locked.trace.head? = some (lockStored locker userID t) →
      ReadsAccount p reading caller tick userID user → tick.now < t →
      (∀ now, clockRead caller now ∈ after.trace → now < t) →
      (∀ d i, calls[d]? = some i → Proven i d reading.trace → locked.result d = none → reading.result d = none) →
      ∀ password hash, compared caller password hash ∉ after.trace := by
  intro locked reading after locker t user hlock hreads hbefore hclocks hnoLogin password hash hcompared
  have hkeep : KeepsLogins calls (Pool.start r (calls.map fun i => i.program p)) := Pool.keep_start (fun i caller =>
    Call.Keeps.mono (AuthService.passwordLogin_keeps p i) fun _ _ _ => trivial) r
  have hstart : LoginRun userID (Pool.start r (calls.map fun i => i.program p)).store
      (Pool.start r (calls.map fun i => i.program p)).trace := ⟨hkeyed, nofun, nofun⟩
  have hclocked : ClockedBy 0 (Pool.start r (calls.map fun i => i.program p)) := nofun
  obtain ⟨hkeptBefore, hkeptRest⟩ := Pool.along_append.mp hkept
  obtain ⟨hkeptDuring, hkeptRead, -⟩ := Pool.along_append.mp hkeptRest
  obtain ⟨time, hpos, hle, hto, hfrom⟩ := exists_time_between hclock
  obtain ⟨hclockBefore, hclockRest, -⟩ := List.pairwise_append.mp hclock
  obtain ⟨hclockDuring, -, hclockRead⟩ := List.pairwise_append.mp hclockRest
  have hrun : LoginRun userID locked.store locked.trace := hstart.run hkeep before
  -- up to the read the account stays locked
  have hlocked : Locked userID t locked.store := by
    obtain ⟨rest, htrace⟩ := List.head?_eq_some_iff.mp hlock
    exact hrun.stored locker t rest htrace
  have hstate := locked_run hkeptDuring hclockDuring hfrom
    (fun turn hmem => hclockRead turn hmem (caller, tick) (by simp))
    hle (hkeep.run before) (hclocked.run hkeptBefore hclockBefore (fun turn _ => turn.2.pos.le) hto hpos hkeep) hlocked
  obtain ⟨hfirst, hid, q, hpending, hfound⟩ := hreads
  have hstill : Locked userID t reading.store := by
    rcases hstate with ⟨d, i, hi, hopen, hproven, resp, hmem⟩ | hstill | hpast
    · have hreturned := clearersReturned_of_accountFound hfound hfirst (hkeptRead q hpending)
      obtain ⟨compareHash, hright, -⟩ := id hproven
      have hdone := hreturned _ hmem (by simp [clearsLock]) (hasCompared_of_mem hright)
      rw [hnoLogin d i hi hproven hopen] at hdone
      cases hdone
    · exact hstill
    · exact absurd hbefore (not_lt.mpr hpast)
  -- so the call sees the lockout, and its own clock has not outlasted it
  have hrunReading : LoginRun userID reading.store reading.trace := hrun.run (hkeep.run before) during
  have hrunAfter : LoginRun userID after.store after.trace :=
    hrunReading.run ((hkeep.run before).run during) ((caller, tick) :: later)
  have hseen : t ≤ user.lockedUntil := by
    obtain ⟨key, hkey⟩ := lookup_of_accountFound hfound
    obtain ⟨u, hu, hlong⟩ := hstill
    rw [← hrunReading.keyed key user hkey, hid, hu] at hkey
    cases hkey
    exact hlong
  obtain ⟨user', ⟨earlier, event, hown, huser'⟩, hopen⟩ := hrunAfter.judged caller password hash hcompared
  obtain ⟨next, hcall⟩ := Pool.request_of_pending hpending
  have hsame : [(⟨caller, q, (handle p q tick reading.store).1⟩ : Event Request.Response)] = [event] := by
    have hsuffix : Pool.own (reading.step (handle p) caller tick).trace caller <:+ Pool.own after.trace caller :=
      Pool.own_suffix (Pool.trace_run_suffix later) caller
    rw [Pool.trace_step hcall rfl, Pool.own_cons_self, hfirst, hown] at hsuffix
    obtain ⟨more, hmore⟩ := hsuffix
    exact List.append_inj_right' hmore rfl
  cases hsame
  rw [hfound] at huser'
  cases huser'
  rcases hopen with hnone | ⟨now, hnow, hover⟩
  · have := tick.pos
    omega
  · have := hclocks now (Pool.mem_trace hnow)
    omega

/-- An account whose earlier lockout has run out. -/
def sampleLockedOut : User where
  id := "alice"
  status := "active"
  kind := .person
  email := "a@b.com"
  passwordHash := sampleHash
  failedLoginCount := 1
  lockedUntil := 5

def sampleLockedOutStore : Repo := run tokenPlatform new [(.user (.createUser sampleLockedOut), sampleTick)]

/-- A login with a wrong password. -/
def sampleGuess : LoginInvocation := ⟨sampleAuth, "a@b.com", "guess", ⟨"", ""⟩⟩

def sampleGuessers (count : Nat) : LoginPool :=
  Pool.start sampleLockedOutStore ((List.replicate count sampleGuess).map fun i => i.program tokenPlatform)

lemma sampleGuess_not_proven (hi : (List.replicate count sampleGuess)[d]? = some i) : ¬ Proven i d own := by
  rintro ⟨hash, -, hverify⟩
  obtain rfl := List.eq_of_mem_replicate (List.mem_of_getElem? hi)
  simp [sampleGuess, sampleAuth, samplePasswords, sampleBcrypt, Except.toOption] at hverify

/-- Two guesses: the first has locked the account, the second has not begun. -/
def sampleLocked : LoginPool := (sampleGuessers 2).run (handle tokenPlatform) (sampleTurns [0, 0, 0, 0, 0, 0, 0, 0])

/-- Three guesses: the first has read the old lockout and the clock, the second has locked
    the account anew, and then the first has cleared the lockout. -/
def sampleUnlocked : LoginPool :=
  ((sampleGuessers 3).run (handle tokenPlatform) (sampleTurns [0, 0, 0, 1, 1, 1, 1, 1, 1, 1, 1])).run
    (handle tokenPlatform) (sampleTurns [0])

/-- The next guess reads the account and takes one more step. -/
def sampleRefused : LoginPool :=
  (sampleLocked.step (handle tokenPlatform) 1 sampleTick).run (handle tokenPlatform) (sampleTurns [1])

def sampleGuessed : LoginPool :=
  (sampleUnlocked.step (handle tokenPlatform) 2 sampleTick).run (handle tokenPlatform) (sampleTurns [2])

lemma sampleLockedOutStore_keyed (key : String) (u : User) (hu : sampleLockedOutStore.users.lookup key = some u) :
    u.id = key := by
  obtain ⟨rfl, rfl⟩ := lookup_single hu
  rfl

/-- A first wrong guess locks the account; the next one is refused before it is compared. -/
theorem lockout_bounds_guessing_refused : sampleLocked.trace.head? = some (lockStored 0 "alice" 1020) ∧
      ReadsAccount tokenPlatform sampleLocked 1 sampleTick "alice" { sampleLockedOut with lockedUntil := 1020 } ∧
      ∀ password hash, compared 1 password hash ∉ sampleRefused.trace := by
  have hreads : ReadsAccount tokenPlatform sampleLocked 1 sampleTick "alice"
      { sampleLockedOut with lockedUntil := 1020 } := ⟨rfl, rfl, _, rfl, rfl⟩
  refine ⟨rfl, hreads, ?_⟩
  refine lockout_bounds_guessing tokenPlatform sampleLockedOutStore sampleLockedOutStore_keyed
    (List.replicate 2 sampleGuess) "alice" (sampleTurns [0, 0, 0, 0, 0, 0, 0, 0]) [] (sampleTurns [1]) 1 sampleTick
    (by decide) (by decide +kernel) 0 1020 _ rfl hreads (by decide) ?_
    fun d i hi hproven => absurd hproven (sampleGuess_not_proven hi)
  intro now hmem
  have hmem : clockRead 1 now ∈ Pool.own sampleRefused.trace 1 := Pool.mem_own hmem
  rcases List.mem_pair.mp hmem with heq | heq
  · obtain ⟨-, -, hresp⟩ := Event.mk.inj heq
    obtain rfl : now = 20 := eq_of_heq hresp
    decide
  · cases congrArg Event.req heq

/-- A guess that read the earlier, expired lockout clears the one another guess has set
    since, and a third guess, which reads the account well before that lockout's end, is
    compared. Nobody has the right password. -/
theorem stale_reset_clears_lockout :
    ((sampleGuessers 3).run (handle tokenPlatform) (sampleTurns [0, 0, 0, 1, 1, 1, 1, 1, 1, 1, 1])).trace.head? =
        some (lockStored 1 "alice" 1020) ∧
      ReadsAccount tokenPlatform sampleUnlocked 2 sampleTick "alice"
        { sampleLockedOut with failedLoginCount := 0, lockedUntil := 0 } ∧
      sampleTick.now < 1020 ∧
      (∀ d i, (List.replicate 3 sampleGuess)[d]? = some i → ¬ Proven i d sampleUnlocked.trace) ∧
      (∀ now, clockRead 2 now ∉ sampleGuessed.trace) ∧
      compared 2 "guess" sampleLockedOut.passwordHash ∈ sampleGuessed.trace := by
  refine ⟨rfl, ⟨rfl, rfl, _, rfl, rfl⟩, by decide, fun d i => sampleGuess_not_proven, fun now hmem => ?_,
    List.mem_of_getElem? (i := 0) rfl⟩
  have hown : (Pool.own sampleGuessed.trace 2).map Event.req =
    [.compare "guess" sampleLockedOut.passwordHash, .user (.findUserByEmail "a@b.com")] := rfl
  have hreq : Request.clock ∈ (Pool.own sampleGuessed.trace 2).map Event.req := List.mem_map_of_mem (Pool.mem_own hmem)
  rw [hown] at hreq
  simp at hreq

end identity.service
