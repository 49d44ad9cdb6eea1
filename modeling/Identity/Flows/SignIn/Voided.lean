import Identity.Flows.SignIn.Planted
import Identity.Repository.Delegation

open identity.repository identity.memory
namespace identity.service

/-- The steps of a call up to the one that attaches. -/
def upToAttach (own : Trace) : Trace :=
  if (attachOf own).isNone = true then own else untilAttach own

/-- Every read of the account up to there found the address alike. -/
@[grind =]
def Steady (userID : String) (own : Trace) : Prop :=
  ∀ event ∈ upToAttach own, ∀ event' ∈ upToAttach own, ∀ account account', accountSeen userID event = some account →
    accountSeen userID event' = some account' → account.emailVerified = account'.emailVerified

lemma steady_cons (hsteady : Steady userID own)
    (hagree : attachOf own = none → ∀ account, accountSeen userID event = some account → ∀ event' ∈ own, ∀ account',
      accountSeen userID event' = some account' → account.emailVerified = account'.emailVerified)
    (hfirst : attaches event = true → attachOf own = none) : Steady userID (event :: own) := by
  cases hbefore : attachOf own with
  | none => grind [untilAttach_cons_of_attaches, attachOf, upToAttach]
  | some attach => grind [untilAttach_cons_of_not, attachOf, upToAttach]

/-- Whose step it is: the proof's or that of a call that attaches. -/
def RaceTurn (userID : String) (trace : Trace) (caller : Nat) (q : Request) : Prop :=
  caller = 0 ∧ ProofGuard userID (Pool.own trace caller) q ∨ caller ≠ 0 ∧
    AttachGuard userID caller (Pool.own trace caller) q

lemma RaceTurn.linksUnique (hguard : RaceTurn userID trace caller q) (hunique : LinksUnique r) :
    LinksUnique (handle p q tick r).2 := by
  have hsame : (handle p q tick r).2.oauthIdentities = r.oauthIdentities → LinksUnique (handle p q tick r).2 := by
    intro hrows
    rw [LinksUnique, hrows]
    exact hunique
  rcases hguard with ⟨-, hguard⟩ | ⟨-, hguard⟩
  · rcases hguard with hstep | ⟨email, atMs, clear, rfl, -⟩
    · cases hstep with
      | listPasskeys | listLinks => exact hsame rfl
      | deletePasskeys =>
        refine hsame ?_
        show (r.deletePasskeyCredentialsForUser userID).oauthIdentities = _
        unfold Repo.deletePasskeyCredentialsForUser
        split <;> rfl
      | deleteLink provider providerUserID =>
        exact deleteOAuthIdentity_linksUnique hunique userID provider providerUserID
      | session q => exact hsame (handle_credentials p tick r rfl).oauthIdentities
    · exact hsame (handle_credentials p tick r rfl).oauthIdentities
  unfold AttachGuard at hguard
  split at hguard
  · exact hsame rfl
  · exact createOAuthIdentity_linksUnique hunique _
  · rename_i id credentialID
    refine hsame ?_
    show (r.deletePasskeyCredential id credentialID).2.oauthIdentities = _
    unfold Repo.deletePasskeyCredential
    split <;> rfl
  · exact deleteOAuthIdentity_linksUnique hunique _ _ _
  · exact hsame (hguard.leaves p tick r).2

/-- Marked, and yet unproven: no step of the race proves such an address again. -/
@[grind =]
def Lost (userID : String) (r : Repo) (trace : Trace) : Prop :=
  isMarked userID (Pool.own trace 0) = true ∧ ∀ u, r.users.lookup userID = some u → u.emailVerified = false

lemma Lost.step (hlost : Lost userID r trace) (hguard : RaceTurn userID trace caller q) :
    Lost userID (handle p q tick r).2 (⟨caller, q, (handle p q tick r).1⟩ :: trace) := by
  have hmarked : isMarked userID (Pool.own (⟨caller, q, (handle p q tick r).1⟩ :: trace) 0) = true := by
    by_cases hfirst : caller = 0
    · subst hfirst
      rw [Pool.own_cons_self, isMarked_cons, hlost.1, Bool.or_true]
    · rw [Pool.own_cons_ne hfirst, hlost.1]
  rcases race_users p tick r hguard with ⟨-, hunmarked, -, -⟩ | ⟨-, husers⟩
  · rw [hlost.1] at hunmarked
    cases hunmarked
  · grind [husers.lookup_some_inv]

/-- What a run of the race keeps. -/
structure RaceRun (userID : String) (bad : OAuthIdentity → Bool) (r : Repo) (trace : Trace) :
    Prop where
  base : RaceBase userID r trace
  verified : isMarked userID (Pool.own trace 0) = true → ∀ u, r.users.lookup userID = some u → u.emailVerified = true
  passkeys : PasskeysLate userID r trace
  links : LinksLate userID bad r trace

lemma RaceRun.step (hrun : RaceRun userID bad r trace) (hguard : RaceTurn userID trace caller q) (huser : userID ≠ "")
    (hone : ∀ id credentialID, q = .credential (.deletePasskeyCredential id credentialID) →
      (r.passkeyCreds.entries.filter fun entry =>
        entry.2.userID == id && entry.2.credentialID == credentialID).length ≤ 1) :
    Lost userID (handle p q tick r).2 (⟨caller, q, (handle p q tick r).1⟩ :: trace) ∨
      RaceRun userID bad (handle p q tick r).2 (⟨caller, q, (handle p q tick r).1⟩ :: trace) := by
  have hbase : RaceBase userID (handle p q tick r).2 (⟨caller, q, (handle p q tick r).1⟩ :: trace) :=
    hrun.base.step hguard (hguard.linksUnique hrun.base.unique)
  obtain ⟨u, hu⟩ := hbase.account
  by_cases hlost : isMarked userID (Pool.own (⟨caller, q, (handle p q tick r).1⟩ :: trace) 0) = true ∧
    u.emailVerified = false
  · grind
  have hverified : isMarked userID (Pool.own (⟨caller, q, (handle p q tick r).1⟩ :: trace) 0) = true →
      ∀ u', (handle p q tick r).2.users.lookup userID = some u' → u'.emailVerified = true := by
    intro hmarked u' hu'
    cases hu.symm.trans hu'
    by_contra hunproven
    exact hlost ⟨hmarked, by simpa using hunproven⟩
  refine .inr ⟨hbase, hverified, ?_, ?_⟩
  · rcases hguard with ⟨rfl, hguard⟩ | ⟨hcaller, hguard⟩
    · exact hguard.passkeysLate huser hrun.passkeys
    · grind [Pool.own_cons_ne, hguard.passkeysLate, hrun.verified, isMarked_of_passkeysSwept, hrun.passkeys]
  rcases hguard with ⟨rfl, hguard⟩ | ⟨hcaller, hguard⟩
  · exact hguard.linksLate hrun.base.unique hrun.links
  intro pending hpending key link hlink howner hbad
  rw [Pool.own_cons_ne hcaller] at hpending
  exact hguard.linksLate hcaller hrun.base.unique (hrun.verified (isMarked_of_pendingLinks hpending))
    (hrun.links pending hpending) hlink howner hbad

/-- A step whose reads agree keeps every call steady. -/
lemma RaceTurn.steady (hguard : RaceTurn userID trace caller q) (hsteady : ∀ d, Steady userID (Pool.own trace d))
    (hagree : q = .user (.getUser userID) → attachOf (Pool.own trace caller) = none → ∀ event ∈ Pool.own trace caller,
      ∀ seen, accountSeen userID event = some seen → ∀ u, r.users.lookup userID = some u →
      u.emailVerified = seen.emailVerified) (d : Nat) :
    Steady userID (Pool.own (⟨caller, q, (handle p q tick r).1⟩ :: trace) d) := by
  by_cases hsame : caller = d
  · subst hsame
    rw [Pool.own_cons_self]
    refine steady_cons (hsteady caller) ?_ ?_
    · intro hnone account hseen event hmem account' hseen'
      obtain ⟨hread, hrow, -⟩ := accountSeen_handle hseen
      exact hagree hread hnone event hmem account' hseen' account hrow
    intro hattach
    rcases hguard with ⟨-, hguard⟩ | ⟨-, hguard⟩
    · rw [hguard.not_attaches] at hattach
      cases hattach
    unfold AttachGuard at hguard
    split at hguard
    · exact hguard.2
    · exact hguard.2
    · cases hattach
    · cases hattach
    · rw [(hguard.inert _).1] at hattach
      cases hattach
  · rw [Pool.own_cons_ne hsame]
    exact hsteady d

section Theorem
variable (p : Platform) (auth : AuthService) (user : User) (proof : ExternalProof) (now : Int)
  (attaching : List AttachCall) (r : Repo)

/-- The race, before anyone has moved. -/
def raceStart : RacePool := Pool.start r ((proofRace auth user proof now attaching).map (RaceCall.program p user.id))

/-- A call has read the account before its address was marked verified. -/
def ReadBeforeMark (userID : String) (trace : Trace) (caller : Nat) : Prop :=
  ∃ event ∈ untilMark userID trace, event.caller = caller ∧ event.req = .user (.getUser userID)

variable {p auth user proof now attaching r}

/-- The calls keep to what the proof and the attaching calls may do. -/
def KeepsRace (auth : AuthService) (user : User) (proof : ExternalProof) (now : Int) (attaching : List AttachCall)
    (pool : RacePool) : Prop :=
  pool.Keep
    (fun caller own q => ∃ call, (proofRace auth user proof now attaching)[caller]? = some call ∧
      RaceGuard user.id call caller own q)
    (fun caller own result => ∃ call, (proofRace auth user proof now attaching)[caller]? = some call ∧
      RacePost user.id call caller own result)

lemma keepsRace_start : KeepsRace auth user proof now attaching (raceStart p auth user proof now attaching r) := by
  refine Pool.keep_start_of_mem (fun call hcall caller => race_keeps p call ?_) r
  rintro auth' user' proof' now' rfl
  rcases List.mem_cons.mp hcall with heq | hmem
  · cases heq
    rfl
  · grind

lemma raceRun_start (hrow : r.users.lookup userID = some u)
    (hunproven : u.emailVerified = false) (hunique : LinksUnique r) (bad : OAuthIdentity → Bool) :
    RaceRun userID bad r [] where
  base.account := ⟨u, hrow⟩
  base.found := List.forall_mem_nil _
  base.marker := List.forall_mem_nil _
  base.unmarked _ := by grind
  base.early := List.forall_mem_nil _
  base.unique := hunique
  verified hmarked := by cases hmarked
  passkeys hswept := by cases hswept
  links _ hpending := by cases hpending

lemma attach_of_ne_zero (hcaller : caller ≠ 0)
    (hcall : (proofRace auth user proof now attaching)[caller]? = some call) : ∃ attach, call = .attach attach := by
  obtain ⟨d, rfl⟩ := Nat.exists_eq_succ_of_ne_zero hcaller
  rw [proofRace, List.getElem?_cons_succ, List.getElem?_map, Option.map_eq_some_iff] at hcall
  obtain ⟨attach, -, rfl⟩ := hcall
  exact ⟨attach, rfl⟩

/-- The whole run, from an account whose address is unproven. -/
lemma race_run (huser : user.id ≠ "")
    (hrow : r.users.lookup user.id = some u) (hunproven : u.emailVerified = false) (hunique : LinksUnique r)
    (halong : Pool.Along (handle p) (Undivided user.id) (raceStart p auth user proof now attaching r) schedule)
    (bad : OAuthIdentity → Bool) :
    let pool := (raceStart p auth user proof now attaching r).run (handle p) schedule
    (Lost user.id pool.store pool.trace ∨ RaceRun user.id bad pool.store pool.trace) ∧
      ∀ d, Steady user.id (Pool.own pool.trace d) := by
  refine Pool.along_invariant (fun pool caller tick q next
    (hinv : (Lost user.id pool.store pool.trace ∨ RaceRun user.id bad pool.store pool.trace) ∧
      ∀ d, Steady user.id (Pool.own pool.trace d)) hcall hkeep hguard hcond => ?_) keepsRace_start
    ⟨.inr (raceRun_start hrow hunproven hunique bad), fun _ => List.forall_mem_nil _⟩ schedule halong
  obtain ⟨call, hitem, hguard⟩ := hguard
  have hturn : RaceTurn user.id pool.trace caller q := raceGuard_cases hitem hguard
  rw [Pool.step_request hcall]
  refine ⟨?_, hturn.steady hinv.2 ?_⟩
  · rcases hinv.1 with hlost | hrun
    · exact .inl (hlost.step hturn)
    refine hrun.step hturn huser ?_
    rintro id credentialID rfl
    exact hcond
  · rintro rfl hnone event hmem seen hseen account haccount
    exact hcond rfl (by rw [hnone]; rfl) event hmem seen hseen account haccount

/-- Whoever attached late has read nothing before the mark. -/
lemma Late.notReadBeforeMark (hlate : Late userID stores trace d attach) (hbase : RaceBase userID store trace)
    (hsteady : Steady userID (Pool.own trace d)) (hsettled : Settled userID d (Pool.own trace d)) :
    ¬ ReadBeforeMark userID trace d := by
  have hattached : (attachOf (Pool.own trace d)).isSome = true := by rw [hlate.attached]; rfl
  have hupTo : upToAttach (Pool.own trace d) = untilAttach (Pool.own trace d) := by
    rw [upToAttach, hlate.attached]
    rfl
  rw [Steady, hupTo] at hsteady
  rcases hsettled hattached with ⟨account, hread, hproven⟩ | ⟨event, hsince, hunproven⟩ | ⟨event, hsince, hwithdraws⟩
  · rintro ⟨event, hearly, rfl, hreq⟩
    obtain ⟨seen, hseen⟩ :=
      Option.isSome_iff_exists.mp (hbase.found event (List.dropWhile_sublist _ |>.subset hearly) hreq)
    have hunproven := hbase.early event hearly seen hseen
    have hown := Pool.mem_own (List.dropWhile_sublist _ |>.subset hearly)
    rw [← List.takeWhile_append_dropWhile (p := fun event => !attaches event) (l := Pool.own trace event.caller),
      List.mem_append] at hown
    rcases hown with hsince | huntil
    · have hquiet := (hlate.since event hsince).2
      rw [readsUnproven_of_accountSeen hseen hunproven] at hquiet
      cases hquiet
    have hagree := hsteady _ hread event huntil account seen (if_pos rfl) hseen
    rw [hproven, hunproven] at hagree
    cases hagree
  · rw [(hlate.since event hsince).2] at hunproven
    cases hunproven
  · rw [(hlate.since event hsince).1] at hwithdraws
    cases hwithdraws

/-- One proof of an address against any number of attaching calls, in any interleaving:
    what the account holds once all have returned was attached by calls that had not read
    it before the mark. -/
theorem proof_voids_planted (schedule : List (Nat × Tick)) (huser : user.id ≠ "")
    (hunproven : ∃ u, r.users.lookup user.id = some u ∧ u.emailVerified = false) (hunique : LinksUnique r)
    (hundivided : Pool.Along (handle p) (Undivided user.id) (raceStart p auth user proof now attaching r) schedule) :
    let pool := (raceStart p auth user proof now attaching r).run (handle p) schedule
    (∀ caller ≤ attaching.length, (pool.result caller).isSome = true) → pool.result 0 = some (.ok ()) →
    (∃ u, pool.store.users.lookup user.id = some u ∧ u.emailVerified = true) →
      (∀ key c, pool.store.passkeyCreds.lookup key = some c → c.userID = user.id →
        ∃ attach, pool.trace.find? (storesPasskey key) = some attach ∧
          ¬ ReadBeforeMark user.id pool.trace attach.caller) ∧
      ∀ key link, pool.store.oauthIdentities.lookup key = some link → link.userID = user.id →
        proof.voids auth.toASCII user.email link = true →
        ∃ attach, pool.trace.find? (storesLink link) = some attach ∧
          ¬ ReadBeforeMark user.id pool.trace attach.caller := by
  intro pool hdone hproved hverified
  obtain ⟨u, hrow, hbefore⟩ := hunproven
  obtain ⟨u', hrow', hafter⟩ := hverified
  have hkeep : KeepsRace auth user proof now attaching pool := keepsRace_start.run schedule
  obtain ⟨hlost | hrun, hsteady⟩ := race_run huser hrow hbefore hunique hundivided
    (proof.voids auth.toASCII user.email)
  · rw [hlost.2 u' hrow'] at hafter
    cases hafter
  have hmarked : isMarked user.id (Pool.own pool.trace 0) = true := by
    grind [isMarked_own, hrun.base.marker, hrun.base.unmarked]
  have hswept : CredentialsSwept user.id (proof.voids auth.toASCII user.email) (Pool.own pool.trace 0) := by
    obtain ⟨call, hcall, hpost⟩ := hkeep.result hproved
    cases hcall
    exact hpost rfl hmarked
  have hclean : ∀ d stores attach, Late user.id stores pool.trace d attach →
    ¬ ReadBeforeMark user.id pool.trace d := by
    intro d stores attach hlate
    have hbound : d ≤ attaching.length := by
      obtain ⟨hmem, hcaller⟩ := Pool.mem_of_mem_own (List.mem_of_find?_eq_some hlate.attached)
      have hlt := Pool.bound_run (h := handle p) (List.forall_mem_nil _) schedule attach hmem
      rw [hcaller] at hlt
      simpa [raceStart, Pool.start, proofRace, Nat.lt_succ_iff] using hlt
    obtain ⟨result, hresult⟩ := Option.isSome_iff_exists.mp (hdone d hbound)
    obtain ⟨call, hcall, hpost⟩ := hkeep.result hresult
    obtain ⟨attacher, rfl⟩ := attach_of_ne_zero hlate.attacher hcall
    exact hlate.notReadBeforeMark hrun.base (hsteady d) hpost
  refine ⟨fun key c hc howner => ?_, fun key link hlink howner hvoid => ?_⟩
  · grind [hrun.passkeys]
  rcases hrun.links [] hswept.2 key link hlink howner hvoid with ⟨other, hother, -⟩ | ⟨d, oi, hlate⟩
  · cases hother
  · exact ⟨_, hlate.newest, hclean d _ _ hlate⟩

end Theorem

def sampleUnproven : User where
  id := "alice"
  status := "active"
  kind := .person
  email := "a@b.example"

def sampleUnprovenStore : Repo := run tokenPlatform new [(.user (.createUser sampleUnproven), sampleTick)]

/-- An emailed code, redeemed. -/
def sampleProof : ExternalProof := { address := "a@b.example" }

def sampleLinking : AttachCall :=
  .link (.ok { provider := "google", providerUserID := "g1", email := "mallory@b.example" })

/-- A proof of the account's address and any number of calls that link the same identity. -/
def sampleRace (count : Nat) (turns : List Nat) : RacePool :=
  (raceStart tokenPlatform sampleAuth sampleUnproven sampleProof 20 (List.replicate count sampleLinking)
    sampleUnprovenStore).run (handle tokenPlatform) (sampleTurns turns)

/-- The identity as a link of the account. -/
def sampleLinked (nodeID : String) : OAuthIdentity where
  nodeID := nodeID
  userID := "alice"
  provider := "google"
  providerUserID := "g1"
  emailAtLinkTime := "mallory@b.example"
  createdAt := 20

lemma sampleUnprovenStore_linksUnique : LinksUnique sampleUnprovenStore := by
  intro key key' link link' hlink
  cases hlink

/-- One call links before the proof begins, another one after it. -/
def samplePlantedTurns : List Nat := [1, 1, 1, 1, 0, 0, 0, 0, 0, 0, 0, 0, 0, 0, 1, 1, 2, 2, 2, 2]

/-- The planted link is gone and its call refused; the link that stays is that of a call
    which began after the mark. -/
theorem proof_voids_planted_link :
    (sampleRace 2 samplePlantedTurns).store.oauthIdentities.lookup "mem-2" = some (sampleLinked "mem-2") ∧
      (sampleRace 2 samplePlantedTurns).result 1 =
        some (.error (.wrapped .unauthenticated "the account's address was proven while linking; sign in again")) ∧
      ∃ attach, (sampleRace 2 samplePlantedTurns).trace.find? (storesLink (sampleLinked "mem-2")) = some attach ∧
        ¬ ReadBeforeMark "alice" (sampleRace 2 samplePlantedTurns).trace attach.caller := by
  have hlinked : (sampleRace 2 samplePlantedTurns).store.oauthIdentities.lookup "mem-2" =
    some (sampleLinked "mem-2") := rfl
  have hproved : (sampleRace 2 samplePlantedTurns).result 0 = some (.ok ()) := rfl
  have hverified : (sampleRace 2 samplePlantedTurns).store.users.lookup "alice" =
    some { sampleUnproven with emailVerified := true, emailVerifiedAt := 20, updatedAt := 20 } := rfl
  refine ⟨hlinked, rfl, ?_⟩
  refine (proof_voids_planted (sampleTurns samplePlantedTurns) (by decide) ⟨sampleUnproven, rfl, rfl⟩
    sampleUnprovenStore_linksUnique (by decide +kernel) ?_ hproved ⟨_, hverified, rfl⟩).2 _ _ hlinked rfl rfl
  decide +kernel

/-- A call that read the account before the mark and read it again after the proof's last
    step keeps its link. -/
theorem straddling_link_survives_proof :
    let pool := sampleRace 1 [1, 0, 0, 0, 0, 0, 1, 1, 1]
    (∀ caller ≤ 1, (pool.result caller).isSome = true) ∧ pool.result 0 = some (.ok ()) ∧
      (∃ u, pool.store.users.lookup "alice" = some u ∧ u.emailVerified = true) ∧
      pool.store.oauthIdentities.lookup "mem-1" = some (sampleLinked "mem-1") ∧
      sampleProof.voids sampleAuth.toASCII "a@b.example" (sampleLinked "mem-1") = true ∧
      (pool.trace.find? (storesLink (sampleLinked "mem-1"))).map Event.caller = some 1 ∧
      ReadBeforeMark "alice" pool.trace 1 := by
  refine ⟨by decide +kernel, rfl, ⟨_, rfl, rfl⟩, rfl, rfl, rfl, ?_⟩
  exact ⟨_, List.mem_of_getElem? (i := 3) rfl, rfl, rfl⟩

end identity.service
