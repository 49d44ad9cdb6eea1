import Identity.Flows.Codes.Service

open identity.repository identity.memory
namespace identity.service
open CodeService
open Event (mk)
open List (mem_cons suffix_cons)
open Routine (keeps_bind)

/-- What a verify call presents: a code for a holder's record, and what it checks
    besides. -/
structure Guess where
  channel : CodeChannel
  holder : String
  code : String
  accepts : OneTimeCodeRecord → Bool

def emailGuess (email code : String) : Guess := ⟨.email, email, code, fun _ => true⟩

def phoneGuess (userID phoneNumber code : String) : Guess :=
  ⟨.phone, userID, code, fun rec => rec.phoneNumber == (normalizePhone phoneNumber).1⟩

def CodeCall.guess : CodeCall → Option Guess
  | .verifyEmail email code => some (emailGuess email code)
  | .verifyPhone userID phoneNumber code => some (phoneGuess userID phoneNumber code)
  | _ => none

/-- The record passes every check that comes before the guess is compared. -/
@[grind]
structure AdmitsGuess (g : Guess) (s : OneTimeCodeRecord) (now : Int) : Prop where
  unconsumed : s.consumedAt = 0
  unexpired : now < s.expiresAt
  accepted : g.accepts s = true
  attempts : 0 < s.maxAttempts → s.attemptCount < s.maxAttempts

/-- The call found the record and admitted it at its next reading of the clock, so the
    guess was compared against the record's hash. -/
@[grind =]
def Compared (g : Guess) (own : Trace) (s : OneTimeCodeRecord) : Prop :=
  ∃ caller now before, (⟨caller, .clock, now⟩ :: ⟨caller, .signIn (.findCode g.channel g.holder), some s⟩ :: before :
    Trace) <:+ own ∧ AdmitsGuess g s now

/-- No record of a channel has been read yet. -/
@[grind =]
def Unread (own : Trace) : Prop :=
  ∀ caller channel holder s, (⟨caller, .signIn (.findCode channel holder), s⟩ : StoreEvent) ∉ own

/-- A comparison has been followed by a write: the attempt was counted or the code
    consumed. -/
@[grind =]
def Recorded (g : Guess) (own : Trace) : Prop :=
  ∀ s, Compared g own s →
    (∃ caller resp, (⟨caller, .signIn (.incrementCodeAttempts g.channel s.nodeID), resp⟩ : StoreEvent) ∈ own) ∨
      ∃ caller atMs resp, (⟨caller, .signIn (.consumeCode g.channel g.holder atMs), resp⟩ : StoreEvent) ∈ own

/-- The guess matched the record it was compared with, and a consume was accepted. -/
@[grind =]
def Matched (p : Platform) (g : Guess) (own : Trace) : Prop :=
  ∃ s caller atMs rec, Compared g own s ∧ s.codeHash = p.sha256Hex g.code ∧
    (⟨caller, .signIn (.consumeCode g.channel g.holder atMs), .ok rec⟩ : StoreEvent) ∈ own

lemma compared_cons : Compared g (event :: own) s ↔ (∃ caller now before, event = ⟨caller, .clock, now⟩ ∧
      own = ⟨caller, .signIn (.findCode g.channel g.holder), some s⟩ :: before ∧ AdmitsGuess g s now) ∨
        Compared g own s := by
  simp only [Compared, List.suffix_cons_iff]
  constructor
  · grind
  · grind

lemma Compared.mono (hcompared : Compared g own s) (hsuffix : own <:+ own') : Compared g own' s := by grind

lemma Compared.found (hcompared : Compared g own s) : ∃ caller,
    (⟨caller, .signIn (.findCode g.channel g.holder), some s⟩ : StoreEvent) ∈ own := by
  obtain ⟨caller, now, before, hold, -⟩ := hcompared
  exact ⟨caller, hold.subset (by simp)⟩

lemma Unread.not_compared (hunread : Unread own) : ¬ Compared g own s := by
  intro hcompared
  grind [hcompared.found]

lemma Matched.mono (hmatched : Matched p g own) (hsuffix : own <:+ own') : Matched p g own' := by grind

lemma Matched.recorded (hmatched : Matched p g own) : Recorded g own := by grind

lemma Unread.recorded (hunread : Unread own) : Recorded g own :=
  fun _ hcompared => absurd hcompared hunread.not_compared

lemma unread_nil : Unread [] := fun _ _ _ _ hmem => nomatch hmem

/-- The record the call has read. -/
@[grind =]
def ReadOnly (g : Guess) (own : Trace) (s : OneTimeCodeRecord) : Prop :=
  ∀ caller s', (⟨caller, .signIn (.findCode g.channel g.holder), some s'⟩ : StoreEvent) ∈ own → s' = s

/-- A step that leaves the codes and the counter alone. -/
def LeavesCodes (q : Request) : Prop :=
  ∀ p tick r, (handle p q tick r).2.seq = r.seq ∧ ∀ channel, (handle p q tick r).2.codes channel = r.codes channel

/-- The attempts a send allows. -/
def CodeInvocation.maxAttempts (i : CodeInvocation) : CodeChannel → Int
  | .email => i.settings.emailCodeMaxAttempts
  | .phone => i.settings.phoneCodeMaxAttempts

/-- The requests of the calls on codes: a send stores an unused code, a verify call
    reads one record, and writes only after it compared its guess. -/
def CodeGuard (i : CodeInvocation) (own : Trace) (q : Request) : Prop :=
  match q with
  | .signIn (.upsertCode channel rec) =>
    rec.consumedAt = 0 ∧ rec.attemptCount = 0 ∧ rec.maxAttempts = i.maxAttempts channel
  | .signIn (.findCode channel holder) =>
    Unread own ∧ ∃ g, i.call.guess = some g ∧ g.channel = channel ∧ g.holder = holder
  | .signIn (.incrementCodeAttempts channel nodeID) =>
    ∃ g s, i.call.guess = some g ∧ g.channel = channel ∧ Compared g own s ∧ s.nodeID = nodeID
  | .signIn (.consumeCode channel holder atMs) =>
    ∃ g s reader, i.call.guess = some g ∧ g.channel = channel ∧ g.holder = holder ∧ Compared g own s ∧
      (⟨reader, .clock, atMs⟩ : StoreEvent) ∈ own
  | q => LeavesCodes q

section
variable {i : CodeInvocation}

lemma leavesCodes_of_isRead (hread : q.isRead = true) : LeavesCodes q := by
  intro p tick r
  rw [handle_isRead hread]
  exact ⟨rfl, fun _ => rfl⟩

/-- Looking at anything but a code is always allowed. -/
lemma codeGuard_clock : CodeGuard i own .clock := leavesCodes_of_isRead rfl

lemma codeGuard_getUser (userID : String) : CodeGuard i own (.user (.getUser userID)) := leavesCodes_of_isRead rfl

variable {fails : Trace → Err → Prop}

@[simp]
lemma keeps_findCode {guard : Trace → Request → Prop} :
    (findCode channel holder).Keeps caller guard ok fails own ↔
      guard own (.signIn (.findCode channel holder)) ∧ ∀ found : Option OneTimeCodeRecord,
        ok (⟨caller, .signIn (.findCode channel holder), found⟩ :: own) found := Iff.rfl

lemma recordWrongGuess_keeps (hguess : i.call.guess = some g) (hcompared : Compared g own s)
    (hread : ReadOnly g own s) :
    (recordWrongGuess g.channel g.holder s).Leaves caller (CodeGuard i) (Recorded g) own := by
  unfold recordWrongGuess
  simp only [keeps_bind, Routine.keeps_ite, Routine.keeps_pure]
  refine ⟨⟨g, s, hguess, rfl, hcompared, rfl⟩,
    fun resp => ⟨fun _ => ⟨codeGuard_clock, fun now => ⟨?_, fun answer => ?_⟩⟩,
    fun _ => ?_⟩⟩
  · exact ⟨g, s, caller, hguess, rfl, rfl, hcompared.mono ((suffix_cons _ _).later), by simp⟩
  · exact fun s' _ => .inr ⟨caller, now, answer, by simp⟩
  · grind [List.mem_cons_self]

variable (p : Platform)

/-- The guess against the record that was read. -/
lemma judgeGuess_keeps (hguess : i.call.guess = some g) (hcompared : Compared g own s) (hread : ReadOnly g own s) :
    (judgeGuess p g.channel g.holder g.code s).Keeps caller (CodeGuard i) (fun own' _ => Matched p g own')
      (fun own' _ => Recorded g own') own := by
  refine .ite (fun _ => ?_) fun hhash => ?_
  · exact .bind ((recordWrongGuess_keeps hguess hcompared hread).mono (fun _ _ h => h) fun _ _ h => h)
  rw [Decidable.not_not] at hhash
  refine ⟨codeGuard_clock, fun now => ⟨?_, fun answer => ?_⟩⟩
  · exact ⟨g, s, caller, hguess, rfl, rfl, hcompared.mono (suffix_cons _ _), by simp⟩
  cases answer with
  | error err => exact fun s' _ => .inr ⟨caller, now, .error err, by simp⟩
  | ok rec =>
    refine ⟨s, caller, now, rec, hcompared.mono ?_, hhash, by simp⟩
    exact (suffix_cons _ _).later

lemma verifyCode_keeps (hguess : i.call.guess = some g) (hunread : Unread own) :
    (verifyCode p g.channel g.accepts g.holder g.code).Keeps caller (CodeGuard i) (fun own' _ => Matched p g own')
      (fun own' _ => Recorded g own') own := by
  unfold verifyCode
  simp only [keeps_bind, keeps_findCode]
  refine ⟨⟨hunread, g, hguess, rfl, rfl⟩, fun found => ?_⟩
  cases found with
  | none =>
    intro s hcompared
    grind [compared_cons, hunread.not_compared]
  | some s =>
    -- until the clock is read nothing has been compared
    have hfirst : ∀ s', ¬ Compared g (⟨caller, .signIn (.findCode g.channel g.holder), some s⟩ :: own) s' := by
      grind [compared_cons, hunread.not_compared]
    have hread : ∀ now : Int, ReadOnly g
        (⟨caller, .clock, now⟩ :: ⟨caller, .signIn (.findCode g.channel g.holder), some s⟩ :: own) s := by
      intro now reader s' hmem
      rcases mem_cons.mp hmem with heq | hmem
      · cases heq
      · grind
    have hrefused : ∀ now : Int, ¬ AdmitsGuess g s now → Recorded g
        (⟨caller, .clock, now⟩ :: ⟨caller, .signIn (.findCode g.channel g.holder), some s⟩ :: own) := by
      intro now hnot s' hcompared
      rcases compared_cons.mp hcompared with ⟨_, _, _, hclock, hfind, hadmits⟩ | hold
      · cases hclock
        cases hfind
        exact absurd hadmits hnot
      · exact absurd hold (hfirst s')
    simp only [keeps_bind, keeps_refuseIf]
    refine ⟨fun _ s' hcompared => absurd hcompared (hfirst s'), fun hunconsumed => ⟨codeGuard_clock, fun now => ?_⟩⟩
    refine ⟨fun hbad => hrefused now fun hadmits => ?_, fun hgood => ⟨fun hbad => hrefused now fun hadmits => ?_,
      fun hunder => ?_⟩⟩
    · grind
    · exact absurd (hadmits.attempts hbad.1) (Int.not_lt.mpr hbad.2)
    have hadmits : AdmitsGuess g s now := by grind
    exact judgeGuess_keeps p hguess ⟨caller, now, own, List.suffix_refl _, hadmits⟩ (hread now)

lemma touchUser_codes (r : Repo) (userID : String) (f : User → User) :
    (r.touchUser userID f).2.seq = r.seq ∧ ∀ channel, (r.touchUser userID f).2.codes channel = r.codes channel := by
  unfold Repo.touchUser
  split
  · exact ⟨rfl, fun _ => rfl⟩
  · exact ⟨rfl, fun channel => by cases channel <;> rfl⟩

/-- The steps of a send, and of a verify call before it reads the code. -/
inductive SendStep (i : CodeInvocation) : Request → Prop where
  | clock : SendStep i .clock
  | random : SendStep i .random
  | getUser (userID : String) : SendStep i (.user (.getUser userID))
  | upsert (channel : CodeChannel) (rec : OneTimeCodeRecord) (hunused : rec.consumedAt = 0 ∧ rec.attemptCount = 0)
      (hmax : rec.maxAttempts = i.maxAttempts channel) : SendStep i (.signIn (.upsertCode channel rec))

lemma SendStep.guard (hstep : SendStep i q) : CodeGuard i own q := by
  cases hstep with
  | clock => exact codeGuard_clock
  | random => exact (leavesCodes_of_isRead rfl)
  | getUser userID => exact codeGuard_getUser userID
  | upsert channel rec hunused hmax => exact ⟨hunused.1, hunused.2, hmax⟩

section
variable (i : CodeInvocation)

lemma sendEmailLoginCodeNow_makes (email : String) :
    (i.settings.sendEmailLoginCodeNow p email).Makes (SendStep i) :=
  .nowMs .clock fun _ => .ite (fun _ => .pure ()) fun _ =>
    (makes_randText .random).bind fun _ => .nowMs .clock fun _ =>
      .bind (.ask (.upsert _ _ ⟨rfl, rfl⟩ rfl)) fun _ => .pure ()

lemma refuseCredentialAttach_makes (userID : String) :
    (refuseCredentialAttach userID).Makes (SendStep i) := by
  refine (makes_getUser (.getUser userID)).bind fun user => ?_
  cases user with
  | none => exact .pure ()
  | some user => exact .past fun _ => makes_refuseIf _

lemma textPhoneCode_makes (userID phone : String) :
    (i.settings.textPhoneCode p userID phone).Makes (SendStep i) := by
  refine (makes_randText .random).bind fun code => .nowMs .clock fun now =>
    .bind (.ask (.upsert _ _ ⟨rfl, rfl⟩ rfl)) fun _ => ?_
  split
  · exact .throw _
  · exact .pure ()

lemma requestPhoneVerification_makes (userID phoneNumber : String) :
    (i.settings.requestPhoneVerification p userID phoneNumber).Makes (SendStep i) := by
  refine .past fun _ => .past fun _ =>
    (refuseCredentialAttach_makes i userID).bind fun _ => .past fun _ =>
      (makes_getUser (.getUser userID)).bind fun user => ?_
  cases user with
  | none => exact .throw _
  | some user =>
    exact .past fun _ => .past fun _ => .nowMs .clock fun _ =>
      .ite (fun _ => .pure ()) fun _ => textPhoneCode_makes p i userID _

end

lemma refuseCredentialAttach_keeps (userID : String) (hunread : Unread own) :
    (refuseCredentialAttach userID).Leaves caller (CodeGuard i) Unread own := by
  unfold refuseCredentialAttach
  simp only [keeps_bind, keeps_getUser]
  refine ⟨codeGuard_getUser userID, fun user => ?_⟩
  have hstill : Unread (⟨caller, .user (.getUser userID), user⟩ :: own) := fun reader channel holder found hmem =>
    hunread reader channel holder found (Event.mem_of_mem_cons (by simp) hmem)
  cases user with
  | none => exact hstill
  | some user =>
    simp only [keeps_bind, keeps_refuseIf]
    exact ⟨fun _ => hstill, fun _ => ⟨fun _ => hstill, fun _ => hstill⟩⟩

/-- Marking the number verified comes after the match and undoes nothing. -/
lemma verifyPhoneCode_keeps (hguess : i.call.guess = some (phoneGuess userID phoneNumber code)) :
    (i.settings.verifyPhoneCode p userID phoneNumber code).Keeps caller (CodeGuard i)
      (fun own' _ => Matched p (phoneGuess userID phoneNumber code) own')
      (fun own' _ => Recorded (phoneGuess userID phoneNumber code) own') [] := by
  unfold verifyPhoneCode
  simp only [keeps_bind, keeps_refuseIf]
  refine ⟨fun _ => unread_nil.recorded, fun _ => ⟨fun _ => unread_nil.recorded, fun _ => ?_⟩⟩
  refine (refuseCredentialAttach_keeps userID unread_nil).mono (fun own1 _ hunread => ?_) fun _ _ h => h.recorded
  refine ⟨fun _ => hunread.recorded, fun _ => (verifyCode_keeps p hguess hunread).mono (fun own2 _ hmatched => ?_)
    fun _ _ h => h⟩
  refine ⟨codeGuard_clock, fun now => keeps_attemptRequest.mpr ⟨fun _ _ r => touchUser_codes r _ _, fun resp =>
    ⟨fun _ _ => ?_, fun _ _ => ?_⟩⟩⟩
  · simp only [keeps_getUser]
    refine ⟨codeGuard_getUser userID, fun user => ?_⟩
    have hstill := hmatched.mono ((suffix_cons ⟨caller, .clock, now⟩ own2).trans ((suffix_cons
      ⟨caller, .user (.setUserPhoneVerified userID (normalizePhone phoneNumber).1 now), resp⟩ _).trans
      (suffix_cons ⟨caller, .user (.getUser userID), user⟩ _)))
    cases user with
    | none => exact hstill.recorded
    | some user => exact hstill
  · exact (hmatched.mono ((suffix_cons _ _).later)).recorded

end

def CodeResult.succeeded : CodeResult → Bool
  | .verifiedEmail (.ok _) => true
  | .verifiedPhone (.ok _) => true
  | _ => false

/-- What a finished call says about its own steps. -/
@[grind =]
def CodePost (p : Platform) (i : CodeInvocation) (own : Trace) (result : CodeResult) : Prop :=
  ∀ g, i.call.guess = some g → Recorded g own ∧ (result.succeeded = true → Matched p g own)

/-- Every call keeps to the guard, whatever the store answers. -/
lemma CodeInvocation.program_keeps (p : Platform) (i : CodeInvocation) (caller : Nat) :
    (i.program p).Keeps caller (CodeGuard i) (CodePost p i) [] := by
  obtain ⟨settings, call⟩ := i
  cases call with
  | sendEmail email =>
    refine Routine.Keeps.wrap ((sendEmailLoginCodeNow_makes p _ email).keeps (fun _ _ _ h => h.guard) ?_ ?_)
    · exact fun _ _ _ => nofun
    · exact fun _ _ _ => nofun
  | sendPhone userID phoneNumber =>
    refine Routine.Keeps.wrap ((requestPhoneVerification_makes p _ userID phoneNumber).keeps
      (fun _ _ _ h => h.guard) ?_ ?_)
    · exact fun _ _ _ => nofun
    · exact fun _ _ _ => nofun
  | verifyEmail email code =>
    refine Routine.Keeps.wrap ((verifyCode_keeps (g := emailGuess email code) p rfl unread_nil).mono ?_ ?_)
    · rintro own _ hmatched _ ⟨⟩
      exact ⟨hmatched.recorded, fun _ => hmatched⟩
    · rintro own err hrecorded _ ⟨⟩
      exact ⟨hrecorded, nofun⟩
  | verifyPhone userID phoneNumber code =>
    refine Routine.Keeps.wrap ((verifyPhoneCode_keeps p rfl).mono ?_ ?_)
    · rintro own _ hmatched _ ⟨⟩
      exact ⟨hmatched.recorded, fun _ => hmatched⟩
    · rintro own err hrecorded _ ⟨⟩
      exact ⟨hrecorded, nofun⟩

/-- What a step does to the codes of a channel: nothing, or one of the three writes. -/
inductive CodeEffect (channel : CodeChannel) (r : Repo) : Request → Repo → Prop where
  | quiet (q : Request) (r' : Repo) (hseq : r.seq ≤ r'.seq) (hcodes : r'.codes channel = r.codes channel) :
    CodeEffect channel r q r'
  | upsert (rec : OneTimeCodeRecord) :
    CodeEffect channel r (.signIn (.upsertCode channel rec)) (r.upsertCode channel rec).2
  | count (nodeID : String) (c : OneTimeCodeRecord) (hc : (r.codes channel).lookup nodeID = some c) :
    CodeEffect channel r (.signIn (.incrementCodeAttempts channel nodeID))
      (r.setCodes channel ((r.codes channel).insert nodeID { c with attemptCount := c.attemptCount + 1 }))
  | consume (holder : String) (atMs : Int) (c : OneTimeCodeRecord)
    (hc : (r.codes channel).lookup c.nodeID = some c) (hholder : c.holder = holder) :
    CodeEffect channel r (.signIn (.consumeCode channel holder atMs))
      (r.setCodes channel ((r.codes channel).insert c.nodeID { c with consumedAt := atMs }))

/-- A call that has compared found the record itself. -/
lemma Compared.found_own (hcompared : Compared g (Pool.own trace caller) s) :
    (⟨caller, .signIn (.findCode g.channel g.holder), some s⟩ : StoreEvent) ∈ trace := by
  obtain ⟨reader, hfound⟩ := hcompared.found
  obtain ⟨hmem, rfl⟩ := Pool.mem_of_mem_own hfound
  exact hmem

lemma handle_upsertCode (rec : OneTimeCodeRecord) :
    handle p (.signIn (.upsertCode channel rec)) tick r = r.upsertCode channel rec := by
  cases channel <;> rfl

lemma handle_findCode (holder : String) :
    handle p (.signIn (.findCode channel holder)) tick r = (r.findCode channel holder, r) := by
  cases channel <;> rfl

lemma handle_incrementCodeAttempts (p : Platform) (channel : CodeChannel) (r : Repo) (tick : Tick)
    (nodeID : String) : ∃ operation, handle p (.signIn (.incrementCodeAttempts channel nodeID)) tick r =
      r.incrementCodeAttempts channel operation nodeID := by
  cases channel <;> exact ⟨_, rfl⟩

lemma handle_consumeCode (holder : String) (atMs : Int) :
    handle p (.signIn (.consumeCode channel holder atMs)) tick r = r.consumeCode channel holder atMs := by
  cases channel <;> rfl

lemma CodeGuard.effect (hguard : CodeGuard i (Pool.own trace caller) q) (hkept : CodesKept channel r) :
    CodeEffect channel r q (handle p q tick r).2 := by
  unfold CodeGuard at hguard
  split at hguard
  · rename_i other rec
    rw [handle_upsertCode]
    by_cases hother : other = channel
    · subst hother
      exact .upsert rec
    · exact .quiet _ _ (upsertCode_seq other r rec ▸ Nat.le_succ _) (upsertCode_codes_ne channel r rec hother)
  · rw [handle_findCode]
    exact .quiet _ _ le_rfl rfl
  · rename_i other nodeID
    obtain ⟨operation, heq⟩ := handle_incrementCodeAttempts p other r tick nodeID
    rw [heq]
    rcases incrementCodeAttempts_cases other r operation nodeID with ⟨c, hc, heq⟩ | ⟨-, err, heq⟩
    · rw [heq]
      by_cases hother : other = channel
      · subst hother
        exact .count nodeID c hc
      · exact .quiet _ _ (Nat.le_of_eq seq_setCodes.symm) (codes_setCodes_ne hother)
    · rw [heq]
      exact .quiet _ _ le_rfl rfl
  · rename_i other holder atMs
    rw [handle_consumeCode]
    by_cases hother : other = channel
    · subst hother
      rcases hkept.consumeCode_cases holder atMs with ⟨c, hc, hholder, -, heq⟩ | ⟨⟨err, heq⟩, -⟩
      · rw [heq]
        exact .consume holder atMs c hc hholder
      · rw [heq]
        exact .quiet _ _ le_rfl rfl
    · unfold Repo.consumeCode
      split
      · exact .quiet _ _ le_rfl rfl
      split
      · exact .quiet _ _ le_rfl rfl
      · exact .quiet _ _ seq_setCodes.ge (codes_setCodes_ne hother)
  · exact .quiet _ _ (Nat.le_of_eq (hguard p tick r).1.symm) ((hguard p tick r).2 channel)

/-- The steps of the calls keep the codes in order. -/
lemma CodeEffect.kept (heffect : CodeEffect channel r q r') (hkept : CodesKept channel r)
    (hguard : CodeGuard i (Pool.own trace caller) q)
    (hclocked : ∀ reader (now : Int), (⟨reader, .clock, now⟩ : StoreEvent) ∈ trace → 0 < now) :
    CodesKept channel r' ∧ CodeStep channel r r' := by
  cases heffect with
  | quiet q r' hseq hcodes => exact ⟨hkept.of_codes_eq hseq hcodes, .of_codes_eq hseq hcodes⟩
  | upsert rec => exact ⟨hkept.upsertCode (Int.le_of_eq hguard.2.1.symm), upsertCode_step channel r rec⟩
  | count nodeID c hc => exact hkept.rewrite hc (⟨⟨rfl, rfl, rfl, rfl, rfl⟩, Int.le_of_lt (Int.lt_succ _), id⟩)
  | consume holder atMs c hc hholder => grind [hkept.rewrite, CodeGuard]

/-- A record of the channel that a step has shown: it was found, or it was sent. -/
@[grind =]
def Seen (channel : CodeChannel) (trace : Trace) (s : OneTimeCodeRecord) : Prop :=
  (∃ reader holder, (⟨reader, .signIn (.findCode channel holder), some s⟩ : StoreEvent) ∈ trace) ∨
    ∃ sender rec nodeID, (⟨sender, .signIn (.upsertCode channel rec), nodeID⟩ : StoreEvent) ∈ trace ∧
      s = { rec with nodeID := nodeID }

/-- The store accepted the consumption of the record. -/
def Consumes (channel : CodeChannel) (nodeID : String) (event : StoreEvent) : Prop :=
  ∃ consumer holder atMs rec,
    event = ⟨consumer, .signIn (.consumeCode channel holder atMs), .ok rec⟩ ∧ rec.nodeID = nodeID

/-- The record is consumed or gone. -/
@[grind =]
def Spent (channel : CodeChannel) (nodeID : String) (r : Repo) : Prop :=
  Used r nodeID ∧ ∀ c, (r.codes channel).lookup nodeID = some c → c.consumedAt ≠ 0

/-- The store counted an attempt on the record. -/
def counts (channel : CodeChannel) (nodeID : String) (event : StoreEvent) : Bool :=
  match event with
  | ⟨_, .signIn (.incrementCodeAttempts other id), answer⟩ => other = channel && id = nodeID && answer.isOk
  | _ => false

/-- What holds of the codes of a channel and the steps so far, in every run. -/
@[grind]
structure CodeHistory (channel : CodeChannel) (r : Repo) (trace : Trace) : Prop where
  kept : CodesKept channel r
  clocked : ∀ reader (now : Int), (⟨reader, .clock, now⟩ : StoreEvent) ∈ trace → 0 < now
  used : ∀ s, Seen channel trace s → Used r s.nodeID
  same : ∀ s, Seen channel trace s → ∀ c, (r.codes channel).lookup s.nodeID = some c → SameCode s c
  agree : ∀ s s', Seen channel trace s → Seen channel trace s' → s.nodeID = s'.nodeID → SameCode s s'
  holder : ∀ reader holder s,
    (⟨reader, .signIn (.findCode channel holder), some s⟩ : StoreEvent) ∈ trace → s.holder = holder
  spent : ∀ nodeID, Spends (Consumes channel nodeID) (Spent channel nodeID) r trace
  counted : ∀ nodeID c, (r.codes channel).lookup nodeID = some c →
    (trace.countP (counts channel nodeID) : Int) ≤ c.attemptCount
  countedUsed : ∀ nodeID, trace.countP (counts channel nodeID) ≠ 0 → Used r nodeID
  countRead : ∀ writer nodeID answer,
    (⟨writer, .signIn (.incrementCodeAttempts channel nodeID), answer⟩ : StoreEvent) ∈ trace →
    ∃ holder s, (⟨writer, .signIn (.findCode channel holder), some s⟩ : StoreEvent) ∈ trace
  consumeRead : ∀ writer holder atMs answer,
    (⟨writer, .signIn (.consumeCode channel holder atMs), answer⟩ : StoreEvent) ∈ trace →
    (∃ s, (⟨writer, .signIn (.findCode channel holder), some s⟩ : StoreEvent) ∈ trace) ∧
      ∃ reader, (⟨reader, .clock, atMs⟩ : StoreEvent) ∈ trace

lemma not_seen_nil (s : OneTimeCodeRecord) : ¬ Seen channel [] s := by grind

lemma codeHistory_start (hkept : CodesKept channel r) : CodeHistory channel r [] where
  kept := hkept
  clocked := fun _ _ hmem => nomatch hmem
  used := fun s hseen => absurd hseen (not_seen_nil s)
  same := fun s hseen => absurd hseen (not_seen_nil s)
  agree := fun s _ hseen => absurd hseen (not_seen_nil s)
  holder := fun _ _ _ hmem => nomatch hmem
  spent := fun _ => .nil r
  counted := fun nodeID c hc => hkept.counted nodeID c hc
  countedUsed := fun _ hne => absurd rfl hne
  countRead := fun _ _ _ hmem => nomatch hmem
  consumeRead := fun _ _ _ _ hmem => nomatch hmem

/-- A record shown by the last step is in the table after it, and it was there before
    or its name was new. -/
lemma seen_step (hkept : CodesKept channel r) (hseen : Seen channel (⟨caller, q, (handle p q tick r).1⟩ :: trace) s) :
    Seen channel trace s ∨ (((handle p q tick r).2.codes channel).lookup s.nodeID = some s ∧
      ((r.codes channel).lookup s.nodeID = some s ∨ ¬ Used r s.nodeID)) := by
  rcases hseen with ⟨reader, holder, hmem⟩ | ⟨sender, rec, nodeID, hmem, rfl⟩
  · rcases mem_cons.mp hmem with heq | hold
    · obtain ⟨-, rfl, hresp⟩ := mk.inj heq
      rw [handle_findCode] at hresp ⊢
      grind [hkept.found]
    · exact .inl (.inl ⟨reader, holder, hold⟩)
  rcases mem_cons.mp hmem with heq | hold
  · obtain ⟨-, rfl, hresp⟩ := mk.inj heq
    rw [handle_upsertCode] at hresp ⊢
    grind [upsertCode_fst, lookup_upsertCode]
  · exact .inl (.inr ⟨sender, rec, nodeID, hold, rfl⟩)

lemma counts_step (hcounts : counts channel nodeID ⟨caller, q, (handle p q tick r).1⟩ = true) :
    ∃ c, (r.codes channel).lookup nodeID = some c ∧ (handle p q tick r).2 =
      r.setCodes channel ((r.codes channel).insert nodeID { c with attemptCount := c.attemptCount + 1 }) := by
  unfold counts at hcounts
  split at hcounts
  · rename_i other id answer heq
    obtain ⟨-, rfl, hresp⟩ := mk.inj heq
    simp only [Bool.and_eq_true, decide_eq_true_eq] at hcounts
    obtain ⟨⟨rfl, rfl⟩, hok⟩ := hcounts
    obtain ⟨operation, hhandle⟩ := handle_incrementCodeAttempts p other r tick id
    rw [← eq_of_heq hresp, hhandle] at hok
    rw [hhandle]
    rcases incrementCodeAttempts_cases other r operation id with ⟨c, hc, hcase⟩ | ⟨-, err, hcase⟩
    · rw [hcase]
      exact ⟨c, hc, rfl⟩
    · rw [hcase] at hok
      cases hok
  · cases hcounts

/-- A consume that is accepted finds its record unspent. -/
lemma consumes_step (hkept : CodesKept channel r)
    (hconsumes : Consumes channel nodeID ⟨caller, q, (handle p q tick r).1⟩) :
    ¬ Spent channel nodeID r ∧ ∃ c atMs, (r.codes channel).lookup nodeID = some c ∧ (∃ holder, q =
      .signIn (.consumeCode channel holder atMs)) ∧ (handle p q tick r).2 =
        r.setCodes channel ((r.codes channel).insert nodeID { c with consumedAt := atMs }) := by
  obtain ⟨consumer, holder, atMs, rec, heq, rfl⟩ := hconsumes
  obtain ⟨-, rfl, hresp⟩ := mk.inj heq
  rw [handle_consumeCode] at hresp ⊢
  rcases hkept.consumeCode_cases holder atMs with ⟨c, hc, -, hunconsumed, hcase⟩ | ⟨⟨err, hcase⟩, -⟩
  · grind
  · rw [hcase] at hresp
    cases eq_of_heq hresp

section
variable (hhistory : CodeHistory channel r trace)
include hhistory

lemma CodeHistory.agree_step (hseen : Seen channel (⟨caller, q, (handle p q tick r).1⟩ :: trace) s)
    (hseen' : Seen channel (⟨caller, q, (handle p q tick r).1⟩ :: trace) s') (hname : s.nodeID = s'.nodeID) :
    SameCode s s' := by
  -- a record shown now is the row an earlier one of the same name was about
  have hnew : ∀ {s s' : OneTimeCodeRecord}, Seen channel trace s → s.nodeID = s'.nodeID →
      (r.codes channel).lookup s'.nodeID = some s' ∨ ¬ Used r s'.nodeID → SameCode s s' := by
    intro s s' hold hname hrow
    rcases hrow with hrow | hnew
    · exact hhistory.same s hold s' (hname ▸ hrow)
    · exact absurd (hname ▸ hhistory.used s hold) hnew
  rcases seen_step hhistory.kept hseen with hold | ⟨hafter, hrow⟩
  · grind [seen_step]
  · grind [seen_step]

lemma CodeHistory.spent_step
    (hguard : CodeGuard i (Pool.own trace caller) q) (hstep : CodeStep channel r (handle p q tick r).2)
    (hconsumes : Consumes channel nodeID ⟨caller, q, (handle p q tick r).1⟩) :
    ¬ Spent channel nodeID r ∧ Spent channel nodeID (handle p q tick r).2 := by
  obtain ⟨hunspent, c, atMs, hc, ⟨holder, rfl⟩, hafter⟩ := consumes_step hhistory.kept hconsumes
  obtain ⟨g, s, reader, -, -, -, -, hclock⟩ := hguard
  have hpos := hhistory.clocked reader atMs (Pool.mem_trace hclock)
  refine ⟨hunspent, hstep.used (hhistory.kept.used nodeID c hc), fun c' hc' => ?_⟩
  rw [hafter, codes_setCodes, AList.lookup_insert] at hc'
  cases hc'
  exact Int.ne_of_gt hpos

lemma CodeHistory.counted_step
    (hkept : CodesKept channel (handle p q tick r).2) (hstep : CodeStep channel r (handle p q tick r).2)
    (hc' : ((handle p q tick r).2.codes channel).lookup nodeID = some c') :
    ((⟨caller, q, (handle p q tick r).1⟩ :: trace).countP (counts channel nodeID) : Int) ≤ c'.attemptCount := by
  by_cases hcounts : counts channel nodeID ⟨caller, q, (handle p q tick r).1⟩ = true
  · grind [counts_step, codes_setCodes]
  · grind

/-- One step of any call keeps the history. -/
lemma CodeHistory.step (hguard : CodeGuard i (Pool.own trace caller) q) (tick : Tick) :
    CodeHistory channel (handle p q tick r).2 (⟨caller, q, (handle p q tick r).1⟩ :: trace) := by
  have heffect : CodeEffect channel r q (handle p q tick r).2 := hguard.effect hhistory.kept
  obtain ⟨hkept, hstep⟩ := heffect.kept hhistory.kept hguard hhistory.clocked
  refine ⟨hkept, ?_, ?_, ?_, ?_, ?_, ?_, ?_, ?_, ?_, ?_⟩
  · intro reader now hmem
    rcases mem_cons.mp hmem with heq | hold
    · obtain ⟨-, rfl, hresp⟩ := mk.inj heq
      rw [eq_of_heq hresp]
      exact tick.pos
    · exact hhistory.clocked reader now hold
  · grind [seen_step]
  · intro s hseen
    rcases seen_step hhistory.kept hseen with hold | ⟨hrow, -⟩
    · exact hstep.stays (hhistory.used s hold) (fun _ _ hmove hsame => hsame.trans hmove.same) (hhistory.same s hold)
    intro c hc
    rw [hrow] at hc
    cases hc
    exact .refl s
  · grind [hhistory.agree_step]
  · intro reader holder s hmem
    rcases mem_cons.mp hmem with heq | hold
    · obtain ⟨-, rfl, hresp⟩ := mk.inj heq
      rw [handle_findCode] at hresp
      exact (hhistory.kept.found (eq_of_heq hresp).symm).2
    · exact hhistory.holder reader holder s hold
  · intro nodeID
    refine (hhistory.spent nodeID).cons ?_ fun hconsumes => ?_
    · exact fun hspent => ⟨hstep.used hspent.1, hstep.stays hspent.1 (fun _ _ hmove => hmove.consumed) hspent.2⟩
    · exact hhistory.spent_step hguard hstep hconsumes
  · exact fun nodeID c hc => hhistory.counted_step hkept hstep hc
  · grind [counts_step]
  · intro writer nodeID answer hmem
    rcases mem_cons.mp hmem with heq | hold
    · obtain ⟨rfl, rfl, -⟩ := mk.inj heq
      obtain ⟨g, s, -, rfl, hcompared, -⟩ := hguard
      exact ⟨g.holder, s, .tail _ hcompared.found_own⟩
    · grind
  intro writer holder atMs answer hmem
  rcases mem_cons.mp hmem with heq | hold
  · obtain ⟨rfl, rfl, -⟩ := mk.inj heq
    obtain ⟨g, s, reader, -, rfl, rfl, hcompared, hclock⟩ := hguard
    exact ⟨⟨s, .tail _ hcompared.found_own⟩, reader, .tail _ (Pool.mem_trace hclock)⟩
  · grind

end
end identity.service
