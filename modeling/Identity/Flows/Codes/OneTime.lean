import Identity.Flows.Codes.Attempts
import Identity.Repository.Delegation

open identity.repository identity.memory
namespace identity.service
open Pool

/-- A verify call for the holder returned success. -/
def Verified (calls : List CodeInvocation) (channel : CodeChannel) (holder : String) (pool : CodePool) (caller : Nat)
    (code : String) : Prop :=
  ∃ i g result, calls[caller]? = some i ∧ i.call.guess = some g ∧ g.channel = channel ∧ g.holder = holder ∧
    g.code = code ∧ pool.result caller = some result ∧ result.succeeded = true

lemma positiveOr_pos {configured default : Int} (hdefault : 0 < default) : 0 < positiveOr configured default := by
  unfold positiveOr
  split
  · assumption
  · exact hdefault

lemma CodeInvocation.maxAttempts_pos (i : CodeInvocation) (channel : CodeChannel) : 0 < i.maxAttempts channel := by
  cases channel with
  | email | phone => exact positiveOr_pos (by decide)

section
variable {p : Platform} {calls : List CodeInvocation}
variable (p calls channel) in
/-- A moment of a run of the calls. -/
structure CodeMoment (pool : CodePool) : Prop where
  keep : pool.Keep (CodeCallsGuard calls) (CodeCallsPost p calls)
  history : CodeHistory channel pool.store pool.trace
  sent : ∀ sender rec nodeID, (⟨sender, .signIn (.upsertCode channel rec), nodeID⟩ : StoreEvent) ∈ pool.trace →
    ∃ i, calls[sender]? = some i ∧ rec.maxAttempts = i.maxAttempts channel

lemma codeMoment_start (hkept : CodesKept channel r) :
    CodeMoment p calls channel (start r (calls.map fun i => i.program p)) where
  keep := by
    have hkeeps : ∀ (i : CodeInvocation) (caller : Nat), (i.program p).Keeps caller (CodeGuard i) (CodePost p i) [] :=
      fun i caller => i.program_keeps p caller
    exact keep_start hkeeps r
  history := codeHistory_start hkept
  sent := fun _ _ _ hmem => nomatch hmem

section
variable (hmoment : CodeMoment p calls channel pool)
include hmoment

lemma CodeMoment.step (hcall : pool.Awaits caller q next)
    (tick : Tick) : CodeMoment p calls channel (pool.step (handle p) caller tick) := by
  obtain ⟨i, hi, hguard⟩ := (hmoment.keep caller _ hcall).1
  refine ⟨hmoment.keep.step caller tick, ?_, ?_⟩
  all_goals rw [step_request hcall]
  · exact hmoment.history.step hguard tick
  intro sender rec nodeID hmem
  rcases List.mem_cons.mp hmem with heq | hold
  · obtain ⟨rfl, rfl, -⟩ := Event.mk.inj heq
    exact ⟨i, hi, hguard.2.2⟩
  · exact hmoment.sent sender rec nodeID hold

/-- A successful call has compared its guess with a record and has consumed one. -/
lemma CodeMoment.consumed (hverified : Verified calls channel holder pool caller code) :
    ∃ s atMs rec, ComparedBy calls channel holder pool caller s ∧ s.codeHash = p.sha256Hex code ∧
      (⟨caller, .signIn (.consumeCode channel holder atMs), .ok rec⟩ : StoreEvent) ∈ pool.trace := by
  obtain ⟨i, g, result, hi, hguess, rfl, rfl, rfl, hresult, hsucceeded⟩ := hverified
  obtain ⟨i', hi', hpost⟩ := hmoment.keep.result hresult
  rw [hi] at hi'
  cases hi'
  obtain ⟨s, consumer, atMs, rec, hcompared, hhash, hconsumed⟩ := (hpost g hguess).2 hsucceeded
  obtain ⟨hstep, rfl⟩ := mem_of_mem_own hconsumed
  exact ⟨s, atMs, rec, ⟨i, g, hi, hguess, rfl, rfl, hcompared⟩, hhash, hstep⟩

section
variable (hwindows : WindowsKept channel holder pool)
include hwindows

/-- While sends keep apart from running verify calls, each of those writes to the
    record it has read. -/
lemma CodeMoment.run_apart
    (schedule : List (Nat × Tick)) (hapart : Pool.Along (handle p) (SendsApart channel holder) pool schedule) :
    CodeMoment p calls channel (pool.run (handle p) schedule) ∧
      WindowsKept channel holder (pool.run (handle p) schedule) := by
  refine along_invariant (fun pool caller tick q next (hinv : CodeMoment p calls channel pool ∧
    WindowsKept channel holder pool) hcall _ hguard hcond => ?_) hmoment.keep ⟨hmoment, hwindows⟩ schedule hapart
  obtain ⟨i, -, hguard⟩ := hguard
  exact ⟨hinv.1.step hcall tick, hinv.2.step hinv.1.history hcall hguard hcond⟩

lemma CodeMoment.run_exclusive (hattempts : AttemptsKept calls channel holder pool) (schedule : List (Nat × Tick))
    (hexclusive : Pool.Along (handle p) (WindowsExclusive channel holder) pool schedule) :
    AttemptsKept calls channel holder (pool.run (handle p) schedule) := by
  have hrun := along_invariant (fun pool caller tick q next (hinv : CodeMoment p calls channel pool ∧
    WindowsKept channel holder pool ∧ AttemptsKept calls channel holder pool) hcall _ hguard hcond => ?_)
    hmoment.keep ⟨hmoment, hwindows, hattempts⟩ schedule hexclusive
  · exact hrun.2.2
  obtain ⟨hmoment, hwindows, hattempts⟩ := hinv
  obtain ⟨hapart, halone, hforward⟩ := hcond
  obtain ⟨i, -, hguard⟩ := hguard
  refine ⟨hmoment.step hcall tick, hwindows.step hmoment.history hcall hguard hapart, ?_, ?_, ?_⟩
  · exact fun caller₁ caller₂ => hattempts.alone_step hcall halone
  · exact fun reader s before => hattempts.fresh_step hmoment.history hcall hguard hapart
  · exact fun nodeID max callers => hattempts.bounded_step hwindows hmoment.history hmoment.keep hcall hforward

section
variable (hverified : Verified calls channel holder pool caller code)
include hverified

/-- A successful call consumed the record it compared its guess with. -/
lemma CodeMoment.verified :
    ∃ s atMs rec, ComparedBy calls channel holder pool caller s ∧ SameCode s rec ∧ s.codeHash = p.sha256Hex code ∧
      (⟨caller, .signIn (.consumeCode channel holder atMs), .ok rec⟩ : StoreEvent) ∈ pool.trace := by
  obtain ⟨s, atMs, rec, hby, hhash, hstep⟩ := hmoment.consumed hverified
  obtain ⟨i, g, -, -, rfl, rfl, hcompared⟩ := id hby
  exact ⟨s, atMs, rec, hby, hwindows.consumes caller atMs rec s hstep hcompared.found_own, hhash, hstep⟩

/-- The record a call has compared with is the one it has consumed. -/
lemma CodeMoment.consumed_compared (hcompared : ComparedBy calls channel holder pool caller s) :
    ∃ event ∈ pool.trace, event.caller = caller ∧ Consumes channel s.nodeID event := by
  obtain ⟨-, atMs, rec, -, -, -, hconsumed⟩ := hmoment.verified hwindows hverified
  obtain ⟨i, g, -, -, rfl, rfl, hcompared⟩ := hcompared
  have hsame := hwindows.consumes caller atMs rec s hconsumed hcompared.found_own
  exact ⟨_, hconsumed, rfl, caller, _, atMs, rec, rfl, hsame.nodeID⟩

end

lemma CodeMoment.verified_once (hverified1 : Verified calls channel holder pool caller₁ code₁)
    (hverified2 : Verified calls channel holder pool caller₂ code₂)
    (hcompared1 : ComparedBy calls channel holder pool caller₁ s₁)
    (hcompared2 : ComparedBy calls channel holder pool caller₂ s₂) (hname : s₁.nodeID = s₂.nodeID) :
    caller₁ = caller₂ := by
  obtain ⟨event1, hmem1, rfl, hconsumes1⟩ := hmoment.consumed_compared hwindows hverified1 hcompared1
  obtain ⟨event2, hmem2, rfl, hconsumes2⟩ := hmoment.consumed_compared hwindows hverified2 hcompared2
  rw [hname] at hconsumes1
  exact (hmoment.history.spent s₂.nodeID).once event1 hmem1 event2 hmem2 hconsumes1 hconsumes2

end

/-- A call that compares against a sent record sees the maximum it was sent with. -/
lemma CodeMoment.sent_max {rec s : OneTimeCodeRecord}
    (hsent : (⟨sender, .signIn (.upsertCode channel rec), nodeID⟩ : StoreEvent) ∈ pool.trace)
    (hby : ComparedBy calls channel holder pool caller s) (hname : s.nodeID = nodeID) :
    s.maxAttempts = rec.maxAttempts := by
  obtain ⟨i, g, -, -, rfl, rfl, hcompared⟩ := hby
  have hseen : Seen g.channel pool.trace s := .inl ⟨caller, g.holder, hcompared.found_own⟩
  have hseen' : Seen g.channel pool.trace { rec with nodeID := nodeID } := .inr ⟨sender, rec, nodeID, hsent, rfl⟩
  exact (hmoment.history.agree _ _ hseen' hseen hname.symm).maxAttempts

end
end

/-- Codes are single-use and their guesses bounded, in every interleaving in which the
    windows of the verify calls on the holder's code are exclusive: a call succeeds
    only by consuming the record of the code it presents, each record makes one call
    succeed at most, and the guesses compared against a sent code stay within the
    maximum its send was configured with. -/
theorem one_time_codes (p : Platform) (r : Repo) (channel : CodeChannel) (holder : String)
    (hkept : CodesKept channel r) (calls : List CodeInvocation) (schedule : List (Nat × Tick))
    (hexclusive : Pool.Along (handle p) (WindowsExclusive channel holder)
      (Pool.start r (calls.map fun i => i.program p)) schedule) :
    let pool := (Pool.start r (calls.map fun i => i.program p)).run (handle p) schedule
    (∀ caller code, Verified calls channel holder pool caller code → ∃ atMs rec,
      (⟨caller, .signIn (.consumeCode channel holder atMs), .ok rec⟩ : Event Request.Response) ∈ pool.trace ∧
        rec.codeHash = p.sha256Hex code) ∧
    (∀ caller₁ caller₂ code₁ code₂ s₁ s₂, Verified calls channel holder pool caller₁ code₁ →
      Verified calls channel holder pool caller₂ code₂ → ComparedBy calls channel holder pool caller₁ s₁ →
      ComparedBy calls channel holder pool caller₂ s₂ → s₁.nodeID = s₂.nodeID → caller₁ = caller₂) ∧
    (∀ sender i rec nodeID, calls[sender]? = some i →
      (⟨sender, .signIn (.upsertCode channel rec), nodeID⟩ : Event Request.Response) ∈ pool.trace →
      ∀ callers : List Nat, callers.Nodup →
        (∀ caller ∈ callers, ∃ s, ComparedBy calls channel holder pool caller s ∧ s.nodeID = nodeID) →
        (callers.length : Int) ≤ i.maxAttempts channel) := by
  have hstart : CodeMoment p calls channel (start r (calls.map fun i => i.program p)) := codeMoment_start hkept
  have hwindows := windowsKept_start channel holder r (calls.map fun i => i.program p)
  obtain ⟨hmoment, hafter⟩ := hstart.run_apart hwindows schedule (hexclusive.mono fun _ _ _ _ hcond => hcond.1)
  have hattempts := hstart.run_exclusive hwindows (attemptsKept_start calls channel holder r _) schedule hexclusive
  refine ⟨?_, ?_, ?_⟩
  · intro caller code hverified
    obtain ⟨s, atMs, rec, -, hsame, hhash, hconsumed⟩ := hmoment.verified hafter hverified
    exact ⟨atMs, rec, hconsumed, hsame.codeHash.trans hhash⟩
  · grind [hmoment.verified_once]
  intro sender i rec nodeID hi hsent callers hnodup hcompared
  obtain ⟨i', hi', hmax⟩ := hmoment.sent sender rec nodeID hsent
  refine hattempts.bounded nodeID _ callers (i.maxAttempts_pos channel) hnodup fun caller hcaller => ?_
  grind [hmoment.sent_max]

/-- The name of the record that a send of the channel has stored. -/
def sentName (channel : CodeChannel) : StoreEvent → Option String
  | ⟨_, .signIn (.upsertCode other _), nodeID⟩ => if other = channel then some nodeID else none
  | _ => none

/-- The records of a run: those it began with, and one for each send. -/
def codeNames (channel : CodeChannel) (first : Repo) (trace : Trace) : List String :=
  (first.codes channel).keys ++ trace.filterMap (sentName channel)

/-- The table holds records of the run and nothing else, and only those were consumed. -/
structure CodesNamed (channel : CodeChannel) (first r : Repo) (trace : Trace) : Prop where
  rows : ∀ nodeID c, (r.codes channel).lookup nodeID = some c → nodeID ∈ codeNames channel first trace
  consumed : ∀ nodeID, ∀ event ∈ trace, Consumes channel nodeID event → nodeID ∈ codeNames channel first trace

lemma codesNamed_start (channel : CodeChannel) (r : Repo) : CodesNamed channel r r [] where
  rows _ _ hc := List.mem_append_left _ (AList.mem_keys.mpr (AList.lookup_isSome.mp (Option.isSome_of_mem hc)))
  consumed _ _ hmem := nomatch hmem

lemma codeNames_subset_cons (channel : CodeChannel) (first : Repo) (event : StoreEvent) (trace : Trace) :
    codeNames channel first trace ⊆ codeNames channel first (event :: trace) :=
  (((List.sublist_cons_self event trace).filterMap _).append_left _).subset

/-- Only a send adds a row, under the name it answers. -/
lemma CodesNamed.step {channel : CodeChannel} {first r : Repo} {trace : Trace}
    (hnamed : CodesNamed channel first r trace) (hkept : CodesKept channel r)
    (hguard : CodeGuard i (Pool.own trace caller) q) (tick : Tick) :
    CodesNamed channel first (handle p q tick r).2 (⟨caller, q, (handle p q tick r).1⟩ :: trace) := by
  have hlater := codeNames_subset_cons channel first ⟨caller, q, (handle p q tick r).1⟩ trace
  refine ⟨fun nodeID c hc => ?_, fun nodeID event hmem hconsumes => ?_⟩
  · by_cases hrow : ∃ c, (r.codes channel).lookup nodeID = some c
    · obtain ⟨c, hrow⟩ := hrow
      exact hlater (hnamed.rows nodeID c hrow)
    have heffect : CodeEffect channel r q (handle p q tick r).2 := hguard.effect hkept
    generalize hafter : (handle p q tick r).2 = r' at heffect hc
    cases heffect with
    | quiet _ _ hseq hcodes => exact absurd ⟨c, hcodes ▸ hc⟩ hrow
    | upsert rec =>
      rcases lookup_upsertCode.mp hc with ⟨rfl, -⟩ | ⟨-, hold, -⟩
      · rw [handle_upsertCode, upsertCode_fst, codeNames]
        simp [sentName]
      · exact absurd ⟨c, hold⟩ hrow
    | count id c' hc' => grind [codes_setCodes]
    | consume holder atMs c' hc' => grind [codes_setCodes]
  · rcases List.mem_cons.mp hmem with rfl | hold
    · obtain ⟨-, c, -, hc, -⟩ := consumes_step hkept hconsumes
      exact hlater (hnamed.rows nodeID c hc)
    · exact hlater (hnamed.consumed nodeID event hold hconsumes)

/-- Whatever the interleaving, a verify call that succeeds has consumed a record of its
    holder's code, and two calls never consume the same record: there are at most as many
    successful verifications as records. Nothing is assumed of how the calls overlap. -/
theorem codes_consumed_once (p : Platform) (channel : CodeChannel) (store : { r : Repo // CodesKept channel r })
    (calls : List CodeInvocation) (schedule : List (Nat × Tick)) :
    let pool := (start store.1 (calls.map fun i => i.program p)).run (handle p) schedule
    (∀ caller holder code, Verified calls channel holder pool caller code → ∃ atMs rec,
      (⟨caller, .signIn (.consumeCode channel holder atMs), .ok rec⟩ : StoreEvent) ∈ pool.trace) ∧
    (∀ nodeID, ∀ first ∈ pool.trace, ∀ second ∈ pool.trace, Consumes channel nodeID first →
      Consumes channel nodeID second → first.caller = second.caller) ∧
    ∀ callers : List Nat, callers.Nodup →
      (∀ caller ∈ callers, ∃ holder code, Verified calls channel holder pool caller code) →
      callers.length ≤ (codeNames channel store.1 pool.trace).length := by
  intro pool
  obtain ⟨hmoment, hnamed⟩ : CodeMoment p calls channel pool ∧ CodesNamed channel store.1 pool.store pool.trace := by
    have hstart : CodeMoment p calls channel (start store.1 (calls.map fun i => i.program p)) :=
      codeMoment_start store.2
    refine along_invariant (fun pool caller tick q next (hinv : CodeMoment p calls channel pool ∧
      CodesNamed channel store.1 pool.store pool.trace) hcall _ hguard _ => ⟨hinv.1.step hcall tick, ?_⟩) hstart.keep
      ⟨hstart, codesNamed_start channel store.1⟩ schedule (along_of_forall (fun _ _ _ _ => trivial) _ _)
    obtain ⟨i, -, hguard⟩ := hguard
    rw [step_request hcall]
    exact hinv.2.step hinv.1.history.kept hguard tick
  have honce := fun nodeID => (hmoment.history.spent nodeID).once
  refine ⟨fun caller holder code hverified => ?_, honce, fun callers hnodup hverified => ?_⟩
  · obtain ⟨-, atMs, rec, -, -, hstep⟩ := hmoment.consumed hverified
    exact ⟨atMs, rec, hstep⟩
  -- each caller is sent to the record it has consumed
  have hrecord : ∀ caller ∈ callers, ∃ nodeID, ∃ event ∈ pool.trace, event.caller = caller ∧
      Consumes channel nodeID event := by
    intro caller hcaller
    obtain ⟨holder, code, hsuccess⟩ := hverified caller hcaller
    obtain ⟨-, atMs, rec, -, -, hmem⟩ := hmoment.consumed hsuccess
    exact ⟨rec.nodeID, _, hmem, rfl, caller, holder, atMs, rec, rfl, rfl⟩
  choose! record hevent using hrecord
  have hdistinct : (callers.map record).Nodup := by
    refine hnodup.map_on fun caller hcaller caller' hcaller' hsame => ?_
    obtain ⟨event, hmem, rfl, hconsumes⟩ := hevent caller hcaller
    obtain ⟨event', hmem', rfl, hconsumes'⟩ := hevent caller' hcaller'
    exact honce _ event hmem event' hmem' hconsumes (hsame ▸ hconsumes')
  have hsubset : callers.map record ⊆ codeNames channel store.1 pool.trace := by
    intro nodeID hmem
    obtain ⟨caller, hcaller, rfl⟩ := List.mem_map.mp hmem
    obtain ⟨event, hmem, -, hconsumes⟩ := hevent caller hcaller
    exact hnamed.consumed _ event hmem hconsumes
  simpa using hdistinct.length_le_of_subset hsubset

/-- A platform whose digests can be told apart. -/
def sampleDigestPlatform : Platform := { samplePlatform with sha256Hex := fun text => text }

def sampleCodeService (maxAttempts : Int) : CodeService where
  cfg := ⟨0, maxAttempts, 0, 0, false⟩
  emailThrottleAllows _ _ := true
  phoneThrottleAllows _ _ := true
  blocksChildFor _ := false
  smsSend _ _ := .ok ()

/-- Two sends to one address and three guesses. -/
def sampleCodeCalls (maxAttempts : Int) : List CodeInvocation :=
  [⟨sampleCodeService maxAttempts, .sendEmail "a@b.example"⟩,
    ⟨sampleCodeService maxAttempts, .sendEmail "a@b.example"⟩,
   ⟨sampleCodeService maxAttempts, .verifyEmail "a@b.example" "000000"⟩,
   ⟨sampleCodeService maxAttempts, .verifyEmail "a@b.example" "111111"⟩,
   ⟨sampleCodeService maxAttempts, .verifyEmail "a@b.example" "111111"⟩]

def codeTurns (caller steps : Nat) (rand : String) : List (Nat × Tick) :=
  List.replicate steps (caller, ⟨20, sampleTick.pos, rand⟩)

def sampleCodeRun (maxAttempts : Int) (schedule : List (Nat × Tick)) : CodePool :=
  (Pool.start new ((sampleCodeCalls maxAttempts).map fun i => i.program sampleDigestPlatform)).run
    (handle sampleDigestPlatform) schedule

lemma new_codesKept (channel : CodeChannel) : CodesKept channel new := by
  have hnone : ∀ key, (new.codes channel).lookup key = none := by
    intro key
    cases channel <;> exact AList.lookup_empty key
  constructor
  all_goals simp [hnone]

/-- A send, a wrong guess, a right one, and the right one once more. -/
def sampleCodeSequence : List (Nat × Tick) :=
  codeTurns 0 4 "111111" ++ codeTurns 2 3 "" ++ codeTurns 3 4 "" ++ codeTurns 4 4 ""

/-- Both right guesses read the first code and the first of them consumes it; a resend
    replaces it before the second one consumes. -/
def sampleCodeRace : List (Nat × Tick) :=
  codeTurns 0 4 "111111" ++ codeTurns 3 2 "" ++ codeTurns 4 2 "" ++ codeTurns 3 2 "" ++ codeTurns 1 4 "222222" ++
    codeTurns 4 2 ""

def sampleCodeRecord (maxAttempts : Int) : OneTimeCodeRecord where
  nodeID := "mem-1"
  holder := "a@b.example"
  codeHash := "111111"
  expiresAt := 300020
  createdAt := 20
  maxAttempts := maxAttempts

/-- The calls one after the other: the right guess succeeds on the record it was made
    for, and two guesses were compared, within the maximum of five. -/
theorem one_time_codes_sequential :
    Verified (sampleCodeCalls 5) .email "a@b.example" (sampleCodeRun 5 sampleCodeSequence) 3 "111111" ∧
      (∃ atMs rec, (⟨3, .signIn (.consumeCode .email "a@b.example" atMs), .ok rec⟩ : Event Request.Response) ∈
        (sampleCodeRun 5 sampleCodeSequence).trace ∧ rec.codeHash = "111111") ∧
      ¬ Verified (sampleCodeCalls 5) .email "a@b.example" (sampleCodeRun 5 sampleCodeSequence) 4 "111111" := by
  obtain ⟨hconsumes, -, -⟩ := one_time_codes sampleDigestPlatform new .email "a@b.example" (new_codesKept .email)
    (sampleCodeCalls 5) sampleCodeSequence (by decide +kernel)
  have hverified : Verified (sampleCodeCalls 5) .email "a@b.example" (sampleCodeRun 5 sampleCodeSequence) 3 "111111" :=
    ⟨_, _, _, rfl, rfl, rfl, rfl, rfl, rfl, rfl⟩
  refine ⟨hverified, hconsumes 3 "111111" hverified, ?_⟩
  rintro ⟨i, g, result, -, -, -, -, -, hresult, hsucceeded⟩
  cases hresult
  cases hsucceeded

/-- With a maximum of one, two calls present the first code, both compare it and both
    succeed, the second by consuming the code sent after it. -/
theorem one_time_codes_race :
    Verified (sampleCodeCalls 1) .email "a@b.example" (sampleCodeRun 1 sampleCodeRace) 3 "111111" ∧
      Verified (sampleCodeCalls 1) .email "a@b.example" (sampleCodeRun 1 sampleCodeRace) 4 "111111" ∧
      ComparedBy (sampleCodeCalls 1) .email "a@b.example" (sampleCodeRun 1 sampleCodeRace) 3 (sampleCodeRecord 1) ∧
      ComparedBy (sampleCodeCalls 1) .email "a@b.example" (sampleCodeRun 1 sampleCodeRace) 4 (sampleCodeRecord 1) ∧
      ∃ rec, (⟨4, .signIn (.consumeCode .email "a@b.example" 20), .ok rec⟩ : Event Request.Response) ∈
        (sampleCodeRun 1 sampleCodeRace).trace ∧ rec.codeHash = "222222" := by
  refine ⟨⟨_, _, _, rfl, rfl, rfl, rfl, rfl, rfl, rfl⟩, ⟨_, _, _, rfl, rfl, rfl, rfl, rfl, rfl, rfl⟩, ?_, ?_,
    _, .head _, rfl⟩
  · exact ⟨_, _, rfl, rfl, rfl, rfl, 3, (20 : Int), [], (List.suffix_cons _ _).later,
      rfl, by decide, rfl, fun _ => by decide⟩
  · exact ⟨_, _, rfl, rfl, rfl, rfl, 4, (20 : Int), [], (List.suffix_cons _ _).later,
      rfl, by decide, rfl, fun _ => by decide⟩

end identity.service
