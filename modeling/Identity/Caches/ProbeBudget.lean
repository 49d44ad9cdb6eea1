import Mathlib.Data.Finset.Card
import Mathlib.Algebra.Order.Ring.Int
import Identity.GoMap.Basic
import Identity.Interleaving.Condition
import Identity.Service.Errors

/-! `internal/service`: the budget of answers that tell a client address a username is taken. -/

namespace identity.service
open List AList

structure ProbeWindow where
  startMs : Int
  count : Int
deriving DecidableEq

/-- The settings of a budget; what the addresses have spent is the state. -/
structure ProbeBudget where
  windowMs : Int
  limit : Int

abbrev ProbeSpent := GoMap String ProbeWindow

def probeBudgetMaxSize : Nat := 100000

namespace ProbeBudget
variable (b : ProbeBudget)

def disabled (ip : String) : Bool := decide (b.windowMs ≤ 0) || decide (b.limit ≤ 0) || ip == ""

/-- Expired windows go; if none has, the entry that a loop over the map comes to first. -/
def evictLocked (nowMs : Int) (victim : Nat) (spent : ProbeSpent) : ProbeSpent :=
  let live := spent.keep fun w => nowMs - w.startMs < b.windowMs
  if live.keys.length < probeBudgetMaxSize then live
  else
    match live.keys[victim % live.keys.length]? with
    | some ip => live.erase ip
    | none => live

/-- The window a unit is taken from. -/
def window (ip : String) (nowMs : Int) (spent : ProbeSpent) : ProbeWindow :=
  match spent.lookup ip with
  | some w => if nowMs - w.startMs ≥ b.windowMs then ⟨nowMs, 0⟩ else w
  | none => ⟨nowMs, 0⟩

def reserve (ip : String) (nowMs : Int) (victim : Nat) (spent : ProbeSpent) : Bool × ProbeSpent :=
  if b.disabled ip then (true, spent)
  else
    let w := b.window ip nowMs spent
    let roomy :=
      if spent.lookup ip = none ∧ spent.keys.length ≥ probeBudgetMaxSize then b.evictLocked nowMs victim spent
        else spent
    if w.count ≥ b.limit then (false, roomy) else (true, roomy.insert ip { w with count := w.count + 1 })

def refund (ip : String) (nowMs : Int) (spent : ProbeSpent) : ProbeSpent :=
  if b.disabled ip then spent
  else
    match spent.lookup ip with
    | some w =>
      if nowMs - w.startMs < b.windowMs ∧ 0 < w.count then spent.insert ip { w with count := w.count - 1 } else spent
    | none => spent

end ProbeBudget

/-- What a step meets: the time, the entry that a loop over the map comes to first, and the
    answers of what the budget does not know of. -/
structure SignupMoment where
  now : Int
  victim : Nat := 0
  allowed : Bool := true
  existing : Except String Bool := .ok false
  hashed : Except String Unit := .ok ()
  created : Except Err Unit := .ok ()
  issued : Except String Unit := .ok ()

inductive SignupRequest where
  | clock
  | reserve (ip : String) (nowMs : Int)
  | refund (ip : String) (nowMs : Int)
  | allow (username : String)
  | findUserByUsername (username : String)
  | hash
  | createUser (username : String)
  | issueTokens
deriving DecidableEq

/-- A reservation is also told the start of the address's window, which no call looks at. -/
def SignupRequest.Response : SignupRequest → Type
  | clock => Int
  | reserve _ _ => Bool × Option Int
  | refund _ _ => Unit
  | allow _ => Bool
  | findUserByUsername _ => Except String Bool
  | hash => Except String Unit
  | createUser _ => Except Err Unit
  | issueTokens => Except String Unit

def ProbeBudget.handle (b : ProbeBudget) : Handler SignupRequest.Response SignupMoment ProbeSpent
  | .clock, m, spent => (m.now, spent)
  | .reserve ip nowMs, m, spent =>
    let out := b.reserve ip nowMs m.victim spent
    ((out.1, if b.disabled ip then none else (out.2.lookup ip).map ProbeWindow.startMs), out.2)
  | .refund ip nowMs, _, spent => ((), b.refund ip nowMs spent)
  | .allow _, m, spent => (m.allowed, spent)
  | .findUserByUsername _, m, spent => (m.existing, spent)
  | .hash, m, spent => (m.hashed, spent)
  | .createUser _, m, spent => (m.created, spent)
  | .issueTokens, m, spent => (m.issued, spent)

abbrev SignupCall (α : Type) := Call SignupRequest.Response α

abbrev SignupEvent := Event SignupRequest.Response

abbrev SignupPool := Pool SignupRequest.Response ProbeSpent (Except Err Unit)

/-- A call's address, and what the checks before the budget answer: a refusal, or the
    normalized username. -/
structure SignupInput where
  ipAddr : String
  admitted : Except Err String

def usernameTaken (username : String) :
    Err := .wrapped .alreadyExists ("username \"" ++ username ++ "\" is already taken")

/-- What follows a reservation: whether the answer revealed something, and the answer. -/
def signUpReserved (username : String) : SignupCall (Bool × Except Err Unit) := do
  let allowed : Bool ← Call.ask (SignupRequest.allow username)
  if allowed then
    match ← Call.ask (SignupRequest.findUserByUsername username) with
    | .error err => return (false, .error (.text err))
    | .ok true => return (true, .error (usernameTaken username))
    | .ok false =>
      match ← Call.ask SignupRequest.hash with
      | .error err => return (false, .error (.text err))
      | .ok () =>
        match ← Call.ask (SignupRequest.createUser username) with
        | .error err =>
          if err.is .alreadyExists then return (true, .error (usernameTaken username)) else return (false, .error err)
        | .ok () => return (false, (← Call.ask SignupRequest.issueTokens).mapError .text)
  else return (false, .error (.sentinel .signupThrottled))

def usernameSignup (input : SignupInput) : SignupCall (Except Err Unit) :=
  match input.admitted with
  | .error err => return .error err
  | .ok username => do
    let nowMs ← Call.ask SignupRequest.clock
    let reserved ← Call.ask (SignupRequest.reserve input.ipAddr nowMs)
    if reserved.1 then
      let (revealed, answer) ← signUpReserved username
      if revealed then return answer
      else
        let later ← Call.ask SignupRequest.clock
        Call.ask (SignupRequest.refund input.ipAddr later)
        return answer
    else return .error (.sentinel .signupThrottled)

/-- The step took a unit of the window of an address that starts at a time. -/
def reservedIn (ip : String) (start : Int) : SignupEvent → Bool
  | ⟨_, .reserve other _, (true, some began)⟩ => other == ip && began == start
  | _ => false

def refunds : SignupEvent → Bool
  | ⟨_, .refund _ _, _⟩ => true
  | _ => false

/-- A call with these steps may still refund. -/
def Unrefunded (own : List SignupEvent) : Prop := ∀ event ∈ own, refunds event = false

/-- A call with these steps has a unit of the window. -/
def holdsUnit (ip : String) (start : Int) (own : List SignupEvent) : Bool :=
  own.any (reservedIn ip start) && !own.any refunds

/-- The calls that have a unit of a window. -/
def holders (n : Nat) (ip : String) (start : Int) (trace : List SignupEvent) : Finset Nat :=
  (Finset.range n).filter fun caller => holdsUnit ip start (Pool.own trace caller) = true

lemma mem_holders : caller ∈ holders n ip start trace ↔
    caller < n ∧ (Pool.own trace caller).any (reservedIn ip start) = true ∧ Unrefunded (Pool.own trace caller) := by
  simp only [holders, holdsUnit, Unrefunded, Finset.mem_filter, Finset.mem_range, Bool.and_eq_true, Bool.not_eq_true',
    any_eq_false, Bool.not_eq_true]

lemma mem_holders_cons (hmem : caller ∈ holders n ip start (event :: trace)) :
    caller ∈ holders n ip start trace ∧ (caller = event.caller → refunds event = false) ∨
      caller = event.caller ∧ reservedIn ip start event = true := by
  obtain ⟨mover, q, resp⟩ := event
  rw [mem_holders] at hmem ⊢
  by_cases hsame : mover = caller
  · subst hsame
    rw [Pool.own_cons_self, any_cons, Bool.or_eq_true, Unrefunded, forall_mem_cons] at hmem
    obtain ⟨hbound, hnow | hbefore, hnot, hunrefunded⟩ := hmem
    · exact .inr ⟨rfl, hnow⟩
    · exact .inl ⟨⟨hbound, hbefore, hunrefunded⟩, fun _ => hnot⟩
  · rw [Pool.own_cons_ne hsame] at hmem
    exact .inl ⟨hmem, fun heq => absurd heq.symm hsame⟩

section
variable (n : Nat) (trace : List SignupEvent) (hnot : reservedIn ip start event = false)
include hnot

/-- Only a reservation makes a holder of a window. -/
lemma holders_cons_subset :
    holders n ip start (event :: trace) ⊆ holders n ip start trace := by
  intro caller hmem
  rcases mem_holders_cons hmem with hbefore | ⟨-, hreserved⟩
  · exact hbefore.1
  · rw [hnot] at hreserved
    cases hreserved

lemma card_holders_le :
    (holders n ip start (event :: trace)).card ≤ (holders n ip start trace).card :=
  Finset.card_le_card (holders_cons_subset n trace hnot)

end

lemma card_holders_succ (n : Nat) (ip : String) (start : Int) (event : SignupEvent) (trace : List SignupEvent) :
    (holders n ip start (event :: trace)).card ≤ (holders n ip start trace).card + 1 := by
  refine (Finset.card_le_card fun caller hmem => ?_).trans (Finset.card_insert_le event.caller _)
  rcases mem_holders_cons hmem with hbefore | ⟨rfl, -⟩
  · exact Finset.mem_insert_of_mem hbefore.1
  · exact Finset.mem_insert_self _ _

/-- A holder that refunds is one no longer. -/
lemma card_holders_refund (hholds : event.caller ∈ holders n ip start trace) (hrefunds : refunds event = true)
    (hnot : reservedIn ip start event = false) :
    (holders n ip start (event :: trace)).card < (holders n ip start trace).card := by
  refine Finset.card_lt_card ((Finset.ssubset_iff_of_subset (holders_cons_subset n trace hnot)).mpr
    ⟨event.caller, hholds, fun hmem => ?_⟩)
  rcases mem_holders_cons hmem with ⟨-, hkept⟩ | ⟨-, hreserved⟩
  · rw [hkept rfl] at hrefunds
    cases hrefunds
  · rw [hnot] at hreserved
    cases hreserved

def SignupGuard (own : List SignupEvent) : SignupRequest → Prop
  | .refund _ _ => Unrefunded own
  | _ => True

lemma Unrefunded.ask {q : SignupRequest} {next : q.Response → SignupCall β} {post : List SignupEvent → β → Prop}
    (hown : Unrefunded own) (hnot : ∀ resp, refunds ⟨caller, q, resp⟩ = false)
    (hnext : ∀ resp, Unrefunded (⟨caller, q, resp⟩ :: own) →
      (next resp).Keeps caller SignupGuard post (⟨caller, q, resp⟩ :: own)) :
    (Call.ask q >>= next).Keeps caller SignupGuard post own := by
  refine .ask ?_ fun resp => hnext resp (forall_mem_cons.mpr ⟨hnot resp, hown⟩)
  cases q with
  | refund ip nowMs => exact hown
  | _ => trivial

/-- Until the deferred refund nothing is given back, and an answer that names a taken
    username is marked as revealing. -/
lemma signUpReserved_keeps (hown : Unrefunded own) (username : String) :
    (signUpReserved username).Keeps caller SignupGuard
      (fun own' out => Unrefunded own' ∧ (out.1 = false → ∀ name, out.2 ≠ .error (usernameTaken name))) own := by
  refine hown.ask (fun _ => rfl) fun allowed h1 => ?_
  split
  swap
  · exact ⟨h1, by simp [usernameTaken]⟩
  refine h1.ask (fun _ => rfl) fun existing h2 => ?_
  cases existing with
  | error err => exact ⟨h2, by simp [usernameTaken]⟩
  | ok found =>
    cases found with
    | true => exact ⟨h2, nofun⟩
    | false =>
      refine h2.ask (fun _ => rfl) fun hashed h3 => ?_
      cases hashed with
      | error err => exact ⟨h3, by simp [usernameTaken]⟩
      | ok =>
        refine h3.ask (fun _ => rfl) fun created h4 => ?_
        cases created with
        | error err =>
          dsimp only
          split
          · exact ⟨h4, nofun⟩
          · rename_i hother
            refine ⟨h4, fun _ name heq => hother ?_⟩
            rw [Except.error.inj heq]
            rfl
        | ok =>
          refine h4.ask (fun _ => rfl) fun issued h5 => ⟨h5, fun _ name => ?_⟩
          cases issued <;> simp [usernameTaken, Except.mapError]

lemma usernameSignup_keeps (input : SignupInput) (caller : Nat) : (usernameSignup input).Keeps caller SignupGuard
      (fun own result => ∀ name, result = .error (usernameTaken name) → Unrefunded own) [] := by
  have hnil : Unrefunded [] := forall_mem_nil _
  unfold usernameSignup
  split
  · exact fun _ _ => hnil
  rename_i username _
  refine hnil.ask (fun _ => rfl) fun nowMs h1 => h1.ask (fun _ => rfl) fun reserved h2 => ?_
  split
  swap
  · exact fun _ _ => h2
  refine .bind ((signUpReserved_keeps h2 username).mono fun own out hout => ?_)
  obtain ⟨revealed, answer⟩ := out
  cases revealed with
  | true => exact fun _ _ => hout.1
  | false =>
    refine hout.1.ask (fun _ => rfl) fun later h3 => .ask h3 fun _ name htaken => ?_
    exact absurd htaken (hout.2 rfl name)

section Windows
variable {b : ProbeBudget}

/-- A reservation is refused, or takes a unit of its window, while the map has room. -/
lemma reserve_spec (hon : b.disabled ip = false) (hroom : spent.keys.length < probeBudgetMaxSize)
    (nowMs : Int) (victim : Nat) :
    b.reserve ip nowMs victim spent = (false, spent) ∨
      (b.window ip nowMs spent).count < b.limit ∧ b.reserve ip nowMs victim spent =
        (true, spent.insert ip ⟨(b.window ip nowMs spent).startMs, (b.window ip nowMs spent).count + 1⟩) := by
  have hroomy : ¬ (spent.lookup ip = none ∧ spent.keys.length ≥ probeBudgetMaxSize) := fun hfull =>
    absurd hfull.2 (Nat.not_le.mpr hroom)
  unfold ProbeBudget.reserve
  rw [hon, if_neg Bool.false_ne_true]
  simp only [if_neg hroomy]
  split
  · exact .inl rfl
  · rename_i hleft
    exact .inr ⟨Int.not_le.mp hleft, rfl⟩

/-- The window is the address's own, or a new one that starts later than its own. -/
lemma window_spec (hon : b.disabled ip = false) (nowMs : Int) (spent : ProbeSpent) :
    spent.lookup ip = some (b.window ip nowMs spent) ∨
      (b.window ip nowMs spent).count = 0 ∧ ∀ w, spent.lookup ip = some w →
        w.startMs < (b.window ip nowMs spent).startMs := by
  have hlong : 0 < b.windowMs := by
    simp only [ProbeBudget.disabled, Bool.or_eq_false_iff, decide_eq_false_iff_not] at hon
    omega
  unfold ProbeBudget.window
  cases hlookup : spent.lookup ip with
  | none => exact .inr ⟨rfl, nofun⟩
  | some w =>
    dsimp only
    split
    · refine .inr ⟨rfl, fun other hother => ?_⟩
      cases hother
      dsimp only
      omega
    · exact .inl rfl

lemma refund_spec (b : ProbeBudget) (ip : String) (nowMs : Int) (spent : ProbeSpent) :
    b.refund ip nowMs spent = spent ∨ ∃ w, spent.lookup ip = some w ∧ nowMs - w.startMs < b.windowMs ∧ 0 < w.count ∧
        b.refund ip nowMs spent = spent.insert ip ⟨w.startMs, w.count - 1⟩ := by
  unfold ProbeBudget.refund
  split
  · exact .inl rfl
  split
  · rename_i w hlookup
    split
    · rename_i hlive
      exact .inr ⟨w, hlookup, hlive.1, hlive.2, rfl⟩
    · exact .inl rfl
  · exact .inl rfl

end Windows

/-- The budget of an address, over the steps so far of `n` calls: no window has more holders
    than the limit, the current one has no more than are counted, and none is younger. -/
structure Budgeted (b : ProbeBudget) (n : Nat) (ip : String) (spent : ProbeSpent) (trace : List SignupEvent) :
    Prop where
  within : ∀ start, ((holders n ip start trace).card : Int) ≤ b.limit
  counted : ∀ w, spent.lookup ip = some w → ((holders n ip w.startMs trace).card : Int) ≤ w.count ∧ w.count ≤ b.limit
  latest : ∀ event ∈ trace, ∀ start, reservedIn ip start event = true → ∃ w, spent.lookup ip = some w ∧
    start ≤ w.startMs

namespace Budgeted
variable {w : ProbeWindow}

lemma start (hlimit : 0 < b.limit) (n : Nat) (ip : String) : Budgeted b n ip ∅ [] where
  within _ := by simpa [holders, holdsUnit, Pool.own] using hlimit.le
  counted := by simp
  latest := forall_mem_nil _

section
variable (h : Budgeted b n ip spent trace)
include h

/-- A step that takes no unit of the address and leaves its window alone. -/
lemma leave (hnot : ∀ start, reservedIn ip start event = false)
    (hsame : spent'.lookup ip = spent.lookup ip) : Budgeted b n ip spent' (event :: trace) where
  within start := (Int.ofNat_le.mpr (card_holders_le n trace (hnot start))).trans (h.within start)
  counted w hw := by
    have hbefore := h.counted w (hsame ▸ hw)
    exact ⟨(Int.ofNat_le.mpr (card_holders_le n trace (hnot w.startMs))).trans hbefore.1, hbefore.2⟩
  latest := by
    rw [hsame]
    refine forall_mem_cons.mpr ⟨fun start hreserved => ?_, h.latest⟩
    rw [hnot start] at hreserved
    cases hreserved

/-- The window that a unit is taken from counts its holders, and is none older than the current one. -/
lemma window_counts (hon : b.disabled ip = false) (nowMs : Int) :
    ((holders n ip (b.window ip nowMs spent).startMs trace).card : Int) ≤ (b.window ip nowMs spent).count ∧
      ∀ w, spent.lookup ip = some w → w.startMs ≤ (b.window ip nowMs spent).startMs := by
  rcases window_spec hon nowMs spent with hown | ⟨hzero, hlater⟩
  · refine ⟨(h.counted _ hown).1, fun w hw => ?_⟩
    rw [Option.some.inj (hw.symm.trans hown)]
  · -- nobody has reserved in a window that starts only now
    have hnobody : holders n ip (b.window ip nowMs spent).startMs trace = ∅ := by
      refine Finset.eq_empty_of_forall_notMem fun caller hmem => ?_
      obtain ⟨-, hholds, -⟩ := mem_holders.mp hmem
      obtain ⟨event, hevent, hreserved⟩ := any_eq_true.mp hholds
      obtain ⟨w, hw, hle⟩ := h.latest event (Pool.mem_trace hevent) _ hreserved
      exact absurd (hlater w hw) (Int.not_lt.mpr hle)
    rw [hnobody, hzero]
    exact ⟨Int.le_refl _, fun w hw => (hlater w hw).le⟩

/-- A unit of a window that counts its holders is taken. -/
lemma take (hcount : ((holders n ip w.startMs trace).card : Int) ≤ w.count)
    (hlater : ∀ current, spent.lookup ip = some current → current.startMs ≤ w.startMs) (hleft : w.count < b.limit) :
    Budgeted b n ip (spent.insert ip ⟨w.startMs, w.count + 1⟩)
      (⟨caller, .reserve ip nowMs, (true, some w.startMs)⟩ :: trace) := by
  have hmore := card_holders_succ n ip w.startMs ⟨caller, .reserve ip nowMs, (true, some w.startMs)⟩ trace
  refine ⟨fun start => ?_, fun current hcurrent => ?_,
    forall_mem_cons.mpr ⟨fun start hreserved => ?_, fun event hold start hreserved => ?_⟩⟩
  · by_cases hsame : w.startMs = start
    · subst hsame
      omega
    · exact (Int.ofNat_le.mpr (card_holders_le n trace (by simp [reservedIn, hsame]))).trans (h.within start)
  · rw [lookup_insert] at hcurrent
    cases hcurrent
    dsimp only
    omega
  · rw [lookup_insert]
    simp only [reservedIn, Bool.and_eq_true, beq_iff_eq] at hreserved
    exact ⟨_, rfl, hreserved.2.ge⟩
  · obtain ⟨current, hcurrent, hle⟩ := h.latest event hold start hreserved
    rw [lookup_insert]
    exact ⟨_, rfl, hle.trans (hlater current hcurrent)⟩

/-- A unit is given back to the window it was taken from. -/
lemma giveBack (hlookup : spent.lookup ip = some w) (hholds : caller ∈ holders n ip w.startMs trace) :
    Budgeted b n ip (spent.insert ip ⟨w.startMs, w.count - 1⟩) (⟨caller, .refund ip nowMs, ()⟩ :: trace) where
  within start := (Int.ofNat_le.mpr (card_holders_le n trace rfl)).trans (h.within start)
  counted w' hw' := by
    rw [lookup_insert] at hw'
    cases hw'
    have hfewer : (holders n ip w.startMs (⟨caller, .refund ip nowMs, ()⟩ :: trace)).card < _ :=
      card_holders_refund hholds rfl rfl
    have hbefore := h.counted w hlookup
    dsimp only
    omega
  latest := by
    refine forall_mem_cons.mpr ⟨fun _ => nofun, fun event hold start hreserved => ?_⟩
    obtain ⟨w', hw', hle⟩ := h.latest event hold start hreserved
    cases hlookup.symm.trans hw'
    rw [lookup_insert]
    exact ⟨_, rfl, hle⟩

end
end Budgeted

/-- The map has room for another address. -/
def Roomy (pool : SignupPool) (_ : Nat) (_ : SignupMoment) (_ : SignupRequest) : Prop :=
  pool.store.keys.length < probeBudgetMaxSize

def SignupRequest.refunded : SignupRequest → Option (String × Int)
  | refund ip nowMs => some (ip, nowMs)
  | _ => none

/-- A refund that takes effect goes to the window its call has reserved in. -/
def RefundsOwn (b : ProbeBudget) (pool : SignupPool) (caller : Nat) (_ : SignupMoment) (q : SignupRequest) : Prop :=
  ∀ r, q.refunded = some r → ∀ w, pool.store.lookup r.1 = some w → r.2 - w.startMs < b.windowMs → 0 < w.count →
    (Pool.own pool.trace caller).any (reservedIn r.1 w.startMs) = true

instance (pool : SignupPool) (caller : Nat) (m : SignupMoment) (q : SignupRequest) :
    Decidable (Roomy pool caller m q) :=
  inferInstanceAs (Decidable (_ < _))

instance (b : ProbeBudget) (pool : SignupPool) (caller : Nat) (m : SignupMoment) (q : SignupRequest) :
    Decidable (RefundsOwn b pool caller m q) :=
  inferInstanceAs (Decidable (∀ r, q.refunded = some r → _))

lemma Budgeted.step (h : Budgeted b n ip pool.store pool.trace) (hbound : caller < n)
    (hguard : SignupGuard (Pool.own pool.trace caller) q) (m : SignupMoment) (hroom : Roomy pool caller m q)
    (hrefunds : RefundsOwn b pool caller m q) :
    Budgeted b n ip (b.handle q m pool.store).2 (⟨caller, q, (b.handle q m pool.store).1⟩ :: pool.trace) := by
  cases q with
  | reserve other nowMs =>
    dsimp only [ProbeBudget.handle]
    cases hon : b.disabled other with
    | true =>
      rw [ProbeBudget.reserve, hon]
      exact h.leave (fun _ => rfl) rfl
    | false =>
      rcases reserve_spec hon hroom nowMs m.victim with hrefused | ⟨hleft, htaken⟩
      · rw [hrefused]
        exact h.leave (fun _ => rfl) rfl
      rw [htaken, lookup_insert]
      by_cases hsame : other = ip
      · subst hsame
        obtain ⟨hcount, hlater⟩ := h.window_counts hon nowMs
        exact h.take hcount hlater hleft
      · exact h.leave (fun _ => by simp [reservedIn, hsame]) (lookup_insert_ne (Ne.symm hsame))
  | refund other nowMs =>
    dsimp only [ProbeBudget.handle]
    rcases refund_spec b other nowMs pool.store with hkept | ⟨w, hlookup, hlive, hpos, hback⟩
    · rw [hkept]
      exact h.leave (fun _ => rfl) rfl
    rw [hback]
    by_cases hsame : other = ip
    · subst hsame
      exact h.giveBack hlookup (mem_holders.mpr ⟨hbound, hrefunds _ rfl w hlookup hlive hpos, hguard⟩)
    · exact h.leave (fun _ => rfl) (lookup_insert_ne (Ne.symm hsame))
  | _ => exact h.leave (fun _ => rfl) rfl

def signupStart (inputs : List SignupInput) : SignupPool := Pool.start ∅ (inputs.map usernameSignup)

/-- The call has reserved in the window of the address and told its caller that a username is taken. -/
def TakenIn (pool : SignupPool) (ip : String) (start : Int) (caller : Nat) : Prop :=
  (Pool.own pool.trace caller).any (reservedIn ip start) = true ∧
    ∃ username, pool.result caller = some (.error (usernameTaken username))

/-- Any number of calls, in any interleaving in which every refund goes to the window its call
    has reserved in: no window of an address answers more often than the limit that a username
    is taken. -/
theorem taken_answers_within_limit (b : ProbeBudget) (hlimit : 0 < b.limit) (inputs : List SignupInput)
    (schedule : List (Nat × SignupMoment)) (hroom : Pool.Along b.handle Roomy (signupStart inputs) schedule)
    (hrefunds : Pool.Along b.handle (RefundsOwn b) (signupStart inputs) schedule) :
    let pool := (signupStart inputs).run b.handle schedule
    ∀ ip start (callers : List Nat), callers.Nodup → (∀ caller ∈ callers, TakenIn pool ip start caller) →
      (callers.length : Int) ≤ b.limit := by
  intro pool ip start callers hnodup htaken
  have hkeep : (signupStart inputs).Keep _ _ := Pool.keep_start usernameSignup_keeps ∅
  have hrun : Budgeted b inputs.length ip pool.store pool.trace ∧ pool.calls.length = inputs.length := by
    refine Pool.along_invariant (fun pool caller m q next
      (hinv : Budgeted b inputs.length ip pool.store pool.trace ∧ pool.calls.length = inputs.length)
        hcall _ hguard hcond => ?_)
      hkeep ⟨.start hlimit _ ip, length_map _⟩ schedule (hroom.and hrefunds)
    obtain ⟨_, -, hguard⟩ := hguard
    have hbound := (List.getElem?_eq_some_iff.mp hcall).1
    refine ⟨?_, (Pool.length_step caller m).trans hinv.2⟩
    rw [Pool.step_request hcall]
    exact hinv.1.step (hinv.2 ▸ hbound) hguard m hcond.1 hcond.2
  have hsubset : callers.toFinset ⊆ holders inputs.length ip start pool.trace := by
    intro caller hmem
    obtain ⟨hreserved, name, hresult⟩ := htaken caller (mem_toFinset.mp hmem)
    obtain ⟨_, -, hunrefunded⟩ := (hkeep.run schedule).result hresult
    exact mem_holders.mpr ⟨hrun.2 ▸ Pool.bound_of_result hresult, hreserved, hunrefunded name rfl⟩
  calc (callers.length : Int) = callers.toFinset.card := by rw [toFinset_card_of_nodup hnodup]
    _ ≤ (holders inputs.length ip start pool.trace).card := Int.ofNat_le.mpr (Finset.card_le_card hsubset)
    _ ≤ b.limit := hrun.1.within start

def sampleBudget : ProbeBudget := ⟨60000, 1⟩

def sampleSignups : List SignupInput := ["ada", "bob", "cyd"].map fun username => ⟨"198.51.100.7", .ok username⟩

/-- One call reserves in a window and reaches its refund, after 5 further steps, once the next
    window has begun and the second call was told in it that its name is taken. -/
def sampleLateRefund : List (Nat × SignupMoment) :=
  List.replicate 7 (0, { now := 0 }) ++
    List.replicate 4 (1, { now := 60000, existing := .ok true }) ++
      List.replicate 2 (0, { now := 60001 })

theorem taken_answers_within_limit_sample :
    let pool := (signupStart sampleSignups).run sampleBudget.handle (sampleLateRefund.take 11)
    ∀ ip start (callers : List Nat), callers.Nodup → (∀ caller ∈ callers, TakenIn pool ip start caller) →
      (callers.length : Int) ≤ 1 :=
  taken_answers_within_limit sampleBudget (by decide) sampleSignups (sampleLateRefund.take 11) (by decide) (by decide)

/-- The refund lowers the count of the new window, and the third call is told the same in it. -/
theorem late_refund_reveals_twice :
    let schedule := sampleLateRefund ++ List.replicate 4 (2, { now := 60002, existing := .ok true })
    let pool := (signupStart sampleSignups).run sampleBudget.handle schedule
    (schedule.Pairwise fun turn next => turn.2.now ≤ next.2.now) ∧
      Pool.Along sampleBudget.handle Roomy (signupStart sampleSignups) schedule ∧
      ∀ caller ∈ [1, 2], TakenIn pool "198.51.100.7" 60000 caller := by
  refine ⟨by decide, by decide, ?_⟩
  simp only [forall_mem_cons]
  exact ⟨⟨by decide, "bob", rfl⟩, ⟨by decide, "cyd", rfl⟩, forall_mem_nil _⟩

end identity.service
