import Identity.Interleaving.Fallible
import Identity.Repository.Request

open identity.repository identity.memory
namespace identity.service

/-- A call of the service: repository operations in the order the code makes them,
    ending in a result or in the error the code returns. -/
abbrev ServiceCall (α : Type) : Type := Routine Request.Response Err α

/-- A repository operation that answers an error of its own. -/
def attemptRequest {α : Type} (r : Request) (answer : Request.Response r → Except Err α) : ServiceCall α :=
  ExceptT.mk (Call.request r fun resp => .done (answer resp))

def nowMs : ServiceCall Int := Routine.ask Request.clock

/-- `rand.Text`. -/
def randText : ServiceCall String := Routine.ask Request.random

def getUser (userID : String) : ServiceCall (Option User) := Routine.ask (Request.user (.getUser userID))

def getSessionBySid (sid : String) : ServiceCall (Option SessionRecord) :=
  Routine.ask (Request.session (.getSessionBySid sid))

/-- The step of a call that reads an account. -/
@[grind =]
def accountRead (caller : Nat) (userID : String) (account : Option User) : StoreEvent :=
  ⟨caller, .user (.getUser userID), account⟩

def clockRead (caller : Nat) (now : Int) : StoreEvent := ⟨caller, .clock, now⟩

/-- A computation that makes no request. -/
def check {α : Type} (result : Except Err α) : ServiceCall α := ExceptT.mk (pure result)

/-- `if bad { return err }`. -/
def refuseIf (bad : Prop) [Decidable bad] (err : Err) : ServiceCall Unit := if bad then throw err else pure ()

/-- Reading through a pointer; the code does so only where it is not nil. -/
def deref {α : Type} : Option α → ServiceCall α
  | some value => pure value
  | none => throw (.text "invalid memory address or nil pointer dereference")

section Makes

/-- A flow that only looks. -/
abbrev Looks {α : Type} (flow : ServiceCall α) : Prop := flow.Makes fun q => q.isPlain = true

variable {α : Type}

lemma makes_nowMs (hmade : made .clock) : nowMs.Makes made := .ask hmade

lemma makes_randText (hmade : made .random) : randText.Makes made := .ask hmade

lemma makes_getUser (hmade : made (.user (.getUser userID))) : (getUser userID).Makes made := .ask hmade

lemma makes_check (result : Except Err α) : (check result).Makes made := by
  cases result with
  | ok value => exact .pure value
  | error err => exact .throw err

lemma makes_refuseIf [Decidable bad] (err : Err) : (refuseIf bad err).Makes made :=
  .ite (fun _ => .throw err) fun _ => .pure ()

lemma makes_attemptRequest (hmade : made r) :
    (attemptRequest r answer).Makes made := by
  refine ⟨fun caller own => ⟨hmade, fun resp => ?_⟩⟩
  simp only [Call.Keeps]
  cases answer resp with
  | ok value => trivial
  | error err => trivial

/-- What follows a check knows that it passed. -/
lemma makes_check_bind {next : α → ServiceCall β}
    (hnext : ∀ value, result = .ok value → (next value).Makes made) : (check result >>= next).Makes made := by
  cases result with
  | ok value => exact hnext value rfl
  | error err => exact .throw err

lemma looks_nowMs : Looks nowMs := makes_nowMs rfl

lemma looks_randText : Looks randText := makes_randText rfl

lemma looks_getUser (userID : String) : Looks (getUser userID) := makes_getUser rfl

end Makes

section Keeps
variable {α : Type} {guard : Trace → Request → Prop}

@[simp]
lemma keeps_nowMs :
    nowMs.Keeps caller guard ok fails own ↔ guard own .clock ∧
      ∀ now : Int, ok (⟨caller, .clock, now⟩ :: own) now := Iff.rfl

@[simp]
lemma keeps_randText : randText.Keeps caller guard ok fails own ↔
      guard own .random ∧ ∀ text : String, ok (⟨caller, .random, text⟩ :: own) text := Iff.rfl

@[simp]
lemma keeps_getUser :
    (getUser userID).Keeps caller guard ok fails own ↔ guard own (.user (.getUser userID)) ∧
      ∀ user : Option User, ok (⟨caller, .user (.getUser userID), user⟩ :: own) user := Iff.rfl

@[simp]
lemma keeps_getSessionBySid :
    (getSessionBySid sid).Keeps caller guard ok fails own ↔ guard own (.session (.getSessionBySid sid)) ∧
      ∀ session : Option SessionRecord, ok (⟨caller, .session (.getSessionBySid sid), session⟩ :: own)
        session := Iff.rfl

@[simp]
lemma keeps_check : (check result).Keeps caller guard ok fails own ↔
      (∀ value, result = .ok value → ok own value) ∧ (∀ err, result = .error err → fails own err) := by
  cases result with
  | ok value => exact ⟨fun h => ⟨fun _ heq => by cases heq; exact h, nofun⟩, fun h => h.1 value rfl⟩
  | error err => exact ⟨fun h => ⟨nofun, fun _ heq => by cases heq; exact h⟩, fun h => h.2 err rfl⟩

@[simp]
lemma keeps_refuseIf [Decidable bad] :
    (refuseIf bad err).Keeps caller guard ok fails own ↔ (bad → fails own err) ∧ (¬ bad → ok own ()) :=
  Routine.keeps_ite

variable {answer : Request.Response r → Except Err α}

lemma keeps_attemptRequest : (attemptRequest r answer).Keeps caller guard ok fails own ↔ guard own r ∧ ∀ resp,
        (∀ value, answer resp = .ok value → ok (⟨caller, r, resp⟩ :: own) value) ∧
        (∀ err, answer resp = .error err → fails (⟨caller, r, resp⟩ :: own) err) := by
  refine and_congr_right fun _ => forall_congr' fun resp => ?_
  simp only [Call.Keeps]
  cases answer resp with
  | ok value => simp
  | error err => simp

/-- An operation whose error the code looks at. -/
@[simp]
lemma keeps_attempted :
    (attemptRequest r answer).attempt.Keeps caller guard ok fails own ↔
      guard own r ∧ ∀ resp, ok (⟨caller, r, resp⟩ :: own) (answer resp) := by
  rw [Routine.keeps_attempt, keeps_attemptRequest]
  refine and_congr_right fun _ => forall_congr' fun resp => ?_
  cases answer resp with
  | ok value => simp
  | error err => simp

@[simp]
lemma keeps_deref : (deref value).Keeps caller guard ok fails own ↔ (∀ v, value = some v → ok own v) ∧
        (value = none → fails own (.text "invalid memory address or nil pointer dereference")) := by
  cases value with
  | none => simp [deref]
  | some v => simp [deref]

end Keeps
end identity.service

/-! ### Rules for the first step of a flow -/

namespace Routine.Makes
open identity.service
variable {α β : Type}

lemma past [Decidable bad] {next : Unit → ServiceCall β} (hnext : ∀ value, (next value).Makes made) :
    (identity.service.refuseIf bad err >>= next).Makes made := (makes_refuseIf _).bind hnext

lemma check {next : α → ServiceCall β} (hnext : ∀ value, (next value).Makes made) :
    (identity.service.check result >>= next).Makes made := (makes_check _).bind hnext

lemma nowMs {next : Int → ServiceCall β} (hmade : made .clock) (hnext : ∀ now, (next now).Makes made) :
    (identity.service.nowMs >>= next).Makes made := (makes_nowMs hmade).bind hnext

end Routine.Makes

namespace Routine.Keeps
open identity.service
variable {α β : Type} {guard : Trace → Request → Prop}

lemma nowMs {next : Int → ServiceCall β} (hguard : guard own .clock)
    (hnext : ∀ now : Int, (next now).Keeps caller guard ok fails (⟨caller, .clock, now⟩ :: own)) :
    (identity.service.nowMs >>= next).Keeps caller guard ok fails own := .bind ⟨hguard, hnext⟩

lemma randText {next : String → ServiceCall β} (hguard : guard own .random)
    (hnext : ∀ text : String, (next text).Keeps caller guard ok fails (⟨caller, .random, text⟩ :: own)) :
    (identity.service.randText >>= next).Keeps caller guard ok fails own := .bind ⟨hguard, hnext⟩

lemma getUser {next : Option User → ServiceCall β} (hguard : guard own (.user (.getUser userID)))
    (hnext : ∀ user : Option User,
      (next user).Keeps caller guard ok fails (⟨caller, .user (.getUser userID), user⟩ :: own)) :
    (identity.service.getUser userID >>= next).Keeps caller guard ok fails own := .bind ⟨hguard, hnext⟩

lemma check {next : α → ServiceCall β}
    (hok : ∀ value, result = .ok value → (next value).Keeps caller guard ok fails own)
    (herr : ∀ err, result = .error err → fails own err) :
    (identity.service.check result >>= next).Keeps caller guard ok fails own := .bind (keeps_check.mpr ⟨hok, herr⟩)

variable {next : Unit → ServiceCall β}

lemma refuseIf [Decidable bad] (hbad : bad → fails own err)
    (hnext : ¬ bad → (next ()).Keeps caller guard ok fails own) :
    (identity.service.refuseIf bad err >>= next).Keeps caller guard ok fails own :=
  .bind (keeps_refuseIf.mpr ⟨hbad, hnext⟩)

/-- A check whose refusal says nothing. -/
lemma past [Decidable bad] (hnext : ¬ bad → (next ()).Yields caller guard ok own) :
    (identity.service.refuseIf bad err >>= next).Yields caller guard ok own := .refuseIf (fun _ => trivial) hnext

variable {answer : Request.Response r → Except Err α}

lemma attemptRequest {next : α → ServiceCall β} (hguard : guard own r) (hnext : ∀ resp,
      (∀ value, answer resp = .ok value → (next value).Keeps caller guard ok fails (⟨caller, r, resp⟩ :: own)) ∧
        ∀ err, answer resp = .error err → fails (⟨caller, r, resp⟩ :: own) err) :
    (identity.service.attemptRequest r answer >>= next).Keeps caller guard ok fails own :=
  .bind (keeps_attemptRequest.mpr ⟨hguard, hnext⟩)

lemma attempted {next : Except Err α → ServiceCall β} (hguard : guard own r)
    (hnext : ∀ resp, (next (answer resp)).Keeps caller guard ok fails (⟨caller, r, resp⟩ :: own)) :
    ((identity.service.attemptRequest r answer).attempt >>= next).Keeps caller guard ok fails own :=
  .bind (keeps_attempted.mpr ⟨hguard, hnext⟩)

end Routine.Keeps

namespace identity.service
section
variable {α : Type} {guard : Repo → Request → Prop}

lemma runs_attemptRequest :
    (attemptRequest q answer).Runs (handle p) guard ok fails r ↔ guard r q ∧ ∀ tick,
        (∀ value, answer (handle p q tick r).1 = .ok value → ok value (handle p q tick r).2) ∧
        (∀ err, answer (handle p q tick r).1 = .error err → fails err (handle p q tick r).2) := by
  refine and_congr_right fun _ => forall_congr' fun tick => ?_
  simp only [Call.Runs]
  cases answer (handle p q tick r).1 with
  | ok value => simp
  | error err => simp

@[simp]
lemma runs_check : (check result).Runs (handle p) guard ok fails r ↔
      (∀ value, result = .ok value → ok value r) ∧ (∀ err, result = .error err → fails err r) := by
  cases result with
  | ok value => exact ⟨fun h => ⟨fun _ heq => by cases heq; exact h, nofun⟩, fun h => h.1 value rfl⟩
  | error err => exact ⟨fun h => ⟨nofun, fun _ heq => by cases heq; exact h⟩, fun h => h.2 err rfl⟩

@[simp]
lemma runs_refuseIf [Decidable bad] :
    (refuseIf bad err).Runs (handle p) guard ok fails r ↔ (bad → fails err r) ∧ (¬ bad → ok () r) := Routine.runs_ite

end
end identity.service

/-! ### Rules for the first step of a flow that runs alone -/

namespace Routine.Runs
open identity.service
variable {α β : Type} {guard : Repo → Request → Prop}

lemma nowMs {next : Int → ServiceCall β} (hguard : guard r .clock)
    (hnext : ∀ tick : Tick, (next tick.now).Runs (handle p) guard ok fails r) :
    (identity.service.nowMs >>= next).Runs (handle p) guard ok fails r := .bind ⟨hguard, hnext⟩

lemma randText {next : String → ServiceCall β} (hguard : guard r .random)
    (hnext : ∀ tick : Tick, (next tick.rand).Runs (handle p) guard ok fails r) :
    (identity.service.randText >>= next).Runs (handle p) guard ok fails r := .bind ⟨hguard, hnext⟩

lemma getUser (hguard : guard r (.user (.getUser userID)))
    (hnext : Tick → (next (r.getUser userID)).Runs (handle p) guard ok fails r) :
    (identity.service.getUser userID >>= next).Runs (handle p) guard ok fails r := .bind ⟨hguard, hnext⟩

lemma check {next : α → ServiceCall β}
    (hok : ∀ value, result = .ok value → (next value).Runs (handle p) guard ok fails r)
    (herr : ∀ err, result = .error err → fails err r) :
    (identity.service.check result >>= next).Runs (handle p) guard ok fails r := .bind (runs_check.mpr ⟨hok, herr⟩)

variable {next : Unit → ServiceCall β}

lemma refuseIf [Decidable bad] (hbad : bad → fails err r) (hnext : ¬ bad →
    (next ()).Runs (handle p) guard ok fails r) :
    (identity.service.refuseIf bad err >>= next).Runs (handle p) guard ok fails r :=
  .bind (runs_refuseIf.mpr ⟨hbad, hnext⟩)

lemma past [Decidable bad] (hnext : ¬ bad → (next ()).Runs (handle p) guard ok (fun _ _ => True) r) :
    (identity.service.refuseIf bad err >>= next).Runs (handle p) guard ok (fun _ _ => True) r :=
  .refuseIf (fun _ => trivial) hnext

lemma attemptRequest {answer : q.Response → Except Err α} {next : α → ServiceCall β} (hguard : guard r q)
    (hnext : ∀ tick, (∀ value, answer (handle p q tick r).1 = .ok value →
        (next value).Runs (handle p) guard ok fails (handle p q tick r).2) ∧
      ∀ err, answer (handle p q tick r).1 = .error err → fails err (handle p q tick r).2) :
    (identity.service.attemptRequest q answer >>= next).Runs (handle p) guard ok fails r :=
  .bind (runs_attemptRequest.mpr ⟨hguard, hnext⟩)

end Routine.Runs

namespace identity.service

/-- A flow executed with nothing else in between, whatever it asks. -/
abbrev Ensures {α : Type} (p : Platform) (flow : ServiceCall α) (ok : α → Repo → Prop) (fails : Err → Repo → Prop)
    (r : Repo) : Prop := flow.Runs (handle p) (fun _ _ => True) ok fails r

/-- A flow executed alone, with nothing said of its errors. -/
abbrev Returns {α : Type} (p : Platform) (flow : ServiceCall α) (ok : α → Repo → Prop) (r : Repo) : Prop :=
  Ensures p flow ok (fun _ _ => True) r

section
variable {α β : Type}
variable (flow : ServiceCall α)

/-- Nothing is said about how a flow ends. -/
lemma ensures_true : Returns p flow (fun _ _ => True) r := by
  have hruns : ∀ call : Call Request.Response (Except Err α), ∀ r : Repo,
      call.Runs (handle p) (fun _ _ => True) (fun _ _ => True) r := by
    intro call
    induction call with
    | done result => exact fun _ => trivial
    | request q next ih => exact fun r => ⟨trivial, fun tick => ih _ _⟩
  refine (hruns flow.call r).mono fun result _ _ => ?_
  cases result with
  | ok value => trivial
  | error err => trivial

/-- Steps that end in an error, whatever they do before it. -/
lemma ensures_throw_after (err : Err) : Returns p (flow >>= fun _ => throw err) ok r :=
  Routine.runs_bind.mpr ((ensures_true flow).mono (fun _ _ _ => trivial) fun _ _ _ => trivial)

end
end identity.service
