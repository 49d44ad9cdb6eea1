import Identity.Interleaving.Condition

/-- A call that may stop with an error at any point. -/
abbrev Routine {Req : Type} (Resp : Req → Type) (ε α : Type) : Type := ExceptT ε (Call Resp) α

namespace Routine
variable {Req : Type} {Resp : Req → Type} {ε α β : Type} {caller : Nat} {own : List (Event Resp)} {r : Req} {c : Prop}
  [Decidable c]

/-- The result or the error, as a call. -/
def call (flow : Routine Resp ε α) : Call Resp (Except ε α) := flow

/-- A request whose answer is never an error. -/
def ask (r : Req) : Routine Resp ε (Resp r) := ExceptT.mk (Call.request r fun resp => .done (.ok resp))

/-- Run a flow and look at its error instead of stopping there. -/
def attempt (flow : Routine Resp ε α) : Routine Resp ε (Except ε α) :=
  ExceptT.mk (flow.call >>= fun result => .done (.ok result))

section Keeps
variable {guard : List (Event Resp) → Req → Prop}

/-- Facts about a flow that ends in a result or in an error. -/
def Keeps (caller : Nat) (guard : List (Event Resp) → Req → Prop) (ok : List (Event Resp) → α → Prop)
    (fails : List (Event Resp) → ε → Prop) (own : List (Event Resp)) (flow : Routine Resp ε α) : Prop :=
  flow.call.Keeps caller guard
    (fun own' result => match result with
      | .ok value => ok own' value
      | .error err => fails own' err) own

/-- Facts about the steps of a flow, whichever way it ends. -/
abbrev Leaves (caller : Nat) (guard : List (Event Resp) → Req → Prop) (post : List (Event Resp) → Prop)
    (own : List (Event Resp)) (flow : Routine Resp ε α) : Prop :=
  flow.Keeps caller guard (fun own' _ => post own') (fun own' _ => post own') own

variable {ok ok' : List (Event Resp) → α → Prop} {fails fails' : List (Event Resp) → ε → Prop}

@[simp]
lemma keeps_pure {value : α} : (pure value : Routine Resp ε α).Keeps caller guard ok fails own ↔
    ok own value := Iff.rfl

@[simp]
lemma keeps_throw {err : ε} : (throw err : Routine Resp ε α).Keeps caller guard ok fails own ↔ fails own err := Iff.rfl

@[simp]
lemma keeps_ask {ok : List (Event Resp) → Resp r → Prop} :
    (ask r : Routine Resp ε (Resp r)).Keeps caller guard ok fails own ↔
      guard own r ∧ ∀ resp, ok (⟨caller, r, resp⟩ :: own) resp := Iff.rfl

variable {flow : Routine Resp ε α} {next : α → Routine Resp ε β}

@[simp]
lemma keeps_bind {ok : List (Event Resp) → β → Prop} : (flow >>= next).Keeps caller guard ok fails own ↔
      flow.Keeps caller guard (fun own' value => (next value).Keeps caller guard ok fails own') fails own := by
  refine Call.keeps_bind.trans ?_
  constructor
  all_goals
    intro h
    refine h.mono fun own' result => ?_
    cases result with
    | ok | error => exact id

@[simp]
lemma keeps_attempt {ok : List (Event Resp) → Except ε α → Prop} : flow.attempt.Keeps caller guard ok fails own ↔
      flow.Keeps caller guard (fun own' value => ok own' (.ok value)) (fun own' err => ok own' (.error err)) own := by
  refine Call.keeps_bind.trans ?_
  constructor
  all_goals
    intro h
    refine h.mono fun own' result => ?_
    cases result with
    | ok | error => exact id

variable {first second : Routine Resp ε α}

@[simp]
lemma keeps_ite : (if c then first else second).Keeps caller guard ok fails own ↔
      (c → first.Keeps caller guard ok fails own) ∧ (¬ c → second.Keeps caller guard ok fails own) := by
  split
  · grind
  · grind

lemma Keeps.bind {ok : List (Event Resp) → β → Prop}
    (hflow : flow.Keeps caller guard (fun own' value => (next value).Keeps caller guard ok fails own') fails own) :
    (flow >>= next).Keeps caller guard ok fails own := keeps_bind.mpr hflow

lemma Keeps.ask {next : Resp r → Routine Resp ε α} (hguard : guard own r)
    (hnext : ∀ resp, (next resp).Keeps caller guard ok fails (⟨caller, r, resp⟩ :: own)) :
    (Routine.ask r >>= next).Keeps caller guard ok fails own := .bind ⟨hguard, hnext⟩

lemma Keeps.ite
    (hfirst : c → first.Keeps caller guard ok fails own) (hsecond : ¬ c → second.Keeps caller guard ok fails own) :
    (if c then first else second).Keeps caller guard ok fails own := keeps_ite.mpr ⟨hfirst, hsecond⟩

/-- Facts about the requests of a flow and about its result, with nothing said of its errors. -/
abbrev Yields (caller : Nat) (guard : List (Event Resp) → Req → Prop) (ok : List (Event Resp) → α → Prop)
    (own : List (Event Resp)) (flow : Routine Resp ε α) : Prop := flow.Keeps caller guard ok (fun _ _ => True) own

/-- Facts about the requests of a flow only. -/
abbrev Asks (caller : Nat) (guard : List (Event Resp) → Req → Prop) (own : List (Event Resp))
    (flow : Routine Resp ε α) :
    Prop := flow.Yields caller guard (fun _ _ => True) own

lemma Keeps.mono (hflow : flow.Keeps caller guard ok fails own)
    (hok : ∀ own' value, ok own' value → ok' own' value)
    (hfails : ∀ own' err, fails own' err → fails' own' err) : flow.Keeps caller guard ok' fails' own := by
  refine Call.Keeps.mono hflow fun own' result => ?_
  cases result with
  | ok value => exact hok own' value
  | error err => exact hfails own' err

/-- What follows a flow starts from what the flow yields. -/
lemma Keeps.seq {mid : List (Event Resp) → α → Prop} {ok : List (Event Resp) → β → Prop}
    (hflow : flow.Keeps caller guard mid fails own)
    (hnext : ∀ own' value, mid own' value → (next value).Yields caller guard ok own') :
    (flow >>= next).Yields caller guard ok own := .bind (hflow.mono hnext fun _ _ _ => trivial)

/-- A flow as a call whose result is wrapped in a larger type. -/
lemma Keeps.wrap {γ : Type} {wrap : Except ε α → γ} {post : List (Event Resp) → γ → Prop}
    (hflow : flow.Keeps caller guard (fun own' value => post own' (wrap (.ok value)))
      (fun own' err => post own' (wrap (.error err))) own) :
    (flow.call >>= fun result => pure (wrap result)).Keeps caller guard post own := by
  refine Call.keeps_bind.mpr (Call.Keeps.mono hflow fun own' result => ?_)
  cases result with
  | ok value => exact id
  | error err => exact id

/-- The steps taken before a flow are still there after it. -/
lemma Keeps.suffix (hflow : flow.Keeps caller guard ok fails own) :
    flow.Keeps caller guard (fun own' value => own <:+ own' ∧ ok own' value)
      (fun own' err => own <:+ own' ∧ fails own' err) own := by
  refine Call.Keeps.mono (Call.Keeps.suffix hflow) fun own' result => ?_
  cases result with
  | ok value => exact id
  | error err => exact id

end Keeps

section Makes
variable {made made' : Req → Prop}
variable (made) in
/-- Every request of the flow satisfies `made`, whatever it is answered. -/
@[grind]
structure Makes (flow : Routine Resp ε α) : Prop where
  only : ∀ caller own, flow.Keeps caller (fun _ r => made r) (fun _ _ => True) (fun _ _ => True) own

lemma Makes.pure (value : α) : (pure value : Routine Resp ε α).Makes made := ⟨fun _ _ => trivial⟩

lemma Makes.throw (err : ε) : (throw err : Routine Resp ε α).Makes made := ⟨fun _ _ => trivial⟩

lemma Makes.ask (hmade : made r) : (ask r : Routine Resp ε (Resp r)).Makes made :=
  ⟨fun _ _ => ⟨hmade, fun _ => trivial⟩⟩

variable {flow : Routine Resp ε α} {next : α → Routine Resp ε β}

lemma Makes.ite {first second : Routine Resp ε α} (hfirst : c → first.Makes made)
    (hsecond : ¬ c → second.Makes made) : (if c then first else second).Makes made := by
  split
  · exact hfirst ‹c›
  · exact hsecond ‹¬ c›

variable {guard : List (Event Resp) → Req → Prop} {fails : List (Event Resp) → ε → Prop}
variable {P : List (Event Resp) → Prop}
variable {ok : List (Event Resp) → β → Prop}
section
variable (hflow : flow.Makes made)
include hflow

lemma Makes.bind (hnext : ∀ value, (next value).Makes made) : (flow >>= next).Makes made :=
  ⟨fun caller own => keeps_bind.mpr
    ((hflow.only caller own).mono (fun own' value _ => (hnext value).only caller own') fun _ _ h => h)⟩

lemma Makes.attempt : flow.attempt.Makes made := ⟨fun caller own => keeps_attempt.mpr (hflow.only caller own)⟩

lemma Makes.mono (hmade : ∀ r, made r → made' r) : flow.Makes made' :=
  ⟨fun caller own => Call.Keeps.imp (hflow.only caller own) (fun _ r => hmade r) fun _ _ h => h⟩

/-- Such a flow, while a fact about the steps taken so far lasts that its requests leave
    alone. -/
lemma Makes.within (hP : P own) (hlasts : ∀ own' r resp, P own' → made r → P (⟨caller, r, resp⟩ :: own')) :
    flow.call.Keeps caller (fun own' r => P own' ∧ made r) (fun own' _ => P own') own :=
  (Call.Keeps.mono (hflow.only caller own) fun _ _ _ => trivial).lasting hP hlasts

/-- A flow of such requests, while a fact about the steps taken so far lasts that such
    requests leave alone. -/
lemma Makes.lasting {ok : List (Event Resp) → α → Prop}
    (hP : P own) (hlasts : ∀ own' r resp, P own' → made r → P (⟨caller, r, resp⟩ :: own'))
    (hguard : ∀ own' r, P own' → made r → guard own' r) (hok : ∀ own' value, P own' → ok own' value)
    (hfails : ∀ own' err, P own' → fails own' err) : flow.Keeps caller guard ok fails own := by
  refine (hflow.within hP hlasts).imp (fun own' r h => hguard own' r h.1 h.2) ?_
  intro own' result hafter
  cases result with
  | ok value => exact hok own' value hafter
  | error err => exact hfails own' err hafter

/-- A flow of such requests keeps to a guard they satisfy. -/
lemma Makes.keeps {ok : List (Event Resp) → α → Prop}
    (hguard : ∀ own' r, own <:+ own' → made r → guard own' r) (hok : ∀ own' value, own <:+ own' → ok own' value)
    (hfails : ∀ own' err, own <:+ own' → fails own' err) : flow.Keeps caller guard ok fails own :=
  hflow.lasting (List.suffix_refl own) (fun _ _ _ h _ => h.later) hguard hok hfails

/-- Such a flow, followed by another one. -/
lemma Makes.followed (hguard : ∀ own' r, own <:+ own' → made r → guard own' r)
    (hnext : ∀ own' value, own <:+ own' → (next value).Yields caller guard ok own') :
    (flow >>= next).Yields caller guard ok own :=
  keeps_bind.mpr (hflow.keeps hguard hnext fun _ _ _ => trivial)

/-- A flow during which such a fact lasts, followed by another one. -/
lemma Makes.through (hP : P own) (hlasts : ∀ own' r resp, P own' → made r → P (⟨caller, r, resp⟩ :: own'))
    (hguard : ∀ own' r, P own' → made r → guard own' r) (hfails : ∀ own' err, P own' → fails own' err)
    (hnext : ∀ own' value, P own' → (next value).Keeps caller guard ok fails own') :
    (flow >>= next).Keeps caller guard ok fails own :=
  keeps_bind.mpr (hflow.lasting hP hlasts hguard hnext hfails)

end
end Makes

section Completes
variable {made : Req → Prop}
variable (made) in
/-- Every request of the flow satisfies `made`, and it does not fail. -/
@[grind]
structure Completes (flow : Routine Resp ε α) : Prop where
  only : ∀ caller own, flow.Keeps caller (fun _ r => made r) (fun _ _ => True) (fun _ _ => False) own

lemma Completes.pure (value : α) : (pure value : Routine Resp ε α).Completes made := ⟨fun _ _ => trivial⟩

variable {flow : Routine Resp ε α} {next : α → Routine Resp ε β}

lemma Completes.bind (hflow : flow.Completes made)
    (hnext : ∀ value, (next value).Completes made) : (flow >>= next).Completes made :=
  ⟨fun caller own => keeps_bind.mpr
    ((hflow.only caller own).mono (fun own' value _ => (hnext value).only caller own') fun _ _ h => h)⟩

lemma Completes.ite {first second : Routine Resp ε α} (hfirst : c → first.Completes made)
    (hsecond : ¬ c → second.Completes made) : (if c then first else second).Completes made := by
  split
  · exact hfirst ‹c›
  · exact hsecond ‹¬ c›

lemma Makes.attempted (hflow : flow.Makes made) : flow.attempt.Completes made :=
  ⟨fun caller own => keeps_attempt.mpr (hflow.only caller own)⟩

lemma Completes.makes (hflow : flow.Completes made) : flow.Makes made :=
  ⟨fun caller own => (hflow.only caller own).mono (fun _ _ _ => trivial) fun _ _ _ => trivial⟩

/-- Such a flow, followed by another one, while a fact about the steps taken so far lasts
    that its requests leave alone. -/
lemma Completes.through (hflow : flow.Completes made) {guard : List (Event Resp) → Req → Prop}
    {P : List (Event Resp) → Prop} {ok : List (Event Resp) → β → Prop} {fails : List (Event Resp) → ε → Prop}
    (hP : P own) (hlasts : ∀ own' r resp, P own' → made r → P (⟨caller, r, resp⟩ :: own'))
    (hguard : ∀ own' r, P own' → made r → guard own' r)
    (hnext : ∀ own' value, P own' → (next value).Keeps caller guard ok fails own') :
    (flow >>= next).Keeps caller guard ok fails own := by
  have hboth := Call.Keeps.and (hflow.makes.within hP hlasts) (hflow.only caller own)
  refine keeps_bind.mpr (hboth.imp (fun own' r h => hguard own' r h.1.1 h.1.2) ?_)
  rintro own' result ⟨hafter, hok⟩
  cases result with
  | ok value => exact hnext own' value hafter
  | error err => exact hok.elim

end Completes
end Routine

namespace Call
variable {Req : Type} {Resp : Req → Type} {ι σ α : Type} {h : Handler Resp ι σ} {guard : σ → Req → Prop}

/-- What a call's text promises of its own steps, read against the store, when every
    step keeps the two in step. -/
lemma Keeps.runs {call : Call Resp α} {caller : Nat} {own : List (Event Resp)} {s : σ}
    {keeps : List (Event Resp) → Req → Prop} {post : List (Event Resp) → α → Prop}
    {agree : List (Event Resp) → σ → Prop} (hcall : call.Keeps caller keeps post own) (hagree : agree own s)
    (hstep : ∀ own' s' r, agree own' s' → keeps own' r →
      guard s' r ∧ ∀ input, agree (⟨caller, r, (h r input s').1⟩ :: own') (h r input s').2) :
    call.Runs h guard (fun result s' => ∃ own', agree own' s' ∧ post own' result) s := by
  induction call generalizing own s with
  | done result => exact ⟨own, hagree, hcall⟩
  | request r rest ih =>
    obtain ⟨hguard, hnext⟩ := hstep own s r hagree hcall.1
    exact ⟨hguard, fun input => ih _ (hcall.2 _) (hnext input)⟩

end Call

namespace Routine
variable {Req : Type} {Resp : Req → Type} {ι σ ε α β : Type} {h : Handler Resp ι σ} {guard : σ → Req → Prop}
variable (h guard) in
/-- The same for a flow that ends in a result or in an error. -/
def Runs (ok : α → σ → Prop) (fails : ε → σ → Prop) (s : σ) (flow : Routine Resp ε α) : Prop :=
  flow.call.Runs h guard
    (fun result s' => match result with
      | .ok value => ok value s'
      | .error err => fails err s') s

variable {ok ok' : α → σ → Prop} {fails fails' : ε → σ → Prop} {s : σ} {r : Req} {c : Prop} [Decidable c]

@[simp]
lemma runs_pure {value : α} : (pure value : Routine Resp ε α).Runs h guard ok fails s ↔ ok value s := Iff.rfl

@[simp]
lemma runs_ask {ok : Resp r → σ → Prop} : (ask r : Routine Resp ε (Resp r)).Runs h guard ok fails s ↔
      guard s r ∧ ∀ input, ok (h r input s).1 (h r input s).2 := Iff.rfl

variable {flow : Routine Resp ε α} {next : α → Routine Resp ε β}

@[simp]
lemma runs_bind {ok : β → σ → Prop} : (flow >>= next).Runs h guard ok fails s ↔
      flow.Runs h guard (fun value s' => (next value).Runs h guard ok fails s') fails s := by
  refine Call.runs_bind.trans ?_
  constructor
  all_goals
    intro hrun
    refine hrun.mono fun result s' => ?_
    cases result with
    | ok | error => exact id

@[simp]
lemma runs_attempt {ok : Except ε α → σ → Prop} : flow.attempt.Runs h guard ok fails s ↔
      flow.Runs h guard (fun value s' => ok (.ok value) s') (fun err s' => ok (.error err) s') s := by
  refine Call.runs_bind.trans ?_
  constructor
  all_goals
    intro hrun
    refine hrun.mono fun result s' => ?_
    cases result with
    | ok | error => exact id

variable {first second : Routine Resp ε α}

@[simp]
lemma runs_ite : (if c then first else second).Runs h guard ok fails s ↔
      (c → first.Runs h guard ok fails s) ∧ (¬ c → second.Runs h guard ok fails s) := by
  split
  · grind
  · grind

lemma Runs.bind {ok : β → σ → Prop}
    (hflow : flow.Runs h guard (fun value s' => (next value).Runs h guard ok fails s') fails s) :
    (flow >>= next).Runs h guard ok fails s := runs_bind.mpr hflow

lemma Runs.ask {next : Resp r → Routine Resp ε α} (hguard : guard s r)
    (hnext : ∀ input, (next (h r input s).1).Runs h guard ok fails (h r input s).2) :
    (Routine.ask r >>= next).Runs h guard ok fails s := .bind ⟨hguard, hnext⟩

lemma Runs.ite
    (hfirst : c → first.Runs h guard ok fails s) (hsecond : ¬ c → second.Runs h guard ok fails s) :
    (if c then first else second).Runs h guard ok fails s := runs_ite.mpr ⟨hfirst, hsecond⟩

lemma Runs.mono (hflow : flow.Runs h guard ok fails s) (hok : ∀ value s', ok value s' → ok' value s')
    (hfails : ∀ err s', fails err s' → fails' err s') : flow.Runs h guard ok' fails' s := by
  refine Call.Runs.mono hflow fun result s' => ?_
  cases result with
  | ok value => exact hok value s'
  | error err => exact hfails err s'

lemma Runs.seq {mid : α → σ → Prop} {ok : β → σ → Prop} (hflow : flow.Runs h guard mid fails s)
    (hnext : ∀ value s', mid value s' → (next value).Runs h guard ok (fun _ _ => True) s') :
    (flow >>= next).Runs h guard ok (fun _ _ => True) s := .bind (hflow.mono hnext fun _ _ _ => trivial)

/-- A flow whose requests are all of a kind that keeps a fact about the store. -/
lemma Makes.runs {made : Req → Prop} (hflow : flow.Makes made) {kept : σ → Prop}
    (hstep : ∀ s' r, kept s' → made r → guard s' r ∧ ∀ input, kept (h r input s').2) (hkept : kept s)
    (hok : ∀ value s', kept s' → ok value s') (hfails : ∀ err s', kept s' → fails err s') :
    flow.Runs h guard ok fails s := by
  have hruns : flow.call.Runs h guard (fun _ s' => ∃ _ : List (Event Resp), kept s' ∧ _) s :=
    Call.Keeps.runs (hflow.only 0 []) hkept fun _ s' r => hstep s' r
  refine hruns.mono ?_
  rintro result s' ⟨-, hkept', -⟩
  cases result with
  | ok value => exact hok value s' hkept'
  | error err => exact hfails err s' hkept'

end Routine
