import Identity.Memory.Store

open identity.service
namespace identity.memory

/-- How a one-time code reaches its holder: sign-in codes are emailed to an address,
    verification codes are texted to a user. -/
inductive CodeChannel where
  | email
  | phone
deriving DecidableEq

def Repo.codes (r : Repo) : CodeChannel → GoMap String OneTimeCodeRecord
  | .email => r.emailLoginCodes
  | .phone => r.phoneVerifyCodes

def Repo.setCodes (r : Repo) (channel : CodeChannel) (table : GoMap String OneTimeCodeRecord) : Repo :=
  match channel with
  | .email => { r with emailLoginCodes := table }
  | .phone => { r with phoneVerifyCodes := table }

/-- The refusal of a channel's consume step. -/
def CodeChannel.invalid : CodeChannel → Sentinel
  | .email => .emailLoginCodeInvalid
  | .phone => .phoneCodeInvalid

/-- At most one code per holder: the previous one is dropped first. -/
def Repo.upsertCode (r : Repo) (channel : CodeChannel) (rec : OneTimeCodeRecord) : String × Repo :=
  let r := r.setCodes channel ((r.codes channel).keep fun c => c.holder != rec.holder)
  let (id, r) := r.nextID
  (id, r.setCodes channel ((r.codes channel).insert id { rec with nodeID := id }))

def Repo.findCode (r : Repo) (channel : CodeChannel) (holder : String) : Option OneTimeCodeRecord :=
  (r.codes channel).findRow fun c => c.holder == holder

def Repo.incrementCodeAttempts (r : Repo) (channel : CodeChannel) (operation nodeID : String) :
    Except Err Unit × Repo :=
  match (r.codes channel).lookup nodeID with
  | none => (.error (.text ("memory: " ++ operation ++ ": " ++ nodeID ++ " not found")), r)
  | some c =>
    (.ok (), r.setCodes channel ((r.codes channel).insert nodeID { c with attemptCount := c.attemptCount + 1 }))

/-- Consumes whatever code the holder has now, if it is unconsumed and unexpired. -/
def Repo.consumeCode (r : Repo) (channel : CodeChannel) (holder : String) (atMs : Int) :
    Except Err OneTimeCodeRecord × Repo :=
  match (r.codes channel).entries.find? fun entry => entry.2.holder == holder with
  | none => (.error (.sentinel channel.invalid), r)
  | some entry =>
    if entry.2.consumedAt ≠ 0 || entry.2.expiresAt ≤ atMs then (.error (.sentinel channel.invalid), r)
    else
      let consumed := { entry.2 with consumedAt := atMs }
      (.ok consumed, r.setCodes channel ((r.codes channel).insert entry.1 consumed))

def Repo.upsertEmailLoginCode (r : Repo) (rec : OneTimeCodeRecord) : String × Repo := r.upsertCode .email rec

def Repo.findEmailLoginCodeByEmail (r : Repo) (email : String) : Option OneTimeCodeRecord :=
  r.findCode .email email

def Repo.incrementEmailLoginCodeAttempts (r : Repo) (nodeID : String) : Except Err Unit × Repo :=
  r.incrementCodeAttempts .email "IncrementEmailLoginCodeAttempts" nodeID

def Repo.consumeEmailLoginCode (r : Repo) (email : String) (atMs : Int) : Except Err OneTimeCodeRecord × Repo :=
  r.consumeCode .email email atMs

def Repo.upsertPhoneVerificationCode (r : Repo) (rec : OneTimeCodeRecord) : String × Repo :=
  r.upsertCode .phone rec

def Repo.findPhoneVerificationCodeByUser (r : Repo) (userID : String) : Option OneTimeCodeRecord :=
  r.findCode .phone userID

def Repo.incrementPhoneVerificationCodeAttempts (r : Repo) (nodeID : String) : Except Err Unit × Repo :=
  r.incrementCodeAttempts .phone "IncrementPhoneVerificationCodeAttempts" nodeID

def Repo.consumePhoneVerificationCode (r : Repo) (userID : String) (atMs : Int) :
    Except Err OneTimeCodeRecord × Repo :=
  r.consumeCode .phone userID atMs

def Repo.findQrLoginSession (r : Repo) (sessionID : String) : Option QrLoginSessionRecord :=
  r.qrSessions.findRow fun s => s.sessionID == sessionID

def Repo.createQrLoginSession (r : Repo) (rec : QrLoginSessionRecord) : String × Repo :=
  let (id, r) := r.nextID
  (id, { r with qrSessions := r.qrSessions.insert id { rec with nodeID := id } })

/-- The four columns an update of a QR session may write. -/
def applyQrFields (s : QrLoginSessionRecord) (fields : Fields) : QrLoginSessionRecord :=
  { s with
    status := patchedText fields "status" s.status
    userID := patchedText fields "user_id" s.userID
    approvedDeviceInfo := patchedText fields "approved_device_info" s.approvedDeviceInfo
    updatedAt := patchedInt fields "updated_at" s.updatedAt }

/-- Unconditional: the status the row has does not matter. -/
def Repo.updateQrLoginSession (r : Repo) (nodeID : String) (fields : Fields) : Except Err Unit × Repo :=
  match r.qrSessions.lookup nodeID with
  | none => (.error (.text ("qr session " ++ nodeID ++ " not found")), r)
  | some s => (.ok (), { r with qrSessions := r.qrSessions.insert nodeID (applyQrFields s fields) })

/-- Compare-and-set from approved to consumed. -/
def Repo.consumeQrLoginSession (r : Repo) (nodeID : String) (atMs : Int) : Except Err Unit × Repo :=
  match r.qrSessions.lookup nodeID with
  | none => (.error (.sentinel .qrLoginNotPending), r)
  | some s =>
    if s.status ≠ "approved" then (.error (.sentinel .qrLoginNotPending), r)
    else
      (.ok (), { r with qrSessions := r.qrSessions.insert nodeID { s with status := "consumed", updatedAt := atMs } })

/-- A session a poll could still collect or a person still decide. -/
@[grind =]
def QrOpen (status : String) : Prop := status = "pending" ∨ status = "approved"

/-- A session that has been decided against, has lapsed or has been collected. -/
@[grind =]
def QrClosed (status : String) : Prop := status = "rejected" ∨ status = "expired" ∨ status = "consumed"

lemma QrClosed.not_open (hclosed : QrClosed status) : ¬ QrOpen status := by grind

/-- A row keeps its names, and changes only while it is open. -/
@[grind]
structure QrMovesTo (s s' : QrLoginSessionRecord) : Prop where
  nodeID : s'.nodeID = s.nodeID
  sessionID : s'.sessionID = s.sessionID
  open_of_ne : s' ≠ s → QrOpen s.status

lemma QrMovesTo.refl (s : QrLoginSessionRecord) : QrMovesTo s s := ⟨rfl, rfl, fun h => absurd rfl h⟩

/-- The session has been collected. -/
@[grind =]
def QrConsumed (nodeID : String) (r : Repo) : Prop :=
  ∃ row, r.qrSessions.lookup nodeID = some row ∧ row.status = "consumed"

section
variable (r : Repo) (nodeID : String) (atMs : Int)

/-- The compare-and-set: refused, or from approved to consumed. -/
lemma consumeQrLoginSession_cases :
    (∃ err, r.consumeQrLoginSession nodeID atMs = (.error err, r)) ∨
      ∃ row, r.qrSessions.lookup nodeID = some row ∧ row.status = "approved" ∧
        r.consumeQrLoginSession nodeID atMs = (.ok (),
          { r with
            qrSessions := r.qrSessions.insert nodeID { row with status := "consumed", updatedAt := atMs } }) := by
  unfold Repo.consumeQrLoginSession
  cases hrow : r.qrSessions.lookup nodeID with
  | none => exact .inl ⟨_, rfl⟩
  | some row => grind

lemma consumeQrLoginSession_moves :
    r.qrSessions.Pointwise QrMovesTo (r.consumeQrLoginSession nodeID atMs).2.qrSessions := by
  rcases consumeQrLoginSession_cases r nodeID atMs with ⟨err, heq⟩ | ⟨row, hrow, happroved, heq⟩
  · rw [heq]
    exact .refl QrMovesTo.refl _
  · grind [GoMap.pointwise_insert]

end

/-- Rows are stored under their own id, and the session has one row at most. -/
@[grind]
structure QrUnique (sessionID : String) (r : Repo) : Prop where
  keyed : ∀ key row, r.qrSessions.lookup key = some row → row.nodeID = key
  unique : ∀ key₁ key₂ row₁ row₂, r.qrSessions.lookup key₁ = some row₁ → r.qrSessions.lookup key₂ = some row₂ →
    row₁.sessionID = sessionID → row₂.sessionID = sessionID → key₁ = key₂

lemma QrUnique.moves (hunique : QrUnique sessionID r)
    (hmoves : r.qrSessions.Pointwise QrMovesTo r'.qrSessions) : QrUnique sessionID r' where
  keyed := by grind [hmoves.lookup_some_inv]
  unique := by grind [hmoves.lookup_some_inv]

/-- A session that is found is the row under its own id. -/
lemma QrUnique.found (hunique : QrUnique sessionID r) (hfound : r.findQrLoginSession sessionID = some s) :
    r.qrSessions.lookup s.nodeID = some s ∧ s.sessionID = sessionID := by
  obtain ⟨⟨key, hkey⟩, hsession⟩ := GoMap.findRow_some hfound
  rw [hunique.keyed key s hkey]
  exact ⟨hkey, beq_iff_eq.mp hsession⟩

open Repo GoMap

/-- The name is not one the store can still generate. -/
@[grind =]
def Used (r : Repo) (id : String) : Prop := ∀ n, r.seq < n → id ≠ memID n

/-- What a row says about the code it holds. -/
@[grind]
structure SameCode (c c' : OneTimeCodeRecord) : Prop where
  nodeID : c'.nodeID = c.nodeID
  holder : c'.holder = c.holder
  codeHash : c'.codeHash = c.codeHash
  expiresAt : c'.expiresAt = c.expiresAt
  maxAttempts : c'.maxAttempts = c.maxAttempts

lemma SameCode.refl (c : OneTimeCodeRecord) : SameCode c c := ⟨rfl, rfl, rfl, rfl, rfl⟩

lemma SameCode.trans (h12 : SameCode c₁ c₂) (h23 : SameCode c₂ c3) : SameCode c₁ c3 :=
  ⟨h23.nodeID.trans h12.nodeID, h23.holder.trans h12.holder, h23.codeHash.trans h12.codeHash,
    h23.expiresAt.trans h12.expiresAt, h23.maxAttempts.trans h12.maxAttempts⟩

/-- A row is still about the same code, its attempts only grow, and it stays consumed. -/
@[grind]
structure CodeMoves (c c' : OneTimeCodeRecord) : Prop where
  same : SameCode c c'
  attempts : c.attemptCount ≤ c'.attemptCount
  consumed : c.consumedAt ≠ 0 → c'.consumedAt ≠ 0

lemma CodeMoves.refl (c : OneTimeCodeRecord) : CodeMoves c c := ⟨.refl c, Int.le_refl _, id⟩

/-- The codes of a channel: each row under its own name, which the store will not hand
    out again, one per holder. -/
@[grind]
structure CodesKept (channel : CodeChannel) (r : Repo) : Prop where
  keyed : ∀ key c, (r.codes channel).lookup key = some c → c.nodeID = key
  single : ∀ key₁ key₂ c₁ c₂, (r.codes channel).lookup key₁ = some c₁ → (r.codes channel).lookup key₂ = some c₂ →
    c₁.holder = c₂.holder → key₁ = key₂
  used : ∀ key c, (r.codes channel).lookup key = some c → Used r key
  counted : ∀ key c, (r.codes channel).lookup key = some c → 0 ≤ c.attemptCount

/-- One step of a channel's table: a row that is there afterwards was there before, or
    is under a name that was new. -/
@[grind]
structure CodeStep (channel : CodeChannel) (r r' : Repo) : Prop where
  seq_le : r.seq ≤ r'.seq
  rows : ∀ key c', (r'.codes channel).lookup key = some c' →
    (∃ c, (r.codes channel).lookup key = some c ∧ CodeMoves c c') ∨ ¬ Used r key

variable {channel : CodeChannel} {r : Repo}

lemma CodeStep.used (hstep : CodeStep channel r r') {id : String} (hused : Used r id) : Used r' id :=
  fun n hn => hused n (Nat.lt_of_le_of_lt hstep.seq_le hn)

lemma CodeStep.of_codes_eq (hseq : r.seq ≤ r'.seq) (hcodes : r'.codes channel = r.codes channel) :
    CodeStep channel r r' := by
  refine ⟨hseq, fun key c' hc' => .inl ⟨c', ?_, .refl c'⟩⟩
  rw [← hcodes]
  exact hc'

/-- What is known of the row under a used name, if there still is one, stays known. -/
lemma CodeStep.stays (hstep : CodeStep channel r r') {id : String} (hused : Used r id)
    {known : OneTimeCodeRecord → Prop} (hmoves : ∀ c c', CodeMoves c c' → known c → known c')
    (hknown : ∀ c, (r.codes channel).lookup id = some c → known c) :
    ∀ c', (r'.codes channel).lookup id = some c' → known c' := by
  intro c' hc'
  rcases hstep.rows id c' hc' with ⟨c, hc, hmove⟩ | hnew
  · exact hmoves c c' hmove (hknown c hc)
  · exact absurd hused hnew

@[simp]
lemma codes_setCodes : (r.setCodes channel table).codes channel = table := by
  cases channel <;> rfl

lemma codes_setCodes_ne (hne : other ≠ channel) : (r.setCodes other table).codes channel = r.codes channel := by
  cases channel <;> cases other <;> first | rfl | exact absurd rfl hne

@[simp]
lemma seq_setCodes : (r.setCodes channel table).seq = r.seq := by
  cases channel <;> rfl

section Upsert
variable (channel r) (code : OneTimeCodeRecord)

lemma upsertCode_fst : (r.upsertCode channel code).1 = memID (r.seq + 1) := by
  simp [upsertCode, nextID]

lemma upsertCode_seq : (r.upsertCode channel code).2.seq = r.seq + 1 := by
  simp [upsertCode, nextID]

lemma upsertCode_codes : (r.upsertCode channel code).2.codes channel =
    ((r.codes channel).keep fun c => c.holder != code.holder).insert (memID (r.seq + 1))
      { code with nodeID := memID (r.seq + 1) } := by
  cases channel <;> rfl

lemma upsertCode_codes_ne (hne : other ≠ channel) : (r.upsertCode other code).2.codes channel = r.codes channel := by
  cases channel <;> cases other <;> first | rfl | exact absurd rfl hne

end Upsert

/-- The rows after an upsert: the new one, and those of other holders. -/
lemma lookup_upsertCode : ((r.upsertCode channel code).2.codes channel).lookup key = some c ↔
      (key = memID (r.seq + 1) ∧ c = { code with nodeID := memID (r.seq + 1) }) ∨
        (key ≠ memID (r.seq + 1) ∧ (r.codes channel).lookup key = some c ∧ c.holder ≠ code.holder) := by
  rw [upsertCode_codes, lookup_insert_eq]
  by_cases hkey : key = memID (r.seq + 1)
  · simp [hkey, eq_comm]
  · simp [hkey, lookup_keep_eq_some]

lemma upsertCode_step (channel' : CodeChannel) (r : Repo) (code : OneTimeCodeRecord) :
    CodeStep channel r (r.upsertCode channel' code).2 := by
  have hseq : r.seq ≤ (r.upsertCode channel' code).2.seq := by
    rw [upsertCode_seq]
    exact Nat.le_succ _
  by_cases hchannel : channel' = channel
  · grind [lookup_upsertCode]
  · exact .of_codes_eq hseq (upsertCode_codes_ne channel r code hchannel)

lemma incrementCodeAttempts_cases (channel : CodeChannel) (r : Repo) (operation nodeID : String) :
    (∃ c, (r.codes channel).lookup nodeID = some c ∧ r.incrementCodeAttempts channel operation nodeID =
      (.ok (), r.setCodes channel ((r.codes channel).insert nodeID { c with attemptCount := c.attemptCount + 1 }))) ∨
    ((r.codes channel).lookup nodeID = none ∧ ∃ err, r.incrementCodeAttempts channel operation nodeID =
      (.error err, r)) := by
  unfold incrementCodeAttempts
  cases hc : (r.codes channel).lookup nodeID with
  | none => exact .inr ⟨rfl, _, rfl⟩
  | some c => exact .inl ⟨c, rfl, rfl⟩

section
variable (hkept : CodesKept channel r)
include hkept

lemma CodesKept.of_codes_eq (hseq : r.seq ≤ r'.seq)
    (hcodes : r'.codes channel = r.codes channel) : CodesKept channel r' where
  keyed := by rw [hcodes]; exact hkept.keyed
  single := by rw [hcodes]; exact hkept.single
  used := by grind
  counted := by rw [hcodes]; exact hkept.counted

lemma CodesKept.upsertCode (hcounted : 0 ≤ code.attemptCount) : CodesKept channel (r.upsertCode channel code).2 where
  keyed := by grind [lookup_upsertCode]
  single := by grind [lookup_upsertCode]
  used := by grind [upsertCode_seq, lookup_upsertCode, memID_injective]
  counted := by grind [lookup_upsertCode]

/-- A row is rewritten in place. -/
lemma CodesKept.rewrite (hc : (r.codes channel).lookup key = some c) (hmoves : CodeMoves c c') :
    CodesKept channel (r.setCodes channel ((r.codes channel).insert key c')) ∧
      CodeStep channel r (r.setCodes channel ((r.codes channel).insert key c')) := by
  have hrow : ∀ query d', ((r.codes channel).insert key c').lookup query = some d' →
      ∃ d, (r.codes channel).lookup query = some d ∧ CodeMoves d d' := by
    intro query d' hd'
    rw [lookup_insert_eq] at hd'
    split at hd'
    · cases hd'
      subst query
      exact ⟨c, hc, hmoves⟩
    · exact ⟨d', hd', .refl d'⟩
  refine ⟨⟨?_, ?_, ?_, ?_⟩, ⟨?_, ?_⟩⟩
  all_goals simp only [codes_setCodes, seq_setCodes, Used]
  · grind
  · grind
  · grind
  · grind
  · exact le_rfl
  · exact fun query d' hd' => .inl (hrow query d' hd')

lemma CodesKept.found (hfound : r.findCode channel holder = some s) :
    (r.codes channel).lookup s.nodeID = some s ∧ s.holder = holder := by
  obtain ⟨⟨key, hkey⟩, hholder⟩ := findRow_some hfound
  rw [hkept.keyed key s hkey]
  exact ⟨hkey, beq_iff_eq.mp hholder⟩

/-- A consume takes the holder's row if it is unconsumed and unexpired, and is refused
    otherwise. -/
lemma CodesKept.consumeCode_cases (holder : String) (atMs : Int) :
    (∃ c, (r.codes channel).lookup c.nodeID = some c ∧ c.holder = holder ∧ c.consumedAt = 0 ∧
      r.consumeCode channel holder atMs = (.ok { c with consumedAt := atMs },
        r.setCodes channel ((r.codes channel).insert c.nodeID { c with consumedAt := atMs }))) ∨
    ((∃ err, r.consumeCode channel holder atMs = (.error err, r)) ∧
      ∀ key c, (r.codes channel).lookup key = some c → c.holder = holder → c.consumedAt ≠ 0 ∨ c.expiresAt ≤ atMs) := by
  unfold consumeCode
  cases hentry : (r.codes channel).entries.find? fun entry => entry.2.holder == holder with
  | none =>
    refine .inr ⟨⟨_, rfl⟩, fun key c hc hholder => ?_⟩
    have hmem := AList.mem_lookup_iff.mp (Option.mem_def.mpr hc)
    exact absurd (beq_iff_eq.mpr hholder) (List.find?_eq_none.mp hentry _ hmem)
  | some entry =>
    have hlookup : (r.codes channel).lookup entry.1 = some entry.2 :=
      Option.mem_def.mp (AList.mem_lookup_iff.mpr (List.mem_of_find?_eq_some hentry))
    grind

end
end identity.memory
