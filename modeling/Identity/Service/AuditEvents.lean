import Mathlib.Algebra.Order.Ring.Int
import Identity.GoStrings.Basic

namespace strconv

/-- `Atoi` of a decimal with or without a sign, `none` where it fails. -/
def atoiSigned (s : String) : Option Int :=
  let parsed : Option Int := match s.toList with
    | '-' :: digits => (atoi (String.ofList digits)).map fun n => -(n : Int)
    | '+' :: digits => (atoi (String.ofList digits)).map Int.ofNat
    | _ => (atoi s).map Int.ofNat
  parsed.filter fun n => decide (-2 ^ 63 ≤ n) && decide (n < 2 ^ 63)

def itoa (n : Int) : String := toString n

lemma atoi_repr (n : Nat) : atoi n.repr = some n := by
  have hdigits : (Nat.toDigits 10 n).all Char.isDigit = true :=
    List.all_eq_true.mpr fun r => Nat.isDigit_of_mem_toDigits (by decide) (by decide)
  have hvalue := Nat.ofDigitChars_ten_toDigits (n := n)
  simp only [Nat.ofDigitChars_eq_foldl, Nat.mul_comm 10] at hvalue
  simp only [atoi, Nat.repr_eq_ofList_toDigits, String.toList_ofList, hdigits]
  rw [if_neg (by simp)]
  exact congrArg some hvalue

lemma atoiSigned_itoa {n : Nat} (hfits : n < 2 ^ 63) : atoiSigned (itoa n) = some n := by
  have hdigit : ∀ r ∈ (Nat.repr n).toList, r.isDigit = true := by
    rw [Nat.repr_eq_ofList_toDigits, String.toList_ofList]
    exact fun r => Nat.isDigit_of_mem_toDigits (by decide) (by decide)
  have hrepr : itoa n = n.repr := rfl
  rw [atoiSigned, hrepr]
  split
  · rename_i hsign
    exact absurd (hdigit '-' (by simp [hsign])) (by decide)
  · rename_i hsign
    exact absurd (hdigit '+' (by simp [hsign])) (by decide)
  · rw [atoi_repr]
    simp
    omega

end strconv

namespace identity.service

/-- What a listing reads of a stored audit event. -/
structure AuditNode where
  id : String
  targetUserID : String
  eventType : String
  createdAt : Int

/-- What a listing asks for. -/
structure AuditQuery where
  targetID : String
  eventType : String
  startTime : Int
  endTime : Int
  limit : Int

/-- What the graph store answers: the role of the caller, if there is one, and the audit events. -/
structure AuditStore where
  actorRole : Except String (Option String)
  nodes : Except String (List AuditNode)

/-- The store's filter and the time range. -/
def AuditQuery.selects (q : AuditQuery) (n : AuditNode) : Bool :=
  (q.targetID == "" || n.targetUserID == q.targetID) && (q.eventType == "" || n.eventType == q.eventType) &&
    !(q.startTime > 0 && n.createdAt < q.startTime) && !(q.endTime > 0 && n.createdAt > q.endTime)

def pageLimit (limit : Int) : Int :=
  let limit := if limit ≤ 0 then 50 else limit
  if limit > 500 then 500 else limit

/-- A cursor that is no number starts over. -/
def cursorOffset (cursor : String) : Int :=
  if cursor = "" then 0 else (strconv.atoiSigned cursor).getD 0

/-- `s[lo:hi]`, `none` where it panics. -/
def slice {α : Type} (s : List α) (lo hi : Int) : Option (List α) :=
  if 0 ≤ lo ∧ lo ≤ hi ∧ hi ≤ s.length then some ((s.drop lo.toNat).take (hi - lo).toNat) else none

/-- A page and the cursor of the next one, empty after the last. The sum of two 64-bit
    integers wraps. -/
def pageFrom {α : Type} (filtered : List α) (limit : Int) (cursor : String) : Option (List α × String) :=
  let offset := cursorOffset cursor
  let totalCount : Int := filtered.length
  let stop := min ((offset + pageLimit limit).bmod (2 ^ 64)) totalCount
  let page := if offset < totalCount then slice filtered offset stop else some []
  page.map fun page => (page, if stop < totalCount then strconv.itoa stop else "")

/-- The events of a page, or why there is none; the whole is `none` when the call panics. -/
def listAuditEvents {β : Type} (auditEventFromNode : AuditNode → β) (db : AuditStore) (q : AuditQuery)
    (cursor : String) : Option (Except String (List β × String)) :=
  match db.actorRole, db.nodes with
  | .error err, _ => some (.error ("fetch actor: " ++ err))
  | .ok none, _ => some (.error "actor user not found")
  | .ok (some role), nodes =>
    if strings.toLower role ≠ "admin" then some (.error "admin role required")
    else match nodes with
      | .error err => some (.error ("list audit events: " ++ err))
      | .ok nodes => (pageFrom (nodes.filter q.selects) q.limit cursor).map fun (page, nextCursor) =>
          .ok (page.map auditEventFromNode, nextCursor)

/-- Ask for a page and for the pages after it, at most so many. -/
def followCursors {β : Type} (call : String → Option (Except String (List β × String))) : Nat →
    String → Option (List β)
  | 0, _ => none
  | calls + 1, cursor =>
    match call cursor with
    | some (.ok (events, next)) => if next = "" then some events else (followCursors call calls next).map (events ++ ·)
    | _ => none

/-- An admin asks, and the store has the events. -/
def AuditStore.Lists (db : AuditStore) (nodes : List AuditNode) : Prop :=
  (∃ role, db.actorRole = .ok (some role) ∧ strings.toLower role = "admin") ∧ db.nodes = .ok nodes

section Pages
variable {α β : Type} {filtered : List α} {cursor : String} (limit : Int)

lemma pageLimit_bounds : 0 < pageLimit limit ∧ pageLimit limit ≤ 500 := by
  unfold pageLimit
  grind

/-- A cursor before the first event slices out of range. -/
lemma pageFrom_below (hbelow : cursorOffset cursor < 0) : pageFrom filtered limit cursor = none := by
  have hinside : cursorOffset cursor < filtered.length := by omega
  simp only [pageFrom, if_pos hinside, slice, not_le.mpr hbelow, false_and, if_false, Option.map_none]

/-- The page from an offset on, and where the next one starts. -/
lemma pageFrom_eq (hfits : filtered.length * 8 < 2 ^ 63) {k : Nat} (hcursor : cursorOffset cursor = k)
    (hle : k ≤ filtered.length) : ∃ size : Nat, 0 < size ∧ pageFrom filtered limit cursor =
      some ((filtered.drop k).take size, if size < filtered.length - k then strconv.itoa (k + size : Nat)
        else "") := by
  obtain ⟨hpos, hmax⟩ := pageLimit_bounds limit
  refine ⟨(pageLimit limit).toNat, by omega, ?_⟩
  have hsum : (k + pageLimit limit).bmod (2 ^ 64) = k + pageLimit limit := Int.bmod_eq_of_le (by omega) (by omega)
  have hpage : (if (k : Int) < filtered.length then slice filtered k (min (k + pageLimit limit) filtered.length)
      else some []) = some ((filtered.drop k).take (pageLimit limit).toNat) := by
    split
    · rw [slice, if_pos (by omega)]
      refine congrArg some (List.take_eq_take_iff.mpr ?_)
      simp only [List.length_drop, Int.toNat_natCast]
      omega
    · rw [List.drop_eq_nil_of_le (by omega), List.take_nil]
  simp only [pageFrom, hcursor, hsum, hpage, Option.map_some]
  congr 2
  split
  · rw [if_pos (by omega)]
    congr 1
    omega
  · rw [if_neg (by omega)]

/-- A cursor past the last event gives no events. -/
lemma pageFrom_isSome (hfits : filtered.length * 8 < 2 ^ 63) (hfrom : 0 ≤ cursorOffset cursor) :
    (pageFrom filtered limit cursor).isSome = true := by
  by_cases hle : (cursorOffset cursor).toNat ≤ filtered.length
  · obtain ⟨size, -, hpage⟩ := pageFrom_eq limit hfits (Int.toNat_of_nonneg hfrom).symm hle
    rw [hpage, Option.isSome_some]
  · have houtside : ¬ cursorOffset cursor < filtered.length := by omega
    simp only [pageFrom, if_neg houtside, Option.map_some, Option.isSome_some]

/-- Following the cursors from an offset on gives the events from there on. -/
lemma followCursors_from {render : α → β}
    (hcall : ∀ cursor, call cursor = (pageFrom filtered limit cursor).map
      fun (page, next) => .ok (page.map render, next))
    (hfits : filtered.length * 8 < 2 ^ 63) (calls : Nat) :
    ∀ cursor (k : Nat), cursorOffset cursor = k → k ≤ filtered.length → filtered.length - k < calls →
      followCursors call calls cursor = some ((filtered.drop k).map render) := by
  induction calls with
  | zero => exact fun cursor k _ _ henough => absurd henough (Nat.not_lt_zero _)
  | succ calls ih =>
    intro cursor k hcursor hle henough
    obtain ⟨size, hpos, hpage⟩ := pageFrom_eq limit hfits hcursor hle
    simp only [followCursors, hcall, hpage, Option.map_some]
    by_cases hmore : size < filtered.length - k
    · -- the next call starts where this page ends
      have hparsed := strconv.atoiSigned_itoa (n := k + size) (by omega)
      have hnot : strconv.itoa (k + size : Nat) ≠ "" := by
        intro hempty
        rw [hempty] at hparsed
        cases hparsed
      have hnext : cursorOffset (strconv.itoa (k + size : Nat)) = (k + size : Nat) := by
        rw [cursorOffset, if_neg hnot, hparsed]
        rfl
      rw [if_pos hmore, if_neg hnot, ih _ (k + size) hnext (by omega) (by omega), Option.map_some, ← List.drop_drop,
        ← List.map_append, List.take_append_drop]
    · rw [if_neg hmore, if_pos rfl, List.take_of_length_le]
      rw [List.length_drop]
      omega

end Pages

/-- A listing slices out of range exactly for a cursor below zero; the pages from the empty
    cursor on are the selected events, each once and in order. -/
theorem audit_events_listed {β : Type} (auditEventFromNode : AuditNode → β) (db : AuditStore) (nodes : List AuditNode)
    (hlists : db.Lists nodes) (hfits : nodes.length * 8 < 2 ^ 63) (q : AuditQuery) :
    (∀ cursor, listAuditEvents auditEventFromNode db q cursor ≠ none ↔ 0 ≤ cursorOffset cursor) ∧
      ∃ calls, followCursors (listAuditEvents auditEventFromNode db q) calls "" =
        some ((nodes.filter q.selects).map auditEventFromNode) := by
  obtain ⟨⟨role, hrole, hadmin⟩, hnodes⟩ := hlists
  have hcall : ∀ cursor, listAuditEvents auditEventFromNode db q cursor =
      (pageFrom (nodes.filter q.selects) q.limit cursor).map fun (page, next) =>
        .ok (page.map auditEventFromNode, next) := by
    intro cursor
    simp only [listAuditEvents, hrole, hnodes, hadmin, ne_eq, not_true_eq_false, if_false]
  have hfits : (nodes.filter q.selects).length * 8 < 2 ^ 63 := by
    have hlength := List.length_filter_le q.selects nodes
    omega
  refine ⟨fun cursor => ?_, _, followCursors_from q.limit hcall hfits _ "" 0 rfl (Nat.zero_le _) (Nat.lt_succ_self _)⟩
  rw [hcall, ne_eq, Option.map_eq_none_iff]
  refine ⟨fun hsome => ?_, fun hfrom hnone => ?_⟩
  · by_contra hbelow
    exact hsome (pageFrom_below q.limit (by omega))
  · have hpage := pageFrom_isSome q.limit hfits hfrom
    rw [hnone] at hpage
    cases hpage

def sampleAuditStore : AuditStore := ⟨.ok (some "Admin"), .ok [⟨"e1", "u1", "login", 5⟩, ⟨"e2", "u1", "login", 9⟩]⟩

theorem audit_events_listed_sample : listAuditEvents AuditNode.id sampleAuditStore ⟨"", "", 0, 0, 1⟩ "1" ≠ none := by
  refine ((audit_events_listed AuditNode.id sampleAuditStore _ ⟨⟨_, rfl, ?_⟩, rfl⟩ ?_ _).1 "1").mpr ?_
  all_goals decide +kernel

theorem audit_events_before_the_first : listAuditEvents AuditNode.id sampleAuditStore ⟨"", "", 0, 0, 1⟩ "-1" =
    none := by
  decide +kernel

end identity.service
