import Mathlib.Data.List.Basic

namespace identity.origin

/-- The bytes of a Go string. -/
abbrev Bytes : Type := List UInt8

/-- The slice `s[i:]`, out of range past the end. -/
def Bytes.sliceFrom (s : Bytes) (i : Nat) : Option Bytes := if i ≤ s.length then some (s.drop i) else none

/-- The loop of `oneEditApart`: the first index from `i` on at which `b` ends or the two differ. -/
def mismatch (a b : Bytes) (i : Nat) : Option Nat :=
  if i < b.length then do
    if (← a[i]?) = (← b[i]?) then mismatch a b (i + 1) else return i
  else some i
termination_by b.length - i

/-- The scan and the switch, with the longer string first. An index or a slice out of
    range has no result. -/
def editedAtMismatch (a b : Bytes) : Option Bool := do
  let i ← mismatch a b 0
  match a.length - b.length with
  | 0 =>
    if i = a.length then
      return false
    if (← a.sliceFrom (i + 1)) = (← b.sliceFrom (i + 1)) then
      return true
    if (← a[i]?) ≠ (← b[i + 1]?) then
      return false
    if (← a[i + 1]?) ≠ (← b[i]?) then
      return false
    return (← a.sliceFrom (i + 2)) == (← b.sliceFrom (i + 2))
  | 1 => return (← a.sliceFrom (i + 1)) == (← b.sliceFrom i)
  | _ => return false

def oneEditApart (a b : Bytes) : Option Bool :=
  if a.length < b.length then editedAtMismatch b a else editedAtMismatch a b

/-- One insertion, deletion, substitution or swap of two adjacent bytes, at the head or
    further on. -/
inductive Edit : Bytes → Bytes → Prop
  | insert (x : UInt8) (rest : Bytes) : Edit rest (x :: rest)
  | delete (x : UInt8) (rest : Bytes) : Edit (x :: rest) rest
  | substitute (x y : UInt8) (rest : Bytes) : Edit (x :: rest) (y :: rest)
  | swap (x y : UInt8) (rest : Bytes) : Edit (x :: y :: rest) (y :: x :: rest)
  | later (x : UInt8) (h : Edit a b) : Edit (x :: a) (x :: b)

lemma Edit.symm (h : Edit a b) : Edit b a := by
  induction h with
  | later x _ ih => exact .later x ih
  | _ => constructor

lemma edit_comm : a ≠ b ∧ Edit a b ↔ b ≠ a ∧ Edit b a := and_congr ne_comm ⟨.symm, .symm⟩

/-- An edit of two different strings with the same head can be made past it. -/
lemma edit_cons : x :: a ≠ x :: b ∧ Edit (x :: a) (x :: b) ↔ a ≠ b ∧ Edit a b := by
  refine ⟨fun ⟨hne, h⟩ => ⟨fun heq => hne (heq ▸ rfl), ?_⟩, fun ⟨hne, h⟩ => ⟨by simpa using hne, .later x h⟩⟩
  cases h with
  | insert | delete => constructor
  | substitute | swap => exact absurd rfl hne
  | later _ h => exact h

lemma edit_append (common : Bytes) :
    common ++ a ≠ common ++ b ∧ Edit (common ++ a) (common ++ b) ↔ a ≠ b ∧ Edit a b := by
  induction common with
  | nil => rfl
  | cons x rest ih => exact edit_cons.trans ih

/-- The edits at a mismatch. -/
lemma edit_of_ne (hne : x ≠ y) : Edit (x :: u) (y :: v) ↔
    u = v ∨ v = x :: u ∨ u = y :: v ∨ ∃ rest, u = y :: rest ∧ v = x :: rest := by
  constructor
  · intro h
    cases h <;> grind
  · rintro (rfl | rfl | rfl | ⟨rest, rfl, rfl⟩) <;> constructor

/-- Where the loop stops: the strings agree up to there, and the shorter one ends or the
    next bytes differ. -/
lemma mismatch_eq (before a b : Bytes) (hle : b.length ≤ a.length) :
    ∃ common a' b', a = common ++ a' ∧ b = common ++ b' ∧
      mismatch (before ++ a) (before ++ b) before.length = some (before.length + common.length) ∧
      (b' = [] ∨ ∃ x y u v, a' = x :: u ∧ b' = y :: v ∧ x ≠ y) := by
  induction b generalizing before a with
  | nil => exact ⟨[], a, [], rfl, rfl, by rw [mismatch]; simp, .inl rfl⟩
  | cons y v ih =>
    cases a with
    | nil => simp at hle
    | cons x u =>
      rw [mismatch]
      by_cases heq : x = y
      · subst heq
        obtain ⟨common, a', b', hu, hv, hstop, hdiffer⟩ := ih (before ++ [x]) u (by simpa using hle)
        refine ⟨x :: common, a', b', by simp [hu], by simp [hv], ?_, hdiffer⟩
        simp at hstop
        simp [hstop]
        omega
      · exact ⟨[], x :: u, y :: v, rfl, rfl, by simp [heq], .inr ⟨x, y, u, v, rfl, rfl, heq⟩⟩

lemma editedAtMismatch_iff (hle : b.length ≤ a.length) :
    ∃ edited, editedAtMismatch a b = some edited ∧ (edited = true ↔ a ≠ b ∧ Edit a b) := by
  obtain ⟨common, a', b', rfl, rfl, hstop, hdiffer⟩ := mismatch_eq [] a b hle
  rw [edit_append]
  simp only [List.nil_append, List.length_nil, Nat.zero_add] at hstop
  simp only [List.length_append, Nat.add_le_add_iff_left] at hle
  simp only [editedAtMismatch, hstop, Option.bind_eq_bind, Option.bind_some, List.length_append, Nat.add_sub_add_left]
  rcases hdiffer with rfl | ⟨x, y, u, v, rfl, rfl, hne⟩
  · match a' with
    | [] => exact ⟨false, by simp, by simp⟩
    | [x] => exact ⟨true, by simp [Bytes.sliceFrom], by simpa using Edit.delete x []⟩
    | x :: y :: rest => exact ⟨false, by simp, by simp; intro h; cases h⟩
  rw [edit_of_ne hne]
  simp only [List.length_cons] at hle
  split
  · match u, v with
    | [], [] => exact ⟨true, by simp [Bytes.sliceFrom], by simp [hne]⟩
    | p :: u, q :: v =>
      refine ⟨decide (p = q ∧ u = v ∨ x = q ∧ p = y ∧ u = v), ?_, by grind⟩
      simp [Bytes.sliceFrom]
      grind
    | [], q :: v | p :: u, [] => grind
  · exact ⟨u == y :: v, by simp [Bytes.sliceFrom], by grind⟩
  · exact ⟨false, rfl, by grind⟩

lemma oneEditApart_iff (a b : Bytes) :
    ∃ edited, oneEditApart a b = some edited ∧ (edited = true ↔ a ≠ b ∧ Edit a b) := by
  unfold oneEditApart
  split
  · rename_i hlt
    rw [edit_comm]
    exact editedAtMismatch_iff (Nat.le_of_lt hlt)
  · rename_i hnot
    exact editedAtMismatch_iff (Nat.le_of_not_lt hnot)

/-- No index is out of range, the order does not matter, and the answer is whether one edit
    leads from one string to the other. -/
theorem oneEditApart_exact (a b : Bytes) : ∃ edited, oneEditApart a b = some edited ∧
    oneEditApart b a = some edited ∧ (edited = true ↔ a ≠ b ∧ Edit a b) := by
  obtain ⟨edited, hedited, hiff⟩ := oneEditApart_iff a b
  obtain ⟨edited', hedited', hiff'⟩ := oneEditApart_iff b a
  obtain rfl : edited = edited' := Bool.eq_iff_iff.mpr (hiff.trans (edit_comm.trans hiff'.symm))
  exact ⟨edited, hedited, hedited', hiff⟩

end identity.origin
