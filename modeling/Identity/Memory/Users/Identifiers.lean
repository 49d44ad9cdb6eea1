import Identity.Memory.Frame

open identity.service
namespace identity.memory

/-- The columns of a user row that are unique where they are filled. -/
inductive Identifier where
  | email
  | username
  | externalID
  | accountAddress
deriving DecidableEq

namespace Identifier

def column : Identifier → String
  | email => "email"
  | username => "username"
  | externalID => "external_id"
  | accountAddress => "account_address"

def text : Identifier → User → String
  | email, u => u.email
  | username, u => u.username
  | externalID, u => u.externalID
  | accountAddress, u => u.accountAddress

/-- The column as it is compared: addresses are folded. -/
def of : Identifier → User → String
  | email, u => foldEmail u.email
  | username, u => u.username
  | externalID, u => u.externalID
  | accountAddress, u => u.accountAddress

end Identifier

lemma foldEmail_eq_empty : foldEmail email = "" ↔ email = "" := by
  grind [String.toList_ofList, List.map_eq_nil_iff, String.toList_eq_nil_iff, foldEmail]

/-- No two rows share a filled column. -/
@[grind =]
def IdentifiersUnique (users : GoMap String User) : Prop :=
  ∀ (i : Identifier) key key' u u', users.lookup key = some u → users.lookup key' = some u' → i.of u ≠ "" →
    i.of u = i.of u' → key = key'

/-- No row but that of `key` has the filled columns of `row`. -/
@[grind =]
def Unclaimed (users : GoMap String User) (key : String) (row : User) : Prop :=
  ∀ (i : Identifier) other u, users.lookup other = some u → i.of row ≠ "" → i.of u = i.of row → other = key

lemma IdentifiersUnique.insert (hunique : IdentifiersUnique users) (hfree : Unclaimed users key row) :
    IdentifiersUnique (users.insert key row) := by
  intro i k k' v v' hv hv' hfilled hsame
  rw [GoMap.lookup_insert_eq] at hv hv'
  split at hv <;> split at hv'
  · rename_i hk hk'
    rw [hk, hk']
  · grind
  · grind
  · exact hunique i k k' v v' hv hv' hfilled hsame

/-- A rewritten row whose columns are those it had, empty, or unclaimed. -/
lemma IdentifiersUnique.unclaimed (hunique : IdentifiersUnique users) (hu : users.lookup key = some u)
    (hrow : ∀ i : Identifier, i.of row = i.of u ∨ i.of row = "" ∨
      ∀ other v, users.lookup other = some v → i.of v = i.of row → other = key) : Unclaimed users key row := by
  intro i other v hv hfilled hsame
  rcases hrow i with hkept | hempty | hfree
  · exact hunique i other key v u hv hu (hsame ▸ hfilled) (hsame.trans hkept)
  · exact absurd hempty hfilled
  · exact hfree other v hv hsame

lemma heldByOther_eq_false {r : Repo} :
    r.heldByOther userID p = false ↔ ∀ key u, r.users.lookup key = some u → p u = true → key = userID := by
  unfold Repo.heldByOther
  rw [List.any_eq_false]
  constructor
  · intro hnone key u hu hp
    by_contra hne
    exact hnone ⟨key, u⟩ (AList.mem_lookup_iff.mp hu) (by simp [hne, hp])
  rintro hall ⟨key, u⟩ hmem hheld
  simp only [Bool.and_eq_true, bne_iff_ne] at hheld
  exact hheld.1 (hall key u (AList.mem_lookup_iff.mpr hmem) hheld.2)

/-- A text column of the user table: its own writer sets it and no other writer touches it. -/
@[grind]
structure TextColumn (name : String) (proj : User → String) : Prop where
  set : ∀ s u, proj (writeColumn userStringFields name s u) = s
  strings : ∀ entry ∈ userStringFields, entry.1 ≠ name → ∀ s u, proj (entry.2 s u) = proj u
  bools : ∀ entry ∈ userBoolFields, ∀ b u, proj (entry.2 b u) = proj u
  ints : ∀ entry ∈ userInt64Fields, ∀ x u, proj (entry.2 x u) = proj u

lemma writeColumn_other {table : List (String × (α → User → User))} {proj : User → String}
    (hall : ∀ entry ∈ table, entry.1 ≠ name → ∀ value u, proj (entry.2 value u) = proj u) (hne : key ≠ name)
    (value : α) (u : User) : proj (writeColumn table key value u) = proj u := by
  unfold writeColumn
  cases hwrite : table.lookup key with
  | none => rfl
  | some write =>
    obtain ⟨before, after, heq, -⟩ := List.lookup_eq_some_iff.mp hwrite
    exact hall (key, write) (by rw [heq]; simp) hne value u

lemma TextColumn.applyUserField (hcolumn : TextColumn name proj) (u : User) (key : String) (value : FieldValue) :
    proj (identity.memory.applyUserField u key value) =
      if key = name then (match value with | .str s => s | _ => proj u) else proj u := by
  cases value with
  | str s =>
    by_cases hkey : key = name
    · subst hkey
      rw [if_pos rfl]
      exact hcolumn.set s u
    · rw [if_neg hkey]
      exact writeColumn_other hcolumn.strings hkey s u
  | bool b =>
    rw [ite_self]
    exact writeColumn_keeps userBoolFields proj hcolumn.bools key b u
  | int x =>
    rw [ite_self]
    exact writeColumn_keeps userInt64Fields proj hcolumn.ints key x u

/-- A patch gives the column the text it names, and leaves it where it names none. -/
lemma TextColumn.applyUserFields (hcolumn : TextColumn name proj) (u : User) (patch : Fields) :
    proj (identity.memory.applyUserFields u patch) =
      match patch.lookup name with
      | some (.str s) => s
      | _ => proj u := by
  obtain ⟨entries, hnodup⟩ := patch
  show proj (entries.foldl (fun u' entry => identity.memory.applyUserField u' entry.1 entry.2) u) =
    match entries.dlookup name with
    | some (.str s) => s
    | _ => proj u
  induction entries generalizing u with
  | nil => rfl
  | cons entry rest ih => grind [hcolumn.applyUserField, List.dlookup_eq_none]

lemma Identifier.textColumn (i : Identifier) : TextColumn i.column i.text := by
  cases i
  all_goals
    exact ⟨fun _ _ => rfl, by simp [userStringFields, text, column], by simp [userBoolFields, text],
      by simp [userInt64Fields, text]⟩

/-- Rows stand under their own ids, no row under an id that is still to be generated, and no
    two rows share an identifier. -/
@[grind]
structure AccountsNamed (r : Repo) : Prop where
  keyed : ∀ key u, r.users.lookup key = some u → u.id = key
  fresh : ∀ n, r.seq < n → r.users.lookup (memID n) = none
  unique : IdentifiersUnique r.users

lemma AccountsNamed.of_users (hnamed : AccountsNamed r) (husers : r'.users = r.users) (hseq : r.seq ≤ r'.seq) :
    AccountsNamed r' where
  keyed := by rw [husers]; exact hnamed.keyed
  fresh n hn := by rw [husers]; exact hnamed.fresh n (by omega)
  unique := by rw [husers]; exact hnamed.unique

/-- A row is overwritten. -/
lemma AccountsNamed.overwrite (hnamed : AccountsNamed r) (hu : r.users.lookup key = some u) (hid : row.id = u.id)
    (hfree : Unclaimed r.users key row) (husers : r'.users = r.users.insert key row) (hseq : r.seq ≤ r'.seq) :
    AccountsNamed r' where
  keyed k v hv := by grind
  fresh n hn := by grind
  unique := by
    rw [husers]
    exact hnamed.unique.insert hfree

/-- A row is added, under the next generated id or under one that is never generated. -/
lemma AccountsNamed.add (hnamed : AccountsNamed r) (hid : row.id = key) (hfree : Unclaimed r.users key row)
    (hkey : key = memID (r.seq + 1) ∧ r'.seq = r.seq + 1 ∨ (∀ n, key ≠ memID n) ∧ r'.seq = r.seq)
    (husers : r'.users = r.users.insert key row) : AccountsNamed r' where
  keyed k v hv := by grind
  fresh n hn := by grind [memID_injective]
  unique := by
    rw [husers]
    exact hnamed.unique.insert hfree

section Create
variable {r : Repo}

lemma duplicateUser_none (hnone : duplicateUser u existing = none) (i : Identifier) (hfilled : i.of u ≠ "") :
    i.of existing ≠ i.of u := by
  unfold duplicateUser at hnone
  split at hnone
  · cases hnone
  split at hnone
  · cases hnone
  split at hnone
  · cases hnone
  split at hnone
  · cases hnone
  rename_i hemail hext husername haddr
  cases i with
  | email =>
    have hwritten : u.email ≠ "" := fun hempty => hfilled (foldEmail_eq_empty.mpr hempty)
    intro hsame
    exact hemail (by simpa [hwritten, Identifier.of] using hsame)
  | username => exact fun hsame => husername (by simpa [hfilled] using ⟨hfilled, hsame⟩)
  | externalID => exact fun hsame => hext (by simpa [hfilled] using ⟨hfilled, hsame⟩)
  | accountAddress => exact fun hsame => haddr (by simpa [hfilled] using ⟨hfilled, hsame⟩)

lemma newUserRow_of (u : User) (id : String) (i : Identifier) : i.of (newUserRow u id) = i.of u := by
  cases i <;> rfl

/-- A new row, once nobody has its identifiers. -/
lemma insertUser_named (hnamed : AccountsNamed r) (hnot : ∀ n, u.id ≠ memID n)
    (hfree : ∀ (i : Identifier) other v, r.users.lookup other = some v → i.of u ≠ "" → i.of v ≠ i.of u) :
    AccountsNamed (r.insertUser u).2 := by
  have hunclaimed : ∀ id, Unclaimed r.users id (newUserRow u id) := by grind [newUserRow_of]
  unfold Repo.insertUser
  split
  · exact hnamed.add rfl (hunclaimed _) (.inl ⟨rfl, rfl⟩) rfl
  split
  · exact hnamed
  · exact hnamed.add rfl (hunclaimed _) (.inr ⟨hnot, rfl⟩) rfl

lemma insertUser_error (herr : (r.insertUser u).1 = .error err) : (r.insertUser u).2 = r := by
  unfold Repo.insertUser at herr ⊢
  split at herr
  · cases herr
  rename_i hid
  rw [if_neg hid]
  split at herr
  · rename_i hclash
    rw [if_pos hclash]
  · cases herr

lemma createUser_named (hnamed : AccountsNamed r) (hnot : ∀ n, u.id ≠ memID n) : AccountsNamed (r.createUser u).2 := by
  grind [insertUser_named, duplicateUser_none, Repo.createUser]

end Create
end identity.memory
