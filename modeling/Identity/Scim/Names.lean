import Identity.GoStrings.Basic

open strings (Trimmed trimmed_trim)

namespace identity.scim

/-- Go's `TrimSpace`, on the characters of a text. -/
def trimRunes (s : List Char) : List Char := (s.dropWhile unicode.isSpace).rdropWhile unicode.isSpace

def joinName (given family : List Char) : List Char := trimRunes (trimRunes given ++ ' ' :: trimRunes family)

/-- The halves around the last blank. An empty name is its own given name. -/
def splitDisplayName (full : List Char) : List Char × List Char :=
  let full := trimRunes full
  if ' ' ∈ full then
    (trimRunes (full.rdropWhile (· ≠ ' ')).dropLast, trimRunes (full.rtakeWhile (· ≠ ' ')))
  else (full, [])

/-- The names that a PATCH carries. -/
structure UserPatch where
  givenName : Option (List Char)
  familyName : Option (List Char)

/-- The names of the user `PatchUser` returns: those `toSCIMUser` reads in the row it wrote. -/
def patchUser (existing : List Char) (patch : UserPatch) : List Char × List Char :=
  if patch.givenName.isNone && patch.familyName.isNone then splitDisplayName existing
  else
    let (given, family) := splitDisplayName existing
    splitDisplayName (joinName (patch.givenName.getD given) (patch.familyName.getD family))

/-- The names of the user `ReplaceUser` returns. -/
def replaceUser (given family : List Char) : List Char × List Char := splitDisplayName (joinName given family)

/-- The names that one text can hold: a family name has no blank, and a single name is a
    given name without one. -/
def Joinable (given family : List Char) : Prop :=
  ' ' ∉ family ∧ (family = [] → ' ' ∉ given) ∧ (given = [] → family = [])

lemma trimRunes_sublist (s : List Char) : (trimRunes s).Sublist s :=
  (List.rdropWhile_prefix _ _).sublist.trans (List.dropWhile_sublist _)

lemma trimRunes_of_trimmed (h : Trimmed l) : trimRunes l = l := h.trim

lemma trimmed_split (full : List Char) : Trimmed (splitDisplayName full).1 ∧ Trimmed (splitDisplayName full).2 := by
  unfold splitDisplayName
  dsimp only
  split
  · exact ⟨trimmed_trim _, trimmed_trim _⟩
  · exact ⟨trimmed_trim _, nofun, nofun⟩

/-- A family name read back has no blank. -/
lemma blank_notMem_family (full : List Char) : ' ' ∉ (splitDisplayName full).2 := by
  unfold splitDisplayName
  dsimp only
  split
  · intro hblank
    have hword := List.mem_rtakeWhile_imp ((trimRunes_sublist _).mem hblank)
    simp at hword
  · nofun

lemma splitDisplayName_word (h : Trimmed l) (hword : ' ' ∉ l) : splitDisplayName l = (l, []) := by
  rw [splitDisplayName, trimRunes_of_trimmed h, if_neg hword]

variable (hg : Trimmed given) (hf : Trimmed family)

include hg hf

/-- A blank between two names stays if neither is empty. -/
lemma trimRunes_join : trimRunes (given ++ ' ' :: family) =
    if family = [] then given else if given = [] then family else given ++ ' ' :: family := by
  have hspace : unicode.isSpace ' ' = true := by decide
  split
  · rename_i hnone
    subst hnone
    cases given with
    | nil => decide
    | cons r rest =>
      have hkept : trimRunes (r :: rest) = r :: rest := hg.trim
      have hfirst := hg.1 r rfl
      simp only [trimRunes, List.cons_append, List.dropWhile_cons, hfirst] at hkept ⊢
      exact (List.rdropWhile_concat_pos _ (r :: rest) _ hspace).trans hkept
  split
  · rename_i hnone
    subst hnone
    simp only [trimRunes, List.nil_append, List.dropWhile_cons, hspace, if_true]
    exact hf.trim
  · rename_i hfamily hgiven
    refine Trimmed.trim ⟨fun r hr => hg.1 r ?_, fun r hr => hf.2 r ?_⟩
    · rwa [List.head?_append_of_ne_nil _ hgiven] at hr
    · rwa [List.append_cons, List.getLast?_append_of_ne_nil _ hfamily] at hr

lemma splitDisplayName_join : splitDisplayName (trimRunes (given ++ ' ' :: family)) = (given, family) ↔
    Joinable given family := by
  constructor
  · intro hsplit
    have hword : ' ' ∉ family := by simpa [hsplit] using blank_notMem_family (trimRunes (given ++ ' ' :: family))
    rw [trimRunes_join hg hf] at hsplit
    refine ⟨hword, ?_, ?_⟩
    · rintro rfl hblank
      -- what stands before the blank is shorter than the name
      rw [if_pos rfl, splitDisplayName, trimRunes_of_trimmed hg, if_pos hblank] at hsplit
      have hshort := (trimRunes_sublist (given.rdropWhile (· ≠ ' ')).dropLast).length_le
      have hpart := (List.rdropWhile_prefix (· ≠ ' ') given).length_le
      rw [(Prod.mk.inj hsplit).1, List.length_dropLast] at hshort
      have hsome := List.length_pos_of_mem hblank
      omega
    · rintro rfl
      by_contra hsome
      rw [if_neg hsome, if_pos rfl, splitDisplayName_word hf hword] at hsplit
      exact hsome (Prod.mk.inj hsplit).1
  · rintro ⟨hword, hsingle, hboth⟩
    rw [trimRunes_join hg hf]
    split
    · rename_i hnone
      rw [splitDisplayName_word hg (hsingle hnone), hnone]
    rename_i hfamily
    have hgiven : given ≠ [] := fun hnone => hfamily (hboth hnone)
    have hletters : ∀ r ∈ family.reverse, decide (r ≠ ' ') = true := by grind
    have hafter : (given ++ ' ' :: family).rtakeWhile (· ≠ ' ') = family := by
      simp only [List.rtakeWhile, List.reverse_append, List.reverse_cons, List.append_assoc]
      rw [List.takeWhile_append_of_pos hletters]
      simp
    have hbefore : (given ++ ' ' :: family).rdropWhile (· ≠ ' ') = given ++ [' '] := by
      simp only [List.rdropWhile, List.reverse_append, List.reverse_cons, List.append_assoc]
      rw [List.dropWhile_append_of_pos hletters]
      simp
    rw [if_neg hgiven, splitDisplayName, trimRunes_join hg hf, if_neg hfamily, if_neg hgiven, if_pos (by simp), hafter,
      hbefore, List.dropLast_concat, trimRunes_of_trimmed hg, trimRunes_of_trimmed hf]

omit hg hf

/-- A patched half comes back with the other half as it was, and the two names of a PUT come
    back, exactly when the pair can be joined. -/
theorem name_halves_kept_iff (existing value given family : List Char) :
    (patchUser existing ⟨some (trimRunes value), none⟩ = (trimRunes value, (splitDisplayName existing).2) ↔
      Joinable (trimRunes value) (splitDisplayName existing).2) ∧
    (patchUser existing ⟨none, some (trimRunes value)⟩ = ((splitDisplayName existing).1, trimRunes value) ↔
      Joinable (splitDisplayName existing).1 (trimRunes value)) ∧
    (replaceUser given family = (trimRunes given, trimRunes family) ↔
      Joinable (trimRunes given) (trimRunes family)) := by
  obtain ⟨hgiven, hfamily⟩ := trimmed_split existing
  have hvalue : Trimmed (trimRunes value) := trimmed_trim value
  refine ⟨?_, ?_, splitDisplayName_join (trimmed_trim given) (trimmed_trim family)⟩
  · rw [← splitDisplayName_join hvalue hfamily]
    simp [patchUser, joinName, trimRunes_of_trimmed hvalue, trimRunes_of_trimmed hfamily]
  · rw [← splitDisplayName_join hgiven hvalue]
    simp [patchUser, joinName, trimRunes_of_trimmed hvalue, trimRunes_of_trimmed hgiven]

/-- A family name of two words loses the first to the given name, and a family name alone
    becomes the given name. -/
theorem family_name_parted :
    patchUser "Vincent Gogh".toList ⟨none, some "van Gogh".toList⟩ = ("Vincent van".toList, "Gogh".toList) ∧
      replaceUser [] "Gogh".toList = ("Gogh".toList, []) := by
  decide

end identity.scim
