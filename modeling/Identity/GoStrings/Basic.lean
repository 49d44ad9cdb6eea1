import Mathlib.Data.List.DropRight

/-! Go's `strings`, `unicode` and `strconv` as far as ASCII text can tell. A Lean
string is always valid UTF-8, so `utf8.ValidString` has no counterpart. -/

namespace unicode

def inRanges (ranges : List (Nat × Nat)) (r : Char) : Bool :=
  ranges.any fun range => range.1 ≤ r.toNat && r.toNat ≤ range.2

def isControl (r : Char) : Bool := inRanges [(0x00, 0x1f), (0x7f, 0x9f)] r

/-- The format characters, Unicode category Cf. -/
def isFormat (r : Char) : Bool :=
  inRanges [(0xad, 0xad), (0x600, 0x605), (0x61c, 0x61c), (0x6dd, 0x6dd), (0x70f, 0x70f),
    (0x890, 0x891), (0x8e2, 0x8e2), (0x180e, 0x180e), (0x200b, 0x200f), (0x202a, 0x202e),
    (0x2060, 0x2064), (0x2066, 0x206f), (0xfeff, 0xfeff), (0xfff9, 0xfffb), (0x110bd, 0x110bd),
    (0x110cd, 0x110cd), (0x13430, 0x1343f), (0x1bca0, 0x1bca3), (0x1d173, 0x1d17a),
    (0xe0001, 0xe0001), (0xe0020, 0xe007f)] r

def isSpace (r : Char) : Bool :=
  inRanges [(0x09, 0x0d), (0x20, 0x20), (0x85, 0x85), (0xa0, 0xa0), (0x1680, 0x1680),
    (0x2000, 0x200a), (0x2028, 0x2029), (0x202f, 0x202f), (0x205f, 0x205f), (0x3000, 0x3000)] r

def asciiLower (r : Char) : Char :=
  if 'A' ≤ r ∧ r ≤ 'Z' then Char.ofNat (r.toNat + 32) else r

/-- Lower case, exact wherever the result is ASCII: the dotted capital I and the
    Kelvin sign are the only other characters whose lower case is an ASCII letter. -/
def toLower (r : Char) : Char :=
  if r.toNat = 0x130 then 'i' else if r.toNat = 0x212a then 'k' else asciiLower r

/-- The representative of a character under simple case folding, exact wherever
    it is ASCII. The dotted capital I folds to itself only. -/
def fold (r : Char) : Char :=
  if r.toNat = 0x17f then 's' else if r.toNat = 0x212a then 'k' else asciiLower r

end unicode

namespace strings

/-- The number of bytes, Go's `len` of a string. -/
def len (s : String) : Nat := s.utf8ByteSize

def toLower (s : String) : String := String.ofList (s.toList.map unicode.toLower)

/-- Case-insensitive equality, exact when one of the two sides is ASCII. -/
def equalFold (s t : String) : Bool := s.toList.map unicode.fold == t.toList.map unicode.fold

def trimSpace (s : String) : String :=
  String.ofList (((s.toList.dropWhile unicode.isSpace).reverse.dropWhile unicode.isSpace).reverse)

def containsFunc (s : String) (f : Char → Bool) : Bool := s.toList.any f

def containsAny (s chars : String) : Bool := containsFunc s fun r => chars.toList.contains r

def hasSuffix (s tail : String) : Bool := tail.toList.isSuffixOf s.toList

/-- What stands before and after the last occurrence of a character, the two slices
    around `LastIndexByte`. -/
def cutLast (s : String) (sep : Char) : Option (String × String) :=
  let after := (s.toList.reverse.takeWhile fun r => r != sep).reverse
  if after.length = s.toList.length then none
  else some (String.ofList (s.toList.take (s.toList.length - after.length - 1)), String.ofList after)

end strings

namespace strconv

/-- `Atoi` of an unsigned decimal. A port has no sign, and a value out of Go's
    integer range is out of every range a caller accepts. -/
def atoi (s : String) : Option Nat :=
  if s = "" || !s.toList.all Char.isDigit then none
  else some (s.toList.foldl (fun acc r => acc * 10 + (r.toNat - 48)) 0)

end strconv

/-! `TrimSpace` takes nothing more from what it has trimmed. -/

namespace strings

/-- Neither end is white space. -/
def Trimmed (l : List Char) : Prop :=
  (∀ r ∈ l.head?, unicode.isSpace r = false) ∧ ∀ r ∈ l.getLast?, unicode.isSpace r = false

variable (s : String) {l : List Char}

lemma trimSpace_eq :
    trimSpace s = String.ofList ((s.toList.dropWhile unicode.isSpace).rdropWhile unicode.isSpace) := rfl

lemma dropWhile_of_head (hhead : ∀ r ∈ l.head?, unicode.isSpace r = false) :
    l.dropWhile unicode.isSpace = l := by
  cases l with
  | nil => rfl
  | cons r rest => rw [List.dropWhile_cons, hhead r rfl, if_neg Bool.false_ne_true]

lemma Trimmed.trim (htrimmed : Trimmed l) :
    (l.dropWhile unicode.isSpace).rdropWhile unicode.isSpace = l := by
  rw [dropWhile_of_head htrimmed.1, List.rdropWhile, dropWhile_of_head, List.reverse_reverse]
  rw [List.head?_reverse]
  exact htrimmed.2

lemma trimmed_trim (l : List Char) : Trimmed ((l.dropWhile unicode.isSpace).rdropWhile unicode.isSpace) := by
  have hdropped : ∀ m : List Char, ∀ r ∈ (m.dropWhile unicode.isSpace).head?, unicode.isSpace r = false := by
    intro m r hr
    have hnot := List.head?_dropWhile_not unicode.isSpace m
    rw [Option.mem_def.mp hr] at hnot
    exact hnot
  constructor
  · intro r hr
    obtain ⟨rest, hrest⟩ := List.rdropWhile_prefix unicode.isSpace (l.dropWhile unicode.isSpace)
    refine hdropped l r ?_
    rw [← hrest, List.head?_append, Option.mem_def.mp hr]
    rfl
  intro r hr
  rw [List.rdropWhile, List.getLast?_reverse] at hr
  exact hdropped _ r hr

lemma trimSpace_trimSpace : trimSpace (trimSpace s) = trimSpace s := by
  rw [trimSpace_eq (trimSpace s), trimSpace_eq s, String.toList_ofList, (trimmed_trim s.toList).trim]

/-- The white space below the first accented capital. -/
lemma isSpace_small {r : Char} (hsmall : 0x21 ≤ r.toNat) (hlarge : r.toNat < 0x85) : unicode.isSpace r = false := by
  simp only [unicode.isSpace, unicode.inRanges, List.any_cons, List.any_nil, Bool.or_false, Bool.or_eq_false_iff,
    Bool.and_eq_false_iff, decide_eq_false_iff_not]
  omega

/-- Lower case keeps white space and makes none. -/
lemma isSpace_toLower (r : Char) : unicode.isSpace (unicode.toLower r) = unicode.isSpace r := by
  unfold unicode.toLower
  split
  · rename_i hdotted
    simp [unicode.isSpace, unicode.inRanges, hdotted]
  split
  · rename_i hkelvin
    simp [unicode.isSpace, unicode.inRanges, hkelvin]
  unfold unicode.asciiLower
  split
  · rename_i hupper
    have hlow : 65 ≤ r.toNat := hupper.1
    have hhigh : r.toNat ≤ 90 := hupper.2
    have hvalid : (r.toNat + 32).isValidChar := .inl (by omega)
    have hlower : (Char.ofNat (r.toNat + 32)).toNat = r.toNat + 32 := by
      rw [Char.ofNat, dif_pos hvalid]
      rfl
    rw [isSpace_small (by omega) (by omega), isSpace_small (by omega) (by omega)]
  · rfl

lemma Trimmed.lower (htrimmed : Trimmed l) : Trimmed (l.map unicode.toLower) := by
  constructor
  · intro r hr
    rw [List.head?_map] at hr
    obtain ⟨r, hmem, rfl⟩ := Option.map_eq_some_iff.mp hr
    rw [isSpace_toLower, htrimmed.1 r hmem]
  intro r hr
  rw [List.getLast?_map] at hr
  obtain ⟨r, hmem, rfl⟩ := Option.map_eq_some_iff.mp hr
  rw [isSpace_toLower, htrimmed.2 r hmem]

lemma trimSpace_toLower_trimSpace : trimSpace (toLower (trimSpace s)) = toLower (trimSpace s) := by
  have htrimmed := (trimmed_trim s.toList).lower
  rw [trimSpace_eq (toLower (trimSpace s)), toLower, String.toList_ofList, trimSpace_eq s, String.toList_ofList,
    htrimmed.trim]

end strings
