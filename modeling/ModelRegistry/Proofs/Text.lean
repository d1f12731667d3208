import Mathlib.Data.List.DropRight
import ModelRegistry.Text.Blank

/-!
# ModelRegistry.Proofs.Text

What trimming and the test for words come to, said of the characters. A trimmed text
is `Bare`, which means that no blank stands at either end of it, and it is empty
exactly if there were only blanks. A word is made of letters, digits and underscores
of ASCII, none of which is blank.
-/

namespace ModelRegistry.Text

/-- A letter, a digit or an underscore of ASCII. -/
def WordChar (c : Char) : Prop :=
  ('a' ≤ c ∧ c ≤ 'z') ∨ ('A' ≤ c ∧ c ≤ 'Z') ∨ ('0' ≤ c ∧ c ≤ '9') ∨ c = '_'

/-- A non-empty text of such characters. -/
def Word (s : String) : Prop := s ≠ "" ∧ ∀ c ∈ s.toList, WordChar c

/-- A text in which there is nothing but blanks. -/
def Blank (s : String) : Prop := ∀ c ∈ s.toList, isBlank c = true

instance : DecidablePred Blank := fun _ => decidable_of_iff _ List.all_eq_true

/-- A text that neither starts nor ends with a blank. -/
structure Bare (s : String) : Prop where
  head : ∀ c, s.toList.head? = some c → isBlank c = false
  last : ∀ c, s.toList.getLast? = some c → isBlank c = false

variable {s : String} {c : Char}

/-! ## Words -/

theorem isWordChar_eq_true_iff : isWordChar c = true ↔ WordChar c := by
  have hupper : c.isUpper = decide ('A'.val ≤ c.val ∧ c.val ≤ 'Z'.val) := rfl
  have hlower : c.isLower = (decide ('a'.val ≤ c.val) && decide (c.val ≤ 'z'.val)) := rfl
  have hdigit : c.isDigit = (decide ('0'.val ≤ c.val) && decide (c.val ≤ '9'.val)) := rfl
  have hchar : isWordChar c = (((c.isUpper || c.isLower) || c.isDigit) || c == '_') := rfl
  simp only [hchar, hupper, hlower, hdigit, WordChar, Char.le_def, Bool.or_eq_true,
    Bool.and_eq_true, decide_eq_true_eq, beq_iff_eq]
  tauto

theorem isWord_toList_iff : isWord s.toList = true ↔ Word s := by
  simp [isWord, Word, isWordChar_eq_true_iff]

instance : DecidablePred WordChar := fun _ => decidable_of_iff _ isWordChar_eq_true_iff

instance : DecidablePred Word := fun _ => decidable_of_iff _ isWord_toList_iff

/-- Two ways in which a text is no word: it is empty, or another character stands in it. -/
theorem not_word_iff : ¬ Word s ↔ s = "" ∨ ∃ c ∈ s.toList, ¬ WordChar c := by
  by_cases hs : s = ""
  · simp [Word, hs]
  · simp [Word, hs]

/-- The blanks of ASCII come before the digits, and all others after the letters. -/
theorem isBlank_of_wordChar (h : WordChar c) : isBlank c = false := by
  have hcode : 48 ≤ c.toNat ∧ c.toNat ≤ 122 := by
    simp only [WordChar, Char.le_def, UInt32.le_iff_toNat_le] at h
    have hval : c.toNat = c.val.toNat := rfl
    rcases h with h | h | h | rfl
    · exact ⟨by rw [hval]; exact le_trans (by decide) h.1, h.2⟩
    · exact ⟨by rw [hval]; exact le_trans (by decide) h.1, le_trans h.2 (by decide)⟩
    · exact ⟨h.1, le_trans h.2 (by decide)⟩
    · decide
  simp only [isBlank, inRanges, blankRanges, List.any_cons, List.any_nil, Bool.or_false,
    Bool.or_eq_false_iff, Bool.and_eq_false_iff, decide_eq_false_iff_not]
  omega

/-! ## Trimming -/

theorem head?_trimChars {cs : List Char} (h : (trimChars cs).head? = some c) :
    isBlank c = false := by
  obtain ⟨rest, hrest⟩ := List.rdropWhile_prefix isBlank (l := cs.dropWhile isBlank)
  have hkept : (List.rdropWhile isBlank (cs.dropWhile isBlank)).head? = some c := h
  have hhead : (cs.dropWhile isBlank).head? = some c := by
    rw [← hrest, List.head?_append, hkept, Option.some_or]
  have hfirst := List.head?_dropWhile_not isBlank cs
  rwa [hhead] at hfirst

theorem getLast?_trimChars {cs : List Char} (h : (trimChars cs).getLast? = some c) :
    isBlank c = false := by
  have hne : trimChars cs ≠ [] := by
    intro hnil
    simp [hnil] at h
  rw [List.getLast?_eq_some_getLast hne, Option.some_inj] at h
  have hlast := List.rdropWhile_last_not isBlank (cs.dropWhile isBlank) hne
  rw [← h]
  exact Bool.eq_false_iff.mpr hlast

/-- A trimmed text has no blank at either end. -/
theorem bare_trim (s : String) : Bare (trim s) where
  head c h := head?_trimChars (by simpa [trim] using h)
  last c h := getLast?_trimChars (by simpa [trim] using h)

/-- Where there is no blank at either end nothing is trimmed. -/
theorem trim_of_bare (h : Bare s) : trim s = s := by
  have hhead : s.toList.dropWhile isBlank = s.toList := by
    rw [List.dropWhile_eq_self_iff]
    intro hlength
    rw [h.head s.toList[0] (by rw [List.head?_eq_getElem?, List.getElem?_eq_getElem hlength])]
    exact Bool.false_ne_true
  have hlast : s.toList.rdropWhile isBlank = s.toList := by
    rw [List.rdropWhile_eq_self_iff]
    intro hne
    rw [h.last _ (List.getLast?_eq_some_getLast hne)]
    exact Bool.false_ne_true
  have hchars : trimChars s.toList = s.toList := by
    calc trimChars s.toList = (s.toList.dropWhile isBlank).rdropWhile isBlank := rfl
      _ = s.toList := by rw [hhead, hlast]
  rw [trim, hchars, String.ofList_toList]

theorem trim_trim (s : String) : trim (trim s) = trim s := trim_of_bare (bare_trim s)

theorem trimChars_eq_nil_iff : trimChars s.toList = [] ↔ Blank s := by
  calc trimChars s.toList = []
      ↔ (s.toList.dropWhile isBlank).rdropWhile isBlank = [] := Iff.rfl
    _ ↔ (s.toList.dropWhile isBlank).dropWhile isBlank = [] := by
        rw [List.rdropWhile_eq_nil_iff, List.dropWhile_eq_nil_iff]
    _ ↔ Blank s := by rw [List.dropWhile_idempotent, List.dropWhile_eq_nil_iff, Blank]

/-- Nothing is left exactly where there were only blanks. -/
theorem trim_eq_empty_iff : trim s = "" ↔ Blank s := by
  rw [← String.toList_eq_nil_iff, trim, String.toList_ofList, trimChars_eq_nil_iff]

/-- What is left is not blank if anything is. -/
theorem blank_trim_iff : Blank (trim s) ↔ Blank s := by
  rw [← trim_eq_empty_iff, trim_trim, trim_eq_empty_iff]

end ModelRegistry.Text
