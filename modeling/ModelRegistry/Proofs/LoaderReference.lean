import ModelRegistry.LoaderReference
import ModelRegistry.Proofs.Text

/-!
# ModelRegistry.Proofs.LoaderReference

The grammar of references. A text reads as a reference exactly if, without the blanks
around it, it is two or more words joined by `::`; the last word is the name and the
others make the path. What is read is written again as the trimmed text, and what
can be written at all is read back, so no two such references have the same text.

Both cuts of the reader undo a join: cutting at the last `::` takes off a name in
which no colon stands (`cutLast?_append`), and the segments of joined words are these
words (`segments_intercalate`).
-/

namespace ModelRegistry.LoaderReference

open Text

/-! ## Cutting -/

section Cuts

variable {cs before after name word rest : List Char} {c : Char} {more : List (List Char)}

/-- A cut leaves out the two colons and nothing else. -/
theorem eq_of_cutLast? (h : cutLast? cs = some (before, after)) :
    cs = before ++ ':' :: ':' :: after := by
  fun_induction cutLast? cs generalizing before after with
  | case1 => contradiction
  | case2 c rest first last hrest ih =>
      obtain ⟨rfl, rfl⟩ := Prod.mk.inj (Option.some.inj h)
      rw [ih hrest, List.cons_append]
  | case3 =>
      obtain ⟨rfl, rfl⟩ := Prod.mk.inj (Option.some.inj h)
      rfl
  | case4 => contradiction

/-- One colon in front of a name is no place to cut. -/
theorem cutLast?_colon (h : ':' ∉ name) : cutLast? (':' :: name) = none := by
  rw [Option.eq_none_iff_forall_ne_some]
  intro cut hcut
  have hname := eq_of_cutLast? hcut
  cases hbefore : cut.1 with
  | nil => simp_all
  | cons c rest => simp_all

theorem cutLast?_cons (c : Char) (h : cutLast? rest = some (before, after)) :
    cutLast? (c :: rest) = some (c :: before, after) := by
  rw [cutLast?.eq_def]
  simp only [h]

/-- The cut is made before a name without colons. -/
theorem cutLast?_append (path : List Char) (h : ':' ∉ name) :
    cutLast? (path ++ ':' :: ':' :: name) = some (path, name) := by
  induction path with
  | nil =>
      rw [List.nil_append, cutLast?.eq_def]
      simp only [cutLast?_colon h]
  | cons c rest ih => exact cutLast?_cons c ih

theorem segments_ne_nil (cs : List Char) : segments cs ≠ [] := by
  fun_cases segments cs <;> simp

theorem segments_cons (hc : c ≠ ':') (h : segments rest = word :: more) :
    segments (c :: rest) = (c :: word) :: more := by
  rw [segments.eq_def]
  split
  · contradiction
  · next heq => exact absurd (List.cons.inj heq).1 hc
  · next heq =>
      obtain ⟨rfl, rfl⟩ := List.cons.inj heq
      simp only [h]

/-- Joining the segments gives back the text. -/
theorem intercalate_segments (cs : List Char) : [':', ':'].intercalate (segments cs) = cs := by
  fun_induction segments cs with
  | case1 => rfl
  | case2 rest ih =>
      obtain ⟨s, more, hrest⟩ := List.exists_cons_of_ne_nil (segments_ne_nil rest)
      rw [hrest] at ih ⊢
      rw [List.intercalate_cons_cons, ih]
      rfl
  | case3 c rest _ s more hrest ih =>
      rw [hrest] at ih
      cases more with
      | nil => simp_all
      | cons t more => simp_all
  | case4 c rest _ hrest => exact absurd hrest (segments_ne_nil rest)

theorem segments_of_not_mem (h : ':' ∉ word) : segments word = [word] := by
  induction word with
  | nil => rfl
  | cons c rest ih =>
      rw [List.mem_cons, not_or] at h
      exact segments_cons (Ne.symm h.1) (ih h.2)

theorem segments_append (h : ':' ∉ word) (rest : List Char) :
    segments (word ++ ':' :: ':' :: rest) = word :: segments rest := by
  induction word with
  | nil => rfl
  | cons c word ih =>
      rw [List.mem_cons, not_or] at h
      exact segments_cons (Ne.symm h.1) (ih h.2)

/-- The segments of joined words are the words. -/
theorem segments_intercalate {words : List (List Char)} (hne : words ≠ [])
    (h : ∀ w ∈ words, ':' ∉ w) : segments ([':', ':'].intercalate words) = words := by
  induction words with
  | nil => contradiction
  | cons w more ih =>
      rw [List.forall_mem_cons] at h
      cases more with
      | nil => rw [List.intercalate_singleton, segments_of_not_mem h.1]
      | cons v more =>
          rw [List.intercalate_cons_cons, List.append_assoc]
          calc segments (w ++ ':' :: ':' :: [':', ':'].intercalate (v :: more))
              = w :: segments ([':', ':'].intercalate (v :: more)) := segments_append h.1 _
            _ = w :: v :: more := by rw [ih (List.cons_ne_nil _ _) h.2]

end Cuts

/-! ## Joined words -/

/-- The text is these words joined by `::`, and there are at least two of them. -/
structure Joins (words : List String) (s : String) : Prop where
  two : 2 ≤ words.length
  word : ∀ w ∈ words, Word w
  joined : s = "::".intercalate words

/-- The path is one or more words joined by `::`, and the name is a word. -/
structure Valid (r : LoaderReference) : Prop where
  path : ∃ words : List String, words ≠ [] ∧ (∀ w ∈ words, Word w) ∧
    r.path = "::".intercalate words
  name : Word r.name

section Words

variable {words path : List String} {name s : String} {r : LoaderReference}

theorem colon_not_mem_of_word (h : Word s) : ':' ∉ s.toList := by
  intro hmem
  have hcolon : ¬ WordChar ':' := by decide
  exact hcolon (h.2 _ hmem)

theorem intercalate_concat (hpath : path ≠ []) (name : String) :
    "::".intercalate (path ++ [name]) = "::".intercalate path ++ "::" ++ name := by
  rw [String.intercalate_append_of_ne_nil hpath (List.cons_ne_nil _ _),
    String.intercalate_singleton]

/-- Between words there are colons only. -/
theorem not_blank_of_joined (hwords : ∀ w ∈ words, Word w) :
    ∀ c ∈ ("::".intercalate words).toList, isBlank c = false := by
  induction words with
  | nil => simp
  | cons w more ih =>
      rw [List.forall_mem_cons] at hwords
      have hw : ∀ c ∈ w.toList, isBlank c = false :=
        fun c hc => isBlank_of_wordChar (hwords.1.2 c hc)
      cases more with
      | nil => simpa using hw
      | cons v more =>
          have hcolon : isBlank ':' = false := by decide
          rw [String.intercalate_cons_cons, String.toList_append, String.toList_append]
          simp only [List.forall_mem_append]
          exact ⟨⟨hw, by simp [hcolon]⟩, ih hwords.2⟩

theorem Joins.trim (h : Joins words s) : Text.trim s = s := by
  have hnone : ∀ c ∈ s.toList, isBlank c = false := by
    rw [h.joined]
    exact not_blank_of_joined h.word
  exact trim_of_bare ⟨fun c hc => hnone c (List.mem_of_head? hc),
    fun c hc => hnone c (List.mem_of_getLast? hc)⟩

theorem Joins.path_ne_nil (h : Joins (path ++ [name]) s) : path ≠ [] := by
  have htwo := h.two
  rintro rfl
  simp at htwo

/-- The text of a valid reference is the words of its path and its name, joined. -/
theorem valid_iff :
    r.Valid ↔ ∃ path, Joins (path ++ [r.name]) r.text ∧ r.path = "::".intercalate path := by
  constructor
  · intro h
    obtain ⟨path, hne, hwords, hpath⟩ := h.path
    refine ⟨path, ⟨?_, ?_, ?_⟩, hpath⟩
    · have := List.length_pos_of_ne_nil hne
      simp only [List.length_append, List.length_singleton]
      omega
    · simpa [or_imp, forall_and] using ⟨hwords, h.name⟩
    · rw [intercalate_concat hne, ← hpath, text]
  · intro h
    obtain ⟨path, hjoins, hpath⟩ := h
    have hwords := hjoins.word
    rw [List.forall_mem_append] at hwords
    exact ⟨⟨path, hjoins.path_ne_nil, hwords.1, hpath⟩, hwords.2 _ (List.mem_singleton_self _)⟩

/-! ## Reading -/

/-- What was cut from a text is joined again by `::`. -/
theorem joins_of_cut {before after : List Char}
    (hcut : cutLast? (trimChars s.toList) = some (before, after))
    (hpath : ∀ w ∈ segments before, isWord w = true) (hname : isWord after = true) :
    Joins ((segments before).map String.ofList ++ [String.ofList after]) (Text.trim s) ∧
      String.ofList before = "::".intercalate ((segments before).map String.ofList) := by
  have hne : (segments before).map String.ofList ≠ [] := by simpa using segments_ne_nil before
  have hbefore : String.ofList before = "::".intercalate ((segments before).map String.ofList) := by
    rw [← String.toList_inj, String.toList_intercalate, String.toList_ofList, List.map_map]
    have hid : String.toList ∘ String.ofList = id := funext fun cs => String.toList_ofList
    rw [hid, List.map_id]
    exact (intercalate_segments before).symm
  refine ⟨⟨?_, ?_, ?_⟩, hbefore⟩
  · have := List.length_pos_of_ne_nil hne
    simp only [List.length_append, List.length_singleton]
    omega
  · intro w hw
    rw [← isWord_toList_iff]
    rcases List.mem_append.mp hw with hw | hw
    · obtain ⟨cs, hcs, rfl⟩ := List.mem_map.mp hw
      rw [String.toList_ofList]
      exact hpath cs hcs
    · obtain rfl := List.mem_singleton.mp hw
      rw [String.toList_ofList]
      exact hname
  · rw [intercalate_concat hne, ← hbefore, Text.trim, eq_of_cutLast? hcut, ← String.toList_inj]
    simp

/-- A reference is read from words joined by `::`, the last of which is its name. -/
theorem parse_eq_ok_iff :
    parse s = .ok r ↔
      ∃ path, Joins (path ++ [r.name]) (Text.trim s) ∧ r.path = "::".intercalate path := by
  constructor
  · intro h
    rw [parse] at h
    split at h
    · contradiction
    · next before after hcut =>
      split at h
      · next hwords =>
          obtain rfl := Except.ok.inj h
          rw [Bool.and_eq_true, List.all_eq_true] at hwords
          exact ⟨_, joins_of_cut hcut hwords.1 hwords.2⟩
      · contradiction
  · intro h
    obtain ⟨path, hjoins, hpath⟩ := h
    have hwords := hjoins.word
    rw [List.forall_mem_append, List.forall_mem_singleton] at hwords
    have hchars : trimChars s.toList = r.path.toList ++ ':' :: ':' :: r.name.toList := by
      have hjoined := hjoins.joined
      rw [intercalate_concat hjoins.path_ne_nil, ← hpath, Text.trim, ← String.toList_inj] at hjoined
      simpa using hjoined
    have hsegments : segments r.path.toList = path.map String.toList := by
      rw [hpath, String.toList_intercalate]
      refine segments_intercalate (by simpa using hjoins.path_ne_nil) ?_
      intro w hw
      obtain ⟨v, hv, rfl⟩ := List.mem_map.mp hw
      exact colon_not_mem_of_word (hwords.1 v hv)
    have hall : (path.map String.toList).all isWord = true := by
      rw [List.all_eq_true]
      intro w hw
      obtain ⟨v, hv, rfl⟩ := List.mem_map.mp hw
      exact isWord_toList_iff.mpr (hwords.1 v hv)
    rw [parse, hchars, cutLast?_append _ (colon_not_mem_of_word hwords.2)]
    simp only [hsegments, hall, isWord_toList_iff.mpr hwords.2, Bool.and_self, if_true,
      String.ofList_toList]

/-- The text of a valid reference reads as this reference. -/
theorem parse_text_of_valid (h : r.Valid) : parse r.text = .ok r := by
  obtain ⟨path, hjoins, hpath⟩ := valid_iff.mp h
  refine parse_eq_ok_iff.mpr ⟨path, ?_, hpath⟩
  rw [hjoins.trim]
  exact hjoins

/-- What is read is written again as the text without the blanks around it. -/
theorem text_of_parse (h : parse s = .ok r) : r.text = Text.trim s := by
  obtain ⟨path, hjoins, hpath⟩ := parse_eq_ok_iff.mp h
  rw [hjoins.joined, intercalate_concat hjoins.path_ne_nil, ← hpath, text]

theorem valid_of_parse (h : parse s = .ok r) : r.Valid := by
  obtain ⟨path, hjoins, hpath⟩ := parse_eq_ok_iff.mp h
  refine valid_iff.mpr ⟨path, ?_, hpath⟩
  rw [text_of_parse h]
  exact hjoins

/-! ## Main theorem -/

/-- **References are words joined by `::`**: a text reads as a reference exactly if it is two or
more words joined by `::` with blanks around them; the name is then the last word, the path is the
others, and the text of the reference is what was read, without the blanks, and reads as the same
reference. Every reference whose path and name are made of words is read from its own text, so that
no two of them have the same text. -/
theorem reads_joined_words :
    (∀ s, (∃ r, parse s = .ok r) ↔ ∃ words, Joins words (Text.trim s)) ∧
    (∀ s path name, Joins (path ++ [name]) (Text.trim s) →
      parse s = .ok ⟨"::".intercalate path, name⟩) ∧
    (∀ s r, parse s = .ok r → r.text = Text.trim s ∧ parse r.text = .ok r) ∧
    (∀ r : LoaderReference, r.Valid → parse r.text = .ok r) ∧
    ∀ r r' : LoaderReference, r.Valid → r'.Valid → r.text = r'.text → r = r' := by
  refine ⟨?_, ?_, ?_, fun r => parse_text_of_valid, ?_⟩
  · intro s
    constructor
    · intro h
      obtain ⟨r, hr⟩ := h
      obtain ⟨path, hjoins, -⟩ := parse_eq_ok_iff.mp hr
      exact ⟨_, hjoins⟩
    · intro h
      obtain ⟨words, hjoins⟩ := h
      -- The last of the words is the name.
      obtain rfl | ⟨path, name, rfl⟩ := List.eq_nil_or_concat' words
      · exact absurd hjoins.two (by simp)
      · exact ⟨⟨_, name⟩, parse_eq_ok_iff.mpr ⟨path, hjoins, rfl⟩⟩
  · intro s path name hjoins
    exact parse_eq_ok_iff.mpr ⟨path, hjoins, rfl⟩
  · intro s r h
    exact ⟨text_of_parse h, parse_text_of_valid (valid_of_parse h)⟩
  · intro r r' hr hr' htext
    have hread := parse_text_of_valid hr
    rw [htext, parse_text_of_valid hr'] at hread
    exact (Except.ok.inj hread).symm

/-- A reference with blanks around it is read; with a third colon it is none. -/
theorem padded_reference_is_read :
    let padded := "\u3000models::qwen3_vl::Qwen3VL\t"
    let r : LoaderReference := ⟨"models::qwen3_vl", "Qwen3VL"⟩
    Joins (["models", "qwen3_vl"] ++ ["Qwen3VL"]) (Text.trim padded) ∧ parse padded = .ok r ∧
      r.Valid ∧ parse r.text = .ok r ∧ (¬ ∃ words, Joins words (Text.trim "models:::Qwen3VL")) := by
  intro padded r
  have hjoins : Joins (["models", "qwen3_vl"] ++ ["Qwen3VL"]) (Text.trim padded) :=
    ⟨by decide, by decide +kernel, by decide +kernel⟩
  obtain ⟨hreads, hjoined, htext, hvalid, -⟩ := reads_joined_words
  have hr : r.Valid := ⟨⟨["models", "qwen3_vl"], by decide, by decide +kernel, by decide +kernel⟩,
    by decide +kernel⟩
  refine ⟨hjoins, hjoined _ _ _ hjoins, hr, hvalid _ hr, ?_⟩
  rw [← hreads]
  rintro ⟨r, hr⟩
  have hfails : (parse "models:::Qwen3VL").toOption = none := by decide +kernel
  rw [hr] at hfails
  cases hfails

end Words

end ModelRegistry.LoaderReference
