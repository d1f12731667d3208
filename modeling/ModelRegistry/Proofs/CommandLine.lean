import Mathlib.Data.List.Infix
import ModelRegistry.CommandLine
import ModelRegistry.Proofs.Settings

/-!
# ModelRegistry.Proofs.CommandLine

What the flags of a launch say. A flag gives a setting its value either in one argument
or in two (`Gives`). If the flags are read at all, a setting for which a flag is given has
the value of this flag, and every other setting is left open (`carries_of_parseFlags`). The
induction follows the reading from left to right; what one flag does to the settings is
`Sets`.
-/

namespace ModelRegistry

open Number

namespace Setting

/-- The flag of a setting, without its hyphens. -/
def flag : Setting → String
  | .model => "model"
  | .draftModel => "draft-model"
  | .numSpeculativeTokens => "num-speculative-tokens"
  | .servedModelName => "served-model-name"
  | .dtype => "dtype"
  | .maxModelLen => "max-model-len"
  | .gpuMemoryUtilization => "gpu-memory-utilization"
  | .tensorParallelSize => "tensor-parallel-size"
  | .revision => "revision"
  | .registry => "registry"
  | .configSchemaDir => "config-schema-dir"
  | .logLevel => "log-level"

/-- Reads the value of a flag. -/
def read? : (k : Setting) → String → Option k.Value
  | .numSpeculativeTokens | .maxModelLen | .tensorParallelSize => CommandLine.size?
  | .gpuMemoryUtilization => CommandLine.number?
  | .registry | .configSchemaDir => CommandLine.path?
  | .model | .draftModel | .servedModelName | .dtype | .revision | .logLevel => some

theorem flag_injective {k l : Setting} (h : k.flag = l.flag) : k = l := by
  cases k <;> cases l <;> first | rfl | exact absurd h (by decide)

end Setting

namespace CommandLine

variable {args : List String} {k : Setting} {text : String}

/-- The arguments have a flag that gives the setting this value. -/
def Gives (args : List String) (k : Setting) (text : String) : Prop :=
  "--" ++ k.flag ++ "=" ++ text ∈ args ∨ ["--" ++ k.flag, text] <:+: args

/-! ## One flag -/

/-- The settings after a flag: a setting that was open has the value, and the others are as
they were. -/
structure Sets (k : Setting) (text : String) (s s' : Settings) : Prop where
  vacant : s.get k = none
  reads : ∃ v, k.read? text = some v ∧ s'.get k = some v
  keeps : ∀ other, other ≠ k → s'.get other = s.get other

theorem setOnce_eq_some {α : Type} {read? : String → Option α} {old new : Option α}
    (h : setOnce read? old text = some new) :
    old = none ∧ ∃ v, read? text = some v ∧ new = some v := by
  unfold setOnce at h
  split at h
  · contradiction
  · next hold =>
      obtain ⟨v, hread, rfl⟩ := Option.map_eq_some_iff.mp h
      exact ⟨by simpa using hold, v, hread, rfl⟩

/-- A flag sets the setting that it changes. -/
theorem sets_of_setOnce {s s' : Settings}
    (h : (setOnce k.read? (s.get k) text).map (s.set k) = some s') : Sets k text s s' := by
  obtain ⟨new, hnew, rfl⟩ := Option.map_eq_some_iff.mp h
  obtain ⟨hold, v, hread, rfl⟩ := setOnce_eq_some hnew
  exact ⟨hold, ⟨v, hread, s.get_set_self k _⟩, fun other hother => s.get_set_of_ne hother _⟩

theorem sets_of_setCommon? {flag : String} {s s' : Settings}
    (h : setCommon? flag text s = some s') : ∃ k, k.flag = flag ∧ Sets k text s s' := by
  unfold setCommon? at h
  split at h
  · exact ⟨.registry, rfl, sets_of_setOnce h⟩
  · exact ⟨.configSchemaDir, rfl, sets_of_setOnce h⟩
  · exact ⟨.revision, rfl, sets_of_setOnce h⟩
  · exact ⟨.logLevel, rfl, sets_of_setOnce h⟩
  · contradiction

theorem sets_of_setLaunch? {flag : String} {s s' : Settings}
    (h : setLaunch? flag text s = some s') : ∃ k, k.flag = flag ∧ Sets k text s s' := by
  unfold setLaunch? at h
  split at h
  · exact ⟨.draftModel, rfl, sets_of_setOnce h⟩
  · exact ⟨.numSpeculativeTokens, rfl, sets_of_setOnce h⟩
  · exact ⟨.servedModelName, rfl, sets_of_setOnce h⟩
  · exact ⟨.dtype, rfl, sets_of_setOnce h⟩
  · exact ⟨.maxModelLen, rfl, sets_of_setOnce h⟩
  · exact ⟨.gpuMemoryUtilization, rfl, sets_of_setOnce h⟩
  · exact ⟨.tensorParallelSize, rfl, sets_of_setOnce h⟩
  · unfold setModel? at h
    split at h
    · exact ⟨.model, rfl, sets_of_setOnce h⟩
    · exact sets_of_setCommon? h

/-- **What a flag of a launch does**: it sets one setting, and changes nothing else. -/
theorem sets_of_set? {flag : String} {i j : Invocation} (hcommand : i.command = .preflight)
    (h : i.set? flag text = some j) :
    j.command = .preflight ∧ j.save = i.save ∧
      ∃ k, k.flag = flag ∧ Sets k text i.settings j.settings := by
  unfold Invocation.set? at h
  obtain ⟨settings, hset, rfl⟩ := Option.map_eq_some_iff.mp h
  rw [hcommand] at hset
  exact ⟨hcommand, rfl, sets_of_setLaunch? hset⟩

/-! ## Forms of arguments -/

theorem not_mem_flag (k : Setting) : '=' ∉ k.flag.toList := by
  cases k <;> decide

/-- An argument that starts with two hyphens and goes on. -/
theorem ofString_of_toList {arg : String} {body : List Char}
    (h : arg.toList = '-' :: '-' :: body) (hbody : body ≠ []) :
    Argument.ofString arg = .long (String.ofList (body.takeWhile (· ≠ '=')))
      ((body.dropWhile (· ≠ '=')).tail?.map String.ofList) := by
  obtain ⟨c, rest, rfl⟩ := List.exists_cons_of_ne_nil hbody
  unfold Argument.ofString
  rw [h]
  split
  · next heq => simp at heq
  · next body _ heq =>
      obtain rfl : c :: rest = body := by simpa using heq
      cases (c :: rest).dropWhile (· ≠ '=') <;> rfl
  · next hdash heq => exact absurd (List.cons.inj (List.cons.inj heq).2).1.symm hdash
  · next hlong _ => exact absurd rfl (hlong _)

theorem ofString_flag_value (k : Setting) (text : String) :
    Argument.ofString ("--" ++ k.flag ++ "=" ++ text) = .long k.flag (some text) := by
  have hname : ∀ c ∈ k.flag.toList, decide (c ≠ '=') = true := by
    intro c hc
    have hne : c ≠ '=' := fun heq => not_mem_flag k (heq ▸ hc)
    exact decide_eq_true hne
  have hchars : ("--" ++ k.flag ++ "=" ++ text).toList =
      '-' :: '-' :: (k.flag.toList ++ '=' :: text.toList) := by simp
  rw [ofString_of_toList hchars (by simp), List.takeWhile_append_of_pos hname,
    List.dropWhile_append_of_pos hname]
  simp

theorem ofString_flag (k : Setting) : Argument.ofString ("--" ++ k.flag) = .long k.flag none := by
  cases k <;> decide

/-- Only such an argument has a name. -/
theorem exists_body_of_long {arg flag : String} {value? : Option String}
    (h : Argument.ofString arg = .long flag value?) :
    ∃ body, body ≠ [] ∧ arg.toList = '-' :: '-' :: body := by
  unfold Argument.ofString at h
  split at h
  · contradiction
  · next body hterminator heq =>
      refine ⟨body, ?_, heq⟩
      rintro rfl
      exact hterminator rfl
  · contradiction
  · contradiction

/-- An argument with a name is two hyphens, the name and maybe a value after a sign. -/
theorem eq_of_ofString {arg flag : String} {value? : Option String}
    (h : Argument.ofString arg = .long flag value?) :
    arg = "--" ++ flag ++ (value?.map fun text => "=" ++ text).getD "" := by
  obtain ⟨body, hbody, hchars⟩ := exists_body_of_long h
  rw [ofString_of_toList hchars hbody] at h
  obtain ⟨rfl, rfl⟩ := Argument.long.inj h
  have hsplit := List.takeWhile_append_dropWhile (p := (· ≠ '=')) (l := body)
  have hhead := List.head?_dropWhile_not (· ≠ '=') body
  apply String.toList_inj.mp
  cases hrest : body.dropWhile (· ≠ '=') with
  | nil =>
      rw [hrest, List.append_nil] at hsplit
      simpa [hchars] using hsplit.symm
  | cons c value =>
      rw [hrest] at hhead hsplit
      obtain rfl : c = '=' := by simpa using hhead
      simpa [hchars] using hsplit.symm

/-! ## Flags given -/

theorem not_gives_nil (k : Setting) (text : String) : ¬ Gives [] k text := by
  simp [Gives]

/-- The first argument gives a value, by itself or with the next, or the others do. -/
theorem gives_cons_iff {arg : String} {rest : List String} :
    Gives (arg :: rest) k text ↔
      (arg = "--" ++ k.flag ++ "=" ++ text ∨ arg = "--" ++ k.flag ∧ rest.head? = some text) ∨
        Gives rest k text := by
  have hprefix : ["--" ++ k.flag, text] <+: arg :: rest ↔
      arg = "--" ++ k.flag ∧ rest.head? = some text := by
    rw [List.cons_prefix_cons]
    cases rest with
    | nil => simp
    | cons next more =>
        simp only [List.cons_prefix_cons, List.nil_prefix, and_true, List.head?_cons,
          Option.some.injEq]
        exact and_congr eq_comm eq_comm
  rw [Gives, Gives, List.mem_cons, List.infix_cons_iff, hprefix,
    eq_comm (a := "--" ++ k.flag ++ "=" ++ text)]
  tauto

/-- An argument that gives no value is passed over. -/
theorem gives_cons_of_ne {arg : String} {rest : List String}
    (hvalue : ∀ text, Argument.ofString arg ≠ .long k.flag (some text))
    (hflag : Argument.ofString arg ≠ .long k.flag none) :
    Gives (arg :: rest) k text ↔ Gives rest k text := by
  rw [gives_cons_iff]
  constructor
  · rintro ((rfl | ⟨rfl, -⟩) | hrest)
    · exact absurd (ofString_flag_value k text) (hvalue text)
    · exact absurd (ofString_flag k) hflag
    · exact hrest
  · exact .inr

/-- An argument with a value gives this value to the setting of its flag. -/
theorem gives_cons_of_value {arg : String} {rest : List String}
    (h : Argument.ofString arg = .long k.flag (some text)) (l : Setting) (t : String) :
    Gives (arg :: rest) l t ↔ (l = k ∧ t = text) ∨ Gives rest l t := by
  rw [gives_cons_iff]
  refine or_congr_left ?_
  constructor
  · rintro (rfl | ⟨rfl, -⟩)
    · rw [ofString_flag_value, Argument.long.injEq, Option.some.injEq] at h
      exact ⟨Setting.flag_injective h.1, h.2⟩
    · simp [ofString_flag] at h
  · rintro ⟨rfl, rfl⟩
    exact .inl (by simpa [String.append_assoc] using eq_of_ofString h)

/-- A flag gives the argument after it to its setting, if this is a value. -/
theorem gives_cons_of_flag {arg : String} {rest : List String}
    (h : Argument.ofString arg = .long k.flag none)
    (hvalue : (Argument.ofString text).isValue = true) (l : Setting) (t : String) :
    Gives (arg :: text :: rest) l t ↔ (l = k ∧ t = text) ∨ Gives rest l t := by
  have hplain : ∀ name value?, Argument.ofString text ≠ .long name value? := by
    intro name value? hlong
    rw [hlong] at hvalue
    contradiction
  have hskip : Gives (text :: rest) l t ↔ Gives rest l t :=
    gives_cons_of_ne (fun _ => hplain _ _) (hplain _ _)
  rw [gives_cons_iff, hskip]
  refine or_congr_left ?_
  constructor
  · rintro (rfl | ⟨rfl, htext⟩)
    · simp [ofString_flag_value] at h
    · rw [ofString_flag, Argument.long.injEq] at h
      exact ⟨Setting.flag_injective h.1, by simpa using htext.symm⟩
  · rintro ⟨rfl, rfl⟩
    exact .inr ⟨by simpa using eq_of_ofString h, rfl⟩

/-! ## All flags -/

/-- What the flags make of settings: where a flag is given there was nothing, and now there is
its value; where none is given nothing changes. -/
structure Carries (args : List String) (s s' : Settings) : Prop where
  given : ∀ k text, Gives args k text →
    s.get k = none ∧ ∃ v, k.read? text = some v ∧ s'.get k = some v
  kept : ∀ k, (∀ text, ¬ Gives args k text) → s'.get k = s.get k

theorem Carries.congr {rest : List String} {s s' : Settings} (h : Carries rest s s')
    (hgives : ∀ k text, Gives args k text ↔ Gives rest k text) : Carries args s s' := by
  refine ⟨fun k text hk => h.given k text ((hgives k text).mp hk), fun k hk => h.kept k ?_⟩
  exact fun text hrest => hk text ((hgives k text).mpr hrest)

theorem carries_nil (s : Settings) : Carries [] s s :=
  ⟨fun k text hgives => absurd hgives (not_gives_nil k text), fun _ _ => rfl⟩

/-- One flag after another. -/
theorem Carries.after {rest : List String} {s s₁ s' : Settings} (hsets : Sets k text s s₁)
    (h : Carries rest s₁ s')
    (hgives : ∀ l t, Gives args l t ↔ (l = k ∧ t = text) ∨ Gives rest l t) :
    Carries args s s' := by
  obtain ⟨v, hread, hset⟩ := hsets.reads
  refine ⟨?_, ?_⟩
  · intro l t hl
    rcases (hgives l t).mp hl with ⟨rfl, rfl⟩ | hrest
    · have honce : ∀ other, ¬ Gives rest l other := by
        intro other hother
        have hopen := (h.given l other hother).1
        rw [hset] at hopen
        contradiction
      exact ⟨hsets.vacant, v, hread, (h.kept l honce).trans hset⟩
    · obtain ⟨hopen, hlater⟩ := h.given l t hrest
      have hne : l ≠ k := by
        rintro rfl
        rw [hset] at hopen
        contradiction
      exact ⟨(hsets.keeps l hne).symm.trans hopen, hlater⟩
  · intro l hl
    have hne : l ≠ k := by
      rintro rfl
      exact hl text ((hgives l text).mpr (.inl ⟨rfl, rfl⟩))
    have hrest : ∀ t, ¬ Gives rest l t := fun t ht => hl t ((hgives l t).mpr (.inr ht))
    exact (h.kept l hrest).trans (hsets.keeps l hne)

/-- **What the flags of a launch say**, when they are read from left to right. -/
theorem carries_of_parseFlags {i j : Invocation} (hcommand : i.command = .preflight)
    (h : parseFlags i args = some (.invoke j)) :
    j.command = .preflight ∧ Carries args i.settings j.settings := by
  fun_induction parseFlags i args with
  | case1 i =>
      obtain rfl : i = j := by simpa using h
      exact ⟨hcommand, carries_nil i.settings⟩
  | case2 i arg rest hform hrest =>
      obtain rfl : i = j := by simpa using h
      obtain rfl : rest = [] := by simpa using hrest
      refine ⟨hcommand, (carries_nil i.settings).congr fun k text => ?_⟩
      exact gives_cons_of_ne (by simp [hform]) (by simp [hform])
  | case9 i arg rest flag text _ hform ih =>
      obtain ⟨next, hset, hrest⟩ := Option.bind_eq_some_iff.mp h
      obtain ⟨hnext, -, k, rfl, hsets⟩ := sets_of_set? hcommand hset
      obtain ⟨hdone, hcarries⟩ := ih next hnext hrest
      exact ⟨hdone, hcarries.after hsets (gives_cons_of_value hform)⟩
  | case10 i arg rest _ _ hform ih =>
      obtain ⟨hdone, hcarries⟩ := ih hcommand h
      refine ⟨hdone, hcarries.congr fun k text => ?_⟩
      refine gives_cons_of_ne (by simp [hform]) ?_
      rw [hform]
      cases k <;> decide
  | case13 i arg flag _ hform _ text rest hvalue ih =>
      obtain ⟨next, hset, hrest⟩ := Option.bind_eq_some_iff.mp h
      obtain ⟨hnext, -, k, rfl, hsets⟩ := sets_of_set? hcommand hset
      obtain ⟨hdone, hcarries⟩ := ih next hnext hrest
      exact ⟨hdone, hcarries.after hsets (gives_cons_of_flag hform hvalue)⟩
  | case3 | case4 | case5 | case6 | case7 | case8 | case11 | case12 | case14 => simp at h

/-- A launch starts from settings that leave everything open. -/
theorem carries_of_parse {i : Invocation} (h : parse ("preflight" :: args) = some (.invoke i)) :
    i.command = .preflight ∧ Carries args .empty i.settings := by
  have hparse : parse ("preflight" :: args) = parseFlags ⟨.preflight, .empty, false⟩ args := rfl
  rw [hparse] at h
  exact carries_of_parseFlags rfl h

/-- A utilization from the command line is a number, or the word for none. -/
theorem plain_of_number? {x : Binary32} (h : number? text = some x) : x.Plain := by
  simp only [number?] at h
  -- The sign does not matter.
  split at h
  all_goals
    split at h
    · obtain rfl := Option.some.inj h
      exact Binary32.plain_ofMagnitude _ (Nat.le_refl _)
    · split at h
      · obtain rfl := Option.some.inj h
        exact Binary32.plain_of_noNumber _
      · split at h
        · contradiction
        · obtain ⟨exponent, -, hx⟩ := Option.bind_eq_some_iff.mp h
          obtain rfl := Option.some.inj hx
          exact Binary32.plain_ofDecimal _ _ _

theorem plain_of_parse {i : Invocation} (h : parse ("preflight" :: args) = some (.invoke i)) :
    i.settings.Plain := by
  obtain ⟨-, hcarries⟩ := carries_of_parse h
  intro x hx
  by_cases hgiven : ∃ text, Gives args .gpuMemoryUtilization text
  · obtain ⟨text, htext⟩ := hgiven
    obtain ⟨-, v, hread, hv⟩ := hcarries.given _ text htext
    obtain rfl : v = x := Option.some.inj (hv.symm.trans hx)
    exact plain_of_number? hread
  · have hkept := hcarries.kept .gpuMemoryUtilization (not_exists.mp hgiven)
    have hnone : some x = none := hx.symm.trans hkept
    contradiction

end CommandLine

end ModelRegistry
