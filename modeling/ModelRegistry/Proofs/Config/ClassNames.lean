import ModelRegistry.Proofs.Config.Conformance
import ModelRegistry.Proofs.Config.SchemaDirectory
import ModelRegistry.Proofs.Resolution
import ModelRegistry.Proofs.Text
import ModelRegistry.Proofs.Verification

/-!
# ModelRegistry.Proofs.Config.ClassNames

The names under which a schema directory publishes classes, and where they are shown:
in descriptors, in what is wrong with a class, in failed resolutions and in reports.

A name is looked at three times. The directory turns a class away whose name is empty
and then takes the blanks off the name; the check of a class asks whether anything is
left without them. In this order a name of blanks alone passes the first test, and the
class is published with the empty name. All other names are shown as they should be
(`ShowsName`).
-/

namespace ModelRegistry

/-! ## The names in errors -/

/-- The names of classes that the error shows. -/
def ConfigClass.SchemaError.classNames : ConfigClass.SchemaError → List String
  | .emptyName => []
  | .duplicateName c _ => [c]
  | .requiredWithDefault c _ => [c]
  | .defaultTypeMismatch c _ _ => [c]
  | .nested c _ source => c :: source.classNames

/-- The names of classes that the attempt shows. -/
def Attempt.classNames (a : Attempt) : List String :=
  match a.outcome with
  | .rejected c _ => [c]
  | _ => []

/-- The names of classes that the fault shows. -/
def ResolutionFault.classNames : ResolutionFault → List String
  | .invalidConfig c _ => [c]
  | _ => []

/-- The names of classes that the error shows. -/
def ResolutionError.classNames (e : ResolutionError) : List String :=
  e.fault.classNames ++ e.attempts.flatMap Attempt.classNames

/-- The names of classes that the failure shows. -/
def FailureKind.classNames : FailureKind → List String
  | .malformedConfig c e => c :: e.classNames
  | _ => []

/-! ## The check of a class -/

namespace ConfigClass

variable {c : ConfigClass} {className : String} {e : SchemaError}

theorem name_withName (name : String) (c : ConfigClass) : (c.withName name).name = name := by
  cases c
  rfl

theorem classNames_of_checkDefault {spec : FieldSpec} (h : checkDefault className spec = .error e) :
    e.classNames = [className] := by
  unfold checkDefault at h
  split at h
  · cases h
  · split at h
    · cases h
      rfl
    · split at h
      · cases h
        rfl
      · cases h

theorem classNames_of_checkDefaults {specs : List FieldSpec}
    (h : checkDefaults className specs = .error e) : e.classNames = [className] := by
  induction specs with
  | nil => cases h
  | cons spec rest ih =>
      cases hspec : checkDefault className spec with
      | error fault =>
          obtain rfl : fault = e := by simpa [checkDefaults, hspec] using h
          exact classNames_of_checkDefault hspec
      | ok => exact ih (by simpa [checkDefaults, hspec] using h)

/-- A class that fails in its slots fails in the class of one of them. -/
theorem exists_slot_of_checkSlots {slots : List (Slot ConfigClass)}
    (h : checkSlots className slots = .error e) :
    ∃ slot ∈ slots, ∃ fault, slot.child.checkWellFormed = .error fault ∧
      e = .nested className slot.name fault := by
  induction slots with
  | nil => cases h
  | cons slot rest ih =>
      cases hchild : slot.child.checkWellFormed with
      | error fault =>
          refine ⟨slot, List.mem_cons_self, fault, hchild, ?_⟩
          simpa [checkSlots, hchild, eq_comm] using h
      | ok =>
          obtain ⟨other, hother, hfault⟩ := ih (by simpa [checkSlots, hchild] using h)
          exact ⟨other, List.mem_cons_of_mem slot hother, hfault⟩

/-- How the check of a class fails: for want of a name, with an error that shows this name alone,
or in a slot. The name is looked at first, so that the other errors are found under a name. -/
inductive Faulty : ConfigClass → SchemaError → Prop where
  | nameless {c : ConfigClass} : Text.Blank c.name → Faulty c .emptyName
  | own {c : ConfigClass} {e : SchemaError} :
      ¬ Text.Blank c.name → e.classNames = [c.name] → Faulty c e
  | nested {c : ConfigClass} {slot : Slot ConfigClass} {e : SchemaError} :
      ¬ Text.Blank c.name → slot ∈ c.slots → Faulty slot.child e →
      Faulty c (.nested c.name slot.name e)

theorem faulty_of_checkWellFormed (h : c.checkWellFormed = .error e) : c.Faulty e := by
  induction c using slotInduction generalizing e with
  | node c ih =>
      obtain ⟨name, modelTypes, fields, slots⟩ := c
      unfold checkWellFormed at h
      split at h
      · next hname =>
        cases h
        exact .nameless (Text.trimChars_eq_nil_iff.mp (List.isEmpty_iff.mp hname))
      · next hname =>
        have hnamed : ¬ Text.Blank name := fun hblank =>
          hname (List.isEmpty_iff.mpr (Text.trimChars_eq_nil_iff.mpr hblank))
        split at h
        · cases h
          exact .own hnamed rfl
        · split at h
          · next hdefaults =>
            cases h
            exact .own hnamed (classNames_of_checkDefaults hdefaults)
          · obtain ⟨slot, hslot, fault, hfault, rfl⟩ := exists_slot_of_checkSlots h
            exact .nested hnamed hslot (ih slot hslot hfault)

/-- A class is without a name if the name is blank. -/
theorem checkWellFormed_eq_emptyName_iff :
    c.checkWellFormed = .error .emptyName ↔ Text.Blank c.name := by
  constructor
  · intro h
    cases faulty_of_checkWellFormed h with
    | nameless hblank => exact hblank
    | own _ hnames => cases hnames
  · intro h
    obtain ⟨name, modelTypes, fields, slots⟩ := c
    have hname : (Text.trimChars name.toList).isEmpty = true :=
      List.isEmpty_iff.mpr (Text.trimChars_eq_nil_iff.mpr h)
    rw [checkWellFormed, if_pos hname]

/-- What is wrong with a class is told of classes with names. -/
theorem Faulty.not_blank (h : c.Faulty e) : ∀ name ∈ e.classNames, ¬ Text.Blank name := by
  induction h with
  | nameless => exact List.forall_mem_nil _
  | own hnamed hnames =>
      rw [hnames]
      exact List.forall_mem_singleton.mpr hnamed
  | nested hnamed _ _ ih => exact List.forall_mem_cons.mpr ⟨hnamed, ih⟩

end ConfigClass

/-! ## Where the name of a class is shown -/

namespace Config

variable {provenance : Provenance} {slot : Option String} {raw : Json.Object} {c : ConfigClass}
  {d : Descriptor}

theorem className_of_instantiate (h : instantiate provenance slot raw c = .ok d) :
    d.className = c.name := by
  obtain ⟨values, nested, -, -, rfl⟩ := (instantiate_eq_ok_iff provenance slot raw c d).mp h
  rfl

/-- The parts of a descriptor have names if the class has passed its check. -/
theorem not_blank_of_mem_walk (hc : c.checkWellFormed = .ok ())
    (h : instantiate provenance slot raw c = .ok d) :
    ∀ part ∈ d.walk, ¬ Text.Blank part.className := by
  induction c using ConfigClass.slotInduction generalizing slot raw d with
  | node c ih =>
      have hchecked := (ConfigClass.checkWellFormed_eq_ok_iff c).mp hc
      obtain ⟨values, nested, -, hnested, rfl⟩ :=
        (instantiate_eq_ok_iff provenance slot raw c d).mp h
      intro part hpart
      rw [Descriptor.walk, List.mem_cons, mem_walkAll] at hpart
      rcases hpart with rfl | ⟨child, hchild, hpart⟩
      · exact fun hblank => hchecked.named (Text.trimChars_eq_nil_iff.mpr hblank)
      · obtain ⟨s, hs, object, h'⟩ := exists_slot_of_mem hnested hchild
        exact ih s hs (hchecked.children s hs) h' part hpart

end Config

theorem Selection.classNames_attempts_ofModelType {mapping : ClassMapping}
    {modelType : Option String} {before : List Attempt}
    (h : before.flatMap Attempt.classNames = []) :
    (ofModelType mapping modelType before).attempts.flatMap Attempt.classNames = [] := by
  unfold ofModelType
  split
  · exact h
  · split
    · exact h
    · simp [h, Attempt.classNames]

/-- The tiers that did not decide had no class. -/
theorem ClassMapping.classNames_attempts_select {mapping : ClassMapping}
    {source : String → SourceAnswer (Shared ConfigClass)} {architecture : String}
    {modelType : Option String} :
    (mapping.select source architecture modelType).attempts.flatMap Attempt.classNames = [] := by
  rw [select]
  split
  · rfl
  · split
    · rfl
    · exact Selection.classNames_attempts_ofModelType rfl
    · exact Selection.classNames_attempts_ofModelType rfl

/-- A resolution that fails with a class shows the name of this class only. -/
theorem Resolver.classNames_of_resolve {r : Resolver} {files : Files} {checkpoint : Checkpoint}
    {architecture : String} {selection : Selection} {strategy : Strategy}
    {c : Shared ConfigClass} {e : ResolutionError}
    (hselection : r.selection? files checkpoint = some (architecture, selection))
    (hchosen : selection.chosen = some (strategy, c)) (h : r.resolve files checkpoint = .error e) :
    ∀ name ∈ e.classNames, name = c.value.name := by
  have hattempts : selection.attempts.flatMap Attempt.classNames = [] := by
    obtain ⟨id, -, hid⟩ := Option.map_eq_some_iff.mp hselection
    cases hid
    exact ClassMapping.classNames_attempts_select
  obtain ⟨chosen, attempts⟩ := selection
  obtain rfl : chosen = some (strategy, c) := hchosen
  rw [resolve_of_selection? hselection, instantiate_of_chosen] at h
  split at h
  · cases h
  · cases h
    intro name hname
    rw [ResolutionError.classNames, List.flatMap_append, hattempts] at hname
    simpa [ResolutionFault.classNames, Attempt.classNames] using hname

/-- What is reported of a class that was chosen is what its check finds. -/
theorem Verifier.malformed_of_mem_checkSelection {sourceName : String} {selection : Selection}
    {strategy : Strategy} {c : Shared ConfigClass} {kind : FailureKind}
    (hchosen : selection.chosen = some (strategy, c))
    (h : kind ∈ checkSelection sourceName selection) :
    ∃ e, c.value.checkWellFormed = .error e ∧ kind = .malformedConfig c.value.name e := by
  cases hcheck : c.value.checkWellFormed with
  | ok => simp [checkSelection, hchosen, hcheck] at h
  | error e => exact ⟨e, rfl, by simpa [checkSelection, hchosen, hcheck] using h⟩

/-- Wherever a class is shown by its name there is a name: in the descriptors read against it, in
what is wrong with it, in the resolutions that fail with it, and in the report on an entry for which
it is chosen. Of the parts of a descriptor only the check says that they have names. -/
structure ShowsName (c : Shared ConfigClass) : Prop where
  descriptor : ∀ provenance slot raw d, Config.instantiate provenance slot raw c.value = .ok d →
    ¬ Text.Blank d.className ∧
      (c.value.checkWellFormed = .ok () → ∀ part ∈ d.walk, ¬ Text.Blank part.className)
  check : ∀ e, c.value.checkWellFormed = .error e → ∀ name ∈ e.classNames, ¬ Text.Blank name
  resolution : ∀ (r : Resolver) files checkpoint architecture selection strategy e,
    r.selection? files checkpoint = some (architecture, selection) →
    selection.chosen = some (strategy, c) → r.resolve files checkpoint = .error e →
    ∀ name ∈ e.classNames, ¬ Text.Blank name
  verification : ∀ sourceName selection strategy, selection.chosen = some (strategy, c) →
    ∀ kind ∈ Verifier.checkSelection sourceName selection,
    ∀ name ∈ kind.classNames, ¬ Text.Blank name

theorem showsName_of_not_blank {c : Shared ConfigClass} (h : ¬ Text.Blank c.value.name) :
    ShowsName c where
  descriptor provenance slot raw d hd := by
    refine ⟨?_, fun hcheck => ?_⟩
    · rw [Config.className_of_instantiate hd]
      exact h
    · exact Config.not_blank_of_mem_walk hcheck hd
  check e he := (ConfigClass.faulty_of_checkWellFormed he).not_blank
  resolution r files checkpoint architecture selection strategy e hselection hchosen he := by
    intro name hname
    rw [Resolver.classNames_of_resolve hselection hchosen he name hname]
    exact h
  verification sourceName selection strategy hchosen := by
    intro kind hkind
    obtain ⟨e, he, rfl⟩ := Verifier.malformed_of_mem_checkSelection hchosen hkind
    exact List.forall_mem_cons.mpr ⟨h, (ConfigClass.faulty_of_checkWellFormed he).not_blank⟩

/-! ## What a schema file publishes -/

namespace SchemaDirectory

variable {d : SchemaDirectory} {files : Files} {id : String} {c : ConfigClass}

/-- The schema file of an architecture holds this class, under the name that it has there. -/
def FileHolds (d : SchemaDirectory) (files : Files) (id : String) (c : ConfigClass) : Prop :=
  ∃ text, files.read (d.filePath id) = .ok text ∧
    (Json.Reader.document? text).bind ConfigClass.ofDocument? = some c

/-- A class that has no name in its file is turned away; from another name the blanks are taken. -/
theorem load_of_fileHolds (h : d.FileHolds files id c) :
    d.load files id =
      if c.name = "" then .error (.parse (d.filePath id) "missing class name")
      else .ok (some (c.withName (Text.trim c.name))) := by
  obtain ⟨text, hread, hclass⟩ := h
  have hfile : files.isFile (d.filePath id) = true := by
    rw [Files.read] at hread
    rw [Files.isFile]
    split at hread
    · cases hread
    · cases hread
    · next content hfind => rw [hfind]
  by_cases hname : c.name = ""
  · simp [load, hfile, hread, readClass, hclass, hname]
  · simp [load, hfile, hread, readClass, hclass, hname]

/-- A class comes out of a file only if the file holds one. -/
theorem exists_fileHolds_of_load (h : d.load files id = .ok (some c)) :
    ∃ k, d.FileHolds files id k ∧ k.name ≠ "" ∧ c = k.withName (Text.trim k.name) := by
  obtain ⟨k, hk⟩ : ∃ k, d.FileHolds files id k := by
    rw [load] at h
    split at h
    · cases h
    · split at h
      · cases h
      · next text hread =>
        cases hclass : (Json.Reader.document? text).bind ConfigClass.ofDocument? with
        | none => simp [readClass, hclass] at h
        | some k => exact ⟨k, text, hread, hclass⟩
  rw [load_of_fileHolds hk] at h
  split at h
  · cases h
  · next hname =>
    cases h
    exact ⟨k, hk, hname, rfl⟩

namespace Moment

variable {m : Moment} {events : List Event} {c : Shared ConfigClass}

/-- An answer was loaded, now or at an earlier look-up. -/
theorem exists_load_of_answer (hnew : m.directory.cache.lookup id = none)
    (h : (m.run events).answer id = .ok (some c)) :
    ∃ before, before <+: events ∧
      (m.run before).directory.load (m.run before).files id = .ok (some c.value) := by
  cases hcached : (m.run events).directory.cache.lookup id with
  | none =>
      rw [answer, answer_eq_some_iff_of_uncached (isWord_of_answer h) hcached] at h
      exact ⟨events, List.prefix_rfl, h.1⟩
  | some k =>
      obtain rfl : k = c := by
        rw [answer, answer_of_cached (isWord_of_answer h) hcached] at h
        exact Option.some.inj (Except.ok.inj h)
      obtain ⟨before, more, rfl, huncached, hanswer⟩ := loaded_of_cached hnew hcached
      rw [answer, answer_eq_some_iff_of_uncached (isWord_of_answer h) huncached] at hanswer
      exact ⟨before, List.prefix_append _ _, hanswer.1⟩

/-- That a class of some name is answered can be computed from the answer. -/
theorem exists_answer_of_name {name : String}
    (h : (m.answer id).toOption.bind (Option.map (·.value.name)) = some name) :
    ∃ c, m.answer id = .ok (some c) ∧ c.value.name = name := by
  cases hanswer : m.answer id with
  | error fault => simp [hanswer, Except.toOption] at h
  | ok answered =>
      rw [hanswer] at h
      obtain ⟨c, rfl, hc⟩ := Option.map_eq_some_iff.mp h
      exact ⟨c, rfl, hc⟩

/-! ## Main theorem -/

/-- **Classes are published under their trimmed names**: as long as no class was answered for a
word, a file whose class has the empty name is an error, and any other class is answered, with the
blanks taken off its name. Whatever is answered was in the file at some time, and there are no
blanks around its name. If the name in the file had more to it than blanks, the class is not without
a name, neither for its check nor where its name is shown; if it was of blanks alone, the class was
published with the empty name, and its check finds that. -/
theorem publishes_trimmed_names (path : String) (files : Files) (events : List Event)
    (id : String) :
    let start : Moment := ⟨.atPath path, files⟩
    let now := start.run events
    (∀ k, Text.Word id → (∀ c, ¬ start.Answered events id (.ok (some c))) →
      now.directory.FileHolds now.files id k →
      (k.name = "" →
        now.answer id = .error (.parse (now.directory.filePath id) "missing class name")) ∧
      (k.name ≠ "" →
        ∃ c, now.answer id = .ok (some c) ∧ c.value = k.withName (Text.trim k.name))) ∧
    ∀ c, now.answer id = .ok (some c) →
      ∃ before k, before <+: events ∧
        (start.run before).directory.FileHolds (start.run before).files id k ∧
        c.value = k.withName (Text.trim k.name) ∧ Text.Bare c.value.name ∧
        (¬ Text.Blank k.name →
          c.value.name ≠ "" ∧ c.value.checkWellFormed ≠ .error .emptyName ∧ ShowsName c) ∧
        (Text.Blank k.name →
          k.name ≠ "" ∧ c.value.name = "" ∧ c.value.checkWellFormed = .error .emptyName) := by
  intro start now
  constructor
  · intro k hword hnone hheld
    have hcached : now.directory.cache.lookup id = none := by
      cases hcached : now.directory.cache.lookup id with
      | none => rfl
      | some c => exact absurd (answered_of_cached rfl hcached) (hnone c)
    rw [answer, answer_of_uncached (Text.isWord_toList_iff.mpr hword) hcached,
      load_of_fileHolds hheld]
    constructor
    · intro hname
      rw [if_pos hname]
      rfl
    · intro hname
      rw [if_neg hname]
      exact ⟨_, rfl, rfl⟩
  · intro c hanswer
    obtain ⟨before, hbefore, hload⟩ := exists_load_of_answer rfl hanswer
    obtain ⟨k, hheld, hname, hc⟩ := exists_fileHolds_of_load hload
    have hcname : c.value.name = Text.trim k.name := by rw [hc, ConfigClass.name_withName]
    refine ⟨before, k, hbefore, hheld, hc, hcname ▸ Text.bare_trim k.name, ?_, ?_⟩
    · intro hblank
      have hcblank : ¬ Text.Blank c.value.name := by rwa [hcname, Text.blank_trim_iff]
      refine ⟨?_, ?_, showsName_of_not_blank hcblank⟩
      · rwa [hcname, ne_eq, Text.trim_eq_empty_iff]
      · rwa [ne_eq, ConfigClass.checkWellFormed_eq_emptyName_iff]
    · intro hblank
      refine ⟨hname, ?_, ?_⟩
      · rw [hcname, Text.trim_eq_empty_iff]
        exact hblank
      · rw [ConfigClass.checkWellFormed_eq_emptyName_iff, hcname, Text.blank_trim_iff]
        exact hblank

/-- The schema file of `A` is written. -/
def writeSchema (text : String) : Event := .put "schemas/A.json" (.file text.toUTF8)

/-- A name with blanks of two kinds around it is published without them and stays so when the file
is gone; a class with the empty name is turned away. -/
theorem padded_name_is_trimmed :
    let nameless := [writeSchema "\x7b\"name\": \"\"\x7d"]
    let padded := [writeSchema "\x7b\"name\": \"\u3000AConfig \"\x7d", .lookup "A",
      .delete "schemas/A.json"]
    (bare.run nameless).answer "A" = .error (.parse "schemas/A.json" "missing class name") ∧
      ∃ c, (bare.run padded).answer "A" = .ok (some c) ∧ c.value.name = "AConfig" ∧
        ShowsName c := by
  intro nameless padded
  constructor
  · have hname : ((Json.Reader.document? "\x7b\"name\": \"\"\x7d").bind
        ConfigClass.ofDocument?).map (·.name) = some "" := by
      decide +kernel
    obtain ⟨k, hk, hkname⟩ := Option.map_eq_some_iff.mp hname
    have hnone : ∀ c, ¬ bare.Answered nameless "A" (.ok (some c)) := by
      intro c h
      have hcached : none = some c := cached_of_answered h
      cases hcached
    have hpath : (bare.run nameless).directory.filePath "A" = "schemas/A.json" := by
      decide +kernel
    rw [← hpath]
    exact ((publishes_trimmed_names "schemas" .empty nameless "A").1 k (by decide) hnone
      ⟨_, by decide +kernel, hk⟩).1 hkname
  · obtain ⟨c, hanswer, hname⟩ : ∃ c, (bare.run padded).answer "A" = .ok (some c) ∧
        c.value.name = "AConfig" :=
      exists_answer_of_name (by decide +kernel)
    obtain ⟨before, k, -, -, -, -, hshown, hempty⟩ :=
      (publishes_trimmed_names "schemas" .empty padded "A").2 c hanswer
    have hblank : ¬ Text.Blank k.name := by
      intro hblank
      exact absurd (hname.symm.trans (hempty hblank).2.1) (by decide)
    exact ⟨c, hanswer, hname, (hshown hblank).2.2⟩

/-- A name of blanks alone is published as the empty name. -/
theorem blank_name_is_published :
    ∃ c, (bare.run [writeSchema "\x7b\"name\": \" \"\x7d"]).answer "A" = .ok (some c) ∧
      c.value.name = "" ∧ c.value.checkWellFormed = .error .emptyName := by
  obtain ⟨c, hanswer, hname⟩ :
      ∃ c, (bare.run [writeSchema "\x7b\"name\": \" \"\x7d"]).answer "A" = .ok (some c) ∧
        c.value.name = "" :=
    exists_answer_of_name (by decide +kernel)
  refine ⟨c, hanswer, hname, ConfigClass.checkWellFormed_eq_emptyName_iff.mpr ?_⟩
  rw [hname]
  decide

end Moment

end SchemaDirectory

end ModelRegistry
