import Mathlib.Data.List.Nodup
import ModelRegistry.Settings
import ModelRegistry.Proofs.Document
import ModelRegistry.Proofs.Files.Writing
import ModelRegistry.Proofs.Number.Widening

/-!
# ModelRegistry.Proofs.Settings

Settings by their names. A set of settings is what it says of each of the twelve
(`Settings.ext_get`), and merging is one rule for all of them (`get_merge`); that sets of
settings are a monoid follows. Saving and loading is the other half. Given that the
notation reads back the table that was written (`ReadsBack`), the record of it is read as
the settings that were saved.
-/

namespace ModelRegistry

open Number

/-- The settings that there are. -/
inductive Setting where
  | model | draftModel | numSpeculativeTokens | servedModelName | dtype | maxModelLen
  | gpuMemoryUtilization | tensorParallelSize | revision | registry | configSchemaDir | logLevel
  deriving DecidableEq, Repr

/-- The values of a setting. -/
def Setting.Value : Setting → Type
  | .numSpeculativeTokens | .maxModelLen | .tensorParallelSize => UInt64
  | .gpuMemoryUtilization => Binary32
  | .model | .draftModel | .servedModelName | .dtype | .revision | .registry | .configSchemaDir
  | .logLevel => String

/-- What a simple value stands for in a document. -/
def Toml.Simple.document : Toml.Simple → Document
  | .string s => .string s
  | .size n => .integer n.toNat
  | .float x => .float x

/-- The simple value that a document is. -/
def Toml.Simple.ofDocument? : Document → Option Toml.Simple
  | .string s => some (.string s)
  | .integer n => (Document.size? (.integer n)).map .size
  | .float x => some (.float x)
  | _ => none

theorem Toml.Simple.document_of_ofDocument? {d : Document} {v : Toml.Simple}
    (h : ofDocument? d = some v) : v.document = d := by
  cases d with
  | string | float =>
      obtain rfl := Option.some.inj h
      rfl
  | integer n =>
      obtain ⟨size, hsize, rfl⟩ := Option.map_eq_some_iff.mp h
      rw [Document.size?] at hsize
      split at hsize
      · next hbounds =>
          obtain rfl := Option.some.inj hsize
          have hlt : n.toNat < UInt64.size := by omega
          rw [Toml.Simple.document, UInt64.toNat_ofNat_of_lt' hlt, Int.toNat_of_nonneg hbounds.1]
      · contradiction
  | null | bool | array | object | unreadable => contradiction

namespace Settings

/-- What settings say of one of them. -/
def get (s : Settings) : (k : Setting) → Option k.Value
  | .model => s.model
  | .draftModel => s.draftModel
  | .numSpeculativeTokens => s.numSpeculativeTokens
  | .servedModelName => s.servedModelName
  | .dtype => s.dtype
  | .maxModelLen => s.maxModelLen
  | .gpuMemoryUtilization => s.gpuMemoryUtilization
  | .tensorParallelSize => s.tensorParallelSize
  | .revision => s.revision
  | .registry => s.registry
  | .configSchemaDir => s.configSchemaDir
  | .logLevel => s.logLevel

/-- Settings are what they say. -/
theorem ext_get {a b : Settings} (h : ∀ k, a.get k = b.get k) : a = b := by
  obtain ⟨model, draftModel, numSpeculativeTokens, servedModelName, dtype, maxModelLen,
    gpuMemoryUtilization, tensorParallelSize, revision, registry, configSchemaDir, logLevel⟩ := a
  obtain rfl : model = b.model := h .model
  obtain rfl : draftModel = b.draftModel := h .draftModel
  obtain rfl : numSpeculativeTokens = b.numSpeculativeTokens := h .numSpeculativeTokens
  obtain rfl : servedModelName = b.servedModelName := h .servedModelName
  obtain rfl : dtype = b.dtype := h .dtype
  obtain rfl : maxModelLen = b.maxModelLen := h .maxModelLen
  obtain rfl : gpuMemoryUtilization = b.gpuMemoryUtilization := h .gpuMemoryUtilization
  obtain rfl : tensorParallelSize = b.tensorParallelSize := h .tensorParallelSize
  obtain rfl : revision = b.revision := h .revision
  obtain rfl : registry = b.registry := h .registry
  obtain rfl : configSchemaDir = b.configSchemaDir := h .configSchemaDir
  obtain rfl : logLevel = b.logLevel := h .logLevel
  rfl

/-- The settings with another value for one of them. -/
def set (s : Settings) : (k : Setting) → Option k.Value → Settings
  | .model, model => { s with model }
  | .draftModel, draftModel => { s with draftModel }
  | .numSpeculativeTokens, numSpeculativeTokens => { s with numSpeculativeTokens }
  | .servedModelName, servedModelName => { s with servedModelName }
  | .dtype, dtype => { s with dtype }
  | .maxModelLen, maxModelLen => { s with maxModelLen }
  | .gpuMemoryUtilization, gpuMemoryUtilization => { s with gpuMemoryUtilization }
  | .tensorParallelSize, tensorParallelSize => { s with tensorParallelSize }
  | .revision, revision => { s with revision }
  | .registry, registry => { s with registry }
  | .configSchemaDir, configSchemaDir => { s with configSchemaDir }
  | .logLevel, logLevel => { s with logLevel }

@[simp] theorem get_set_self (s : Settings) (k : Setting) (v : Option k.Value) :
    (s.set k v).get k = v := by
  cases k <;> rfl

theorem get_set_of_ne (s : Settings) {k other : Setting} (h : other ≠ k) (v : Option k.Value) :
    (s.set k v).get other = s.get other := by
  cases k <;> cases other <;> first | rfl | contradiction

/-! ## Merging -/

@[simp] theorem get_empty (k : Setting) : empty.get k = none := by
  cases k <;> rfl

/-- **What a merge says** of a setting is what the second set says, and else what the first. -/
theorem get_merge (a b : Settings) (k : Setting) :
    (a.merge b).get k = (b.get k).or (a.get k) := by
  cases k <;> rfl

theorem merge_empty (a : Settings) : a.merge empty = a := by
  apply ext_get
  simp [get_merge]

theorem empty_merge (a : Settings) : empty.merge a = a := by
  apply ext_get
  simp [get_merge]

theorem merge_assoc (a b c : Settings) : (a.merge b).merge c = a.merge (b.merge c) := by
  apply ext_get
  simp [get_merge, Option.or_assoc]

/-! ## Defaults -/

/-- What settings that are left open stand for. -/
def defaults : Settings :=
  { empty with
    dtype := some LaunchSettings.default.dtype
    gpuMemoryUtilization := some LaunchSettings.default.gpuMemoryUtilization
    tensorParallelSize := some LaunchSettings.default.tensorParallelSize
    numSpeculativeTokens := some LaunchSettings.default.numSpeculativeTokens
    logLevel := some empty.logFilter }

/-- The launch is the same with the defaults filled in. -/
theorem launch_defaults_merge (s : Settings) : (defaults.merge s).launch = s.launch := by
  simp [launch, merge, defaults, empty]

theorem logFilter_defaults_merge (s : Settings) :
    (defaults.merge s).logFilter = s.logFilter := by
  simp [logFilter, merge, defaults, empty]

/-! ## Records that are written and read -/

/-- The members of a record with these fields, without those that are not given. -/
def written (names : List String) (given : List (Option Document)) : List (String × Document) :=
  (names.zip given).filterMap fun field => field.2.map fun d => (field.1, d)

theorem written_cons (name : String) (d? : Option Document) (names : List String)
    (given : List (Option Document)) :
    written (name :: names) (d? :: given) =
      (d?.map fun d => (name, d)).toList ++ written names given := by
  cases d? <;> simp [written]

theorem mem_names_of_mem_written {names : List String} {given : List (Option Document)}
    {member : String × Document} (h : member ∈ written names given) : member.1 ∈ names := by
  unfold written at h
  obtain ⟨field, hfield, hmember⟩ := List.mem_filterMap.mp h
  obtain ⟨d, -, rfl⟩ := Option.map_eq_some_iff.mp hmember
  exact (List.of_mem_zip hfield).1

/-- Each field is found under its name. -/
theorem filter_written {names : List String} {given : List (Option Document)}
    (hnodup : names.Nodup) {name : String} {d? : Option Document}
    (h : (name, d?) ∈ names.zip given) :
    (written names given).filter (·.1 == name) = (d?.map fun d => (name, d)).toList := by
  induction names generalizing given with
  | nil => simp at h
  | cons first names ih =>
      cases given with
      | nil => simp at h
      | cons first? given =>
          rw [List.nodup_cons] at hnodup
          rw [List.zip_cons_cons, List.mem_cons] at h
          rw [written_cons, List.filter_append]
          rcases h with heq | h
          · obtain ⟨rfl, rfl⟩ := Prod.mk.inj heq
            have hrest : (written names given).filter (·.1 == name) = [] := by
              rw [List.filter_eq_nil_iff]
              intro member hmember hname
              have hmem := mem_names_of_mem_written hmember
              rw [beq_iff_eq.mp hname] at hmem
              exact hnodup.1 hmem
            rw [hrest]
            cases d? <;> simp
          · have hne : first ≠ name := by
              intro heq
              exact hnodup.1 (heq ▸ (List.of_mem_zip h).1)
            rw [ih hnodup.2 h]
            cases first? <;> simp [hne]

/-- A record is read from its members in whatever order they come. -/
theorem fieldsByName?_of_perm {names : List String} {given : List (Option Document)}
    (hnodup : names.Nodup) (hlength : names.length = given.length)
    {members : List (String × Document)} (h : members.Perm (written names given)) :
    Document.fieldsByName? names members = some given := by
  refine Document.fieldsByName?_of_givenAs (List.forall₂_iff_zip.mpr ⟨hlength, ?_⟩)
  intro name d? hfield
  have hfilter := h.filter (·.1 == name)
  rw [filter_written hnodup hfield] at hfilter
  unfold Document.GivenAs
  cases d? with
  | none => exact List.perm_nil.mp hfilter
  | some d => exact List.perm_singleton.mp hfilter

/-! ## Settings that are written and read -/

/-- The notation reads back the table that is written for the settings, with its keys in some
order. -/
def ReadsBack (s : Settings) : Prop :=
  ∀ text, s.text? = some text → ∃ members, Toml.document? text = some (.object members) ∧
    members.Perm (s.entries.map fun entry => (entry.1, entry.2.document))

/-- The entries of a table in which every value is simple. -/
def table? : Document → Option (List (String × Toml.Simple))
  | .object members =>
    members.mapM fun member => (Toml.Simple.ofDocument? member.2).map fun v => (member.1, v)
  | _ => none

theorem eq_of_table? {d : Document} {entries : List (String × Toml.Simple)}
    (h : table? d = some entries) :
    d = .object (entries.map fun entry => (entry.1, entry.2.document)) := by
  cases d with
  | object members =>
      congr 1
      rw [table?] at h
      induction members generalizing entries with
      | nil =>
          obtain rfl : [] = entries := by simpa using h
          rfl
      | cons member rest ih =>
          simp only [List.mapM_cons, Option.bind_eq_bind, Option.bind_eq_some_iff,
            Option.map_eq_some_iff, Option.pure_def, Option.some.injEq] at h
          obtain ⟨_, ⟨v, hv, rfl⟩, others, hothers, rfl⟩ := h
          rw [List.map_cons, ← ih hothers, Toml.Simple.document_of_ofDocument? hv]
  | null | bool | integer | float | string | array | unreadable => contradiction

/-- That the notation reads settings back is seen from what it writes and reads. -/
theorem readsBack_of_table? {s : Settings} {text : String} {entries : List (String × Toml.Simple)}
    (htext : s.text? = some text) (htable : (Toml.document? text).bind table? = some entries)
    (hperm : entries.Perm s.entries) : s.ReadsBack := by
  intro written hwritten
  obtain rfl := Option.some.inj (htext.symm.trans hwritten)
  obtain ⟨d, hd, hentries⟩ := Option.bind_eq_some_iff.mp htable
  exact ⟨_, hd.trans (congrArg some (eq_of_table? hentries)), hperm.map _⟩

/-- What is written for each of the keys. -/
def fields (s : Settings) : List (Option Toml.Simple) :=
  [s.model.map .string, s.draftModel.map .string, s.numSpeculativeTokens.map .size,
    s.servedModelName.map .string, s.dtype.map .string, s.maxModelLen.map .size,
    s.gpuMemoryUtilization.map fun x => .float x.toBinary64, s.tensorParallelSize.map .size,
    s.revision.map .string, s.registry.map .string, s.configSchemaDir.map .string,
    s.logLevel.map .string]

theorem entries_documents (s : Settings) :
    (s.entries.map fun entry => (entry.1, entry.2.document)) =
      written keys (s.fields.map fun field? => field?.map Toml.Simple.document) := by
  have hentries : s.entries =
      (keys.zip s.fields).filterMap fun field => field.2.map fun value => (field.1, value) := rfl
  rw [hentries, written, List.map_filterMap, List.zip_map_right, List.filterMap_map]
  congr 1
  funext field
  obtain ⟨name, field?⟩ := field
  cases field? <;> rfl

/-- A setting that is given is read unless it is null. -/
theorem withDefault?_of_ne_null {α : Type} (value? : Document → Option α) {d : Document}
    (h : d ≠ .null) :
    Document.withDefault? none (Document.optional? value?) (some d) = (value? d).map some := by
  cases d with
  | null => contradiction
  | bool | integer | float | string | array | object | unreadable => rfl

theorem text_of_document (text? : Option String) :
    Document.withDefault? none (Document.optional? Document.string?)
      ((text?.map Toml.Simple.string).map Toml.Simple.document) = some text? := by
  cases text? <;> rfl

theorem size?_toNat (n : UInt64) : Document.size? (.integer n.toNat) = some n := by
  have hbounds : (0 : Int) ≤ n.toNat ∧ (n.toNat : Int) < UInt64.size :=
    ⟨Int.natCast_nonneg _, Int.ofNat_lt.mpr n.toNat_lt_size⟩
  rw [Document.size?, if_pos hbounds, Int.toNat_natCast, UInt64.ofNat_toNat]

theorem size_of_document (size? : Option UInt64) :
    Document.withDefault? none (Document.optional? Document.size?)
      ((size?.map Toml.Simple.size).map Toml.Simple.document) = some size? := by
  cases size? with
  | none => rfl
  | some n =>
      rw [Option.map_some, Option.map_some, Toml.Simple.document,
        withDefault?_of_ne_null _ (by simp), size?_toNat, Option.map_some]

theorem utilization_of_document {utilization? : Option Binary32}
    (h : ∀ x, utilization? = some x → x.Plain) :
    Document.withDefault? none (Document.optional? Settings.utilization?)
      ((utilization?.map fun x => Toml.Simple.float x.toBinary64).map Toml.Simple.document) =
        some utilization? := by
  cases utilization? with
  | none => rfl
  | some x =>
      have hback := Binary32.toBinary32_toBinary64 (h x rfl)
      rw [Option.map_some, Option.map_some, Toml.Simple.document,
        withDefault?_of_ne_null _ (by simp), Settings.utilization?, hback, Option.map_some]

/-- Settings with a utilization that texts can write. -/
def Plain (s : Settings) : Prop := ∀ x, s.gpuMemoryUtilization = some x → x.Plain

/-- **Settings are read from the record of them.** -/
theorem ofDocument?_of_perm {s : Settings} (hplain : s.Plain)
    {members : List (String × Document)}
    (h : members.Perm (s.entries.map fun entry => (entry.1, entry.2.document))) :
    ofDocument? .toml (.object members) = some s := by
  rw [entries_documents] at h
  have hrecord : Document.record? .toml keys (.object members) = _ :=
    fieldsByName?_of_perm (by decide) rfl h
  unfold ofDocument?
  rw [hrecord, Option.bind_eq_bind, Option.bind_some]
  dsimp only [fields, List.map]
  rw [text_of_document, text_of_document, size_of_document, text_of_document, text_of_document,
    size_of_document, utilization_of_document hplain, size_of_document, text_of_document,
    text_of_document, text_of_document, text_of_document]
  rfl

/-! ## Utilizations -/

theorem plain_of_utilization? {d : Document} {x : Binary32} (h : utilization? d = some x) :
    x.Plain := by
  unfold utilization? at h
  split at h
  · obtain rfl := Option.some.inj h
    exact Binary32.plain_ofInt _
  · obtain rfl := Option.some.inj h
    exact Binary32.plain_toBinary32 _
  · contradiction

theorem plain_of_given {d? : Option Document} {x? : Option Binary32}
    (h : Document.withDefault? none (Document.optional? utilization?) d? = some x?)
    {x : Binary32} (hx : x? = some x) : x.Plain := by
  subst hx
  cases d? with
  | none => simp [Document.withDefault?] at h
  | some d =>
      by_cases hnull : d = .null
      · simp [hnull, Document.withDefault?, Document.optional?] at h
      · rw [withDefault?_of_ne_null _ hnull, Option.map_eq_some_iff] at h
        obtain ⟨y, hy, hxy⟩ := h
        obtain rfl := Option.some.inj hxy
        exact plain_of_utilization? hy

theorem plain_of_ofDocument? {n : Document.Notation} {d : Document} {s : Settings}
    (h : ofDocument? n d = some s) : s.Plain := by
  unfold ofDocument? at h
  obtain ⟨given, -, h⟩ := Option.bind_eq_some_iff.mp h
  split at h
  · dsimp only at h
    -- The utilization is the seventh of the settings that are read.
    iterate 6 obtain ⟨_, -, h⟩ := Option.bind_eq_some_iff.mp h
    obtain ⟨utilization, hutilization, h⟩ := Option.bind_eq_some_iff.mp h
    iterate 5 obtain ⟨_, -, h⟩ := Option.bind_eq_some_iff.mp h
    obtain rfl := Option.some.inj h
    exact fun x hx => plain_of_given hutilization hx
  · contradiction

theorem plain_merge {a b : Settings} (ha : a.Plain) (hb : b.Plain) : (a.merge b).Plain := by
  intro x hx
  have hget : (a.merge b).gpuMemoryUtilization =
      b.gpuMemoryUtilization.or a.gpuMemoryUtilization := rfl
  rw [hget, Option.or_eq_some_iff] at hx
  rcases hx with hx | ⟨-, hx⟩
  · exact hb x hx
  · exact ha x hx

/-! ## Saving and loading -/

variable {files files' : Files} {path : String} {s : Settings}

theorem plain_of_load (h : load files path = .ok s) : s.Plain := by
  unfold load at h
  split at h
  · contradiction
  · next text _ =>
      split at h
      · next read hread =>
          obtain rfl := Except.ok.inj h
          obtain ⟨d, -, hd⟩ := Option.bind_eq_some_iff.mp hread
          exact plain_of_ofDocument? hd
      · contradiction

/-- Settings that were saved stand in the file as their text. -/
theorem exists_text_of_save (h : s.save files path = .ok files') :
    ∃ text, s.text? = some text ∧ files'.read path = .ok text := by
  unfold save at h
  split at h
  · contradiction
  · next text htext =>
      split at h
      · next written hwritten =>
          obtain rfl := Except.ok.inj h
          exact ⟨text, htext, Files.read_write hwritten⟩
      · contradiction

/-- **Saved settings are loaded again**, from the file that was written. -/
theorem load_of_save (hplain : s.Plain) (hback : s.ReadsBack) (h : s.save files path = .ok files') :
    load files' path = .ok s := by
  obtain ⟨text, htext, hread⟩ := exists_text_of_save h
  obtain ⟨members, hdocument, hperm⟩ := hback text htext
  have hparse : parse? text = some s := by
    rw [parse?, hdocument]
    exact ofDocument?_of_perm hplain hperm
  simp only [load, hread, hparse]

end Settings

end ModelRegistry
