import ModelRegistry.Config.Selection

/-!
# ModelRegistry.Proofs.Config.Selection

What a source of classes keeps saying, and what the choice among the tiers makes
of it.

A schema directory remembers the classes that it has handed out and nothing else.
What it says about an architecture is therefore `Settled` once it has answered a
class, whatever becomes of its files; and as long as none of the file trees at
hand holds a class, the absence of one is settled as well. Where the answers are
`Fixed`, which means that the file trees do not change them, one look-up is thus
enough to settle an architecture.
-/

namespace ModelRegistry

/-! ## Schema directories -/

namespace SchemaDirectory

/-- Two states of a directory agree on an architecture: they read the same file for it, and
remember the same about it. -/
structure SameAt (id : String) (d e : SchemaDirectory) : Prop where
  path : e.path = d.path
  cached : e.cache.lookup id = d.cache.lookup id

/-- The directory has no class for the architecture but the one that it remembers. -/
def NothingNew (trees : Files → Prop) (id : String) (d : SchemaDirectory) : Prop :=
  ∀ files, trees files → ∀ c, d.answer files id = .ok (some c) → d.cache.lookup id = some c

variable {trees : Files → Prop} {files : Files} {id : String} {d e : SchemaDirectory}

theorem answer_of_not_isWord (h : Text.isWord id.toList = false) :
    d.answer files id = .ok none := by
  rw [answer, h]
  rfl

theorem isWord_of_answer {c : Shared ConfigClass} (h : d.answer files id = .ok (some c)) :
    Text.isWord id.toList = true := by
  by_cases hword : Text.isWord id.toList
  · exact hword
  · rw [answer_of_not_isWord (by simpa using hword)] at h
    simp at h

theorem answer_of_cached {c : Shared ConfigClass} (hword : Text.isWord id.toList = true)
    (h : d.cache.lookup id = some c) : d.answer files id = .ok (some c) := by
  rw [answer, hword, h]
  rfl

theorem answer_of_uncached (hword : Text.isWord id.toList = true)
    (h : d.cache.lookup id = none) :
    d.answer files id = (d.load files id).map (Option.map (Shared.mk d.loaded)) := by
  rw [answer, hword, h]
  cases d.load files id with
  | error fault => rfl
  | ok c =>
      cases c with
      | none => rfl
      | some c => rfl

/-- A directory that remembers no class for a word answers what it loads, with the next number. -/
theorem answer_eq_some_iff_of_uncached {c : Shared ConfigClass}
    (hword : Text.isWord id.toList = true) (h : d.cache.lookup id = none) :
    d.answer files id = .ok (some c) ↔
      d.load files id = .ok (some c.value) ∧ c.serial = d.loaded := by
  obtain ⟨serial, value⟩ := c
  rw [answer_of_uncached hword h]
  cases d.load files id with
  | error fault => simp [Except.map]
  | ok loaded =>
      cases loaded with
      | none => simp [Except.map]
      | some k => simp [Except.map, eq_comm, and_comm]

theorem load_eq_of_path (h : e.path = d.path) : e.load files id = d.load files id := by
  rw [load, load, filePath, filePath, h]

theorem path_afterLookup : (d.afterLookup files id).path = d.path := by
  rw [afterLookup]
  split <;> rfl

theorem afterLookup_of_new {c : Shared ConfigClass} (hnew : d.cache.lookup id = none)
    (h : d.answer files id = .ok (some c)) :
    d.afterLookup files id =
      { d with cache := d.cache.put id c, loaded := d.loaded + 1 } := by
  rw [afterLookup, hnew, h]

/-- A look-up changes nothing unless it brings a class that was not remembered. -/
theorem afterLookup_eq_self
    (h : ∀ c, d.answer files id = .ok (some c) → d.cache.lookup id = some c) :
    d.afterLookup files id = d := by
  rw [afterLookup]
  split
  · next c hnew hanswer =>
      have := h c hanswer
      simp_all
  · rfl

/-- A look-up brings at most one class, and that under the architecture looked up. -/
theorem cached_afterLookup_of_ne {other : String} (hne : other ≠ id) :
    (d.afterLookup files id).cache.lookup other = d.cache.lookup other := by
  rw [afterLookup]
  split
  · rw [Table.lookup_put, if_neg hne]
  · rfl

/-- What was remembered stays. -/
theorem cached_afterLookup {other : String} {c : Shared ConfigClass}
    (h : d.cache.lookup other = some c) :
    (d.afterLookup files id).cache.lookup other = some c := by
  by_cases hid : other = id
  · subst hid
    rw [afterLookup_eq_self, h]
    intro c' hc'
    rw [answer_of_cached (isWord_of_answer hc') h] at hc'
    rw [h, Except.ok.inj hc']
  · rw [cached_afterLookup_of_ne hid, h]

/-- A class that was answered is remembered. -/
theorem cached_of_answer {c : Shared ConfigClass} (h : d.answer files id = .ok (some c)) :
    (d.afterLookup files id).cache.lookup id = some c := by
  cases hcached : d.cache.lookup id with
  | none => rw [afterLookup_of_new hcached h, Table.lookup_put, if_pos rfl]
  | some c' =>
      rw [answer_of_cached (isWord_of_answer h) hcached] at h
      rw [cached_afterLookup hcached]
      exact Except.ok.inj h

/-! ### What is settled -/

theorem SameAt.trans {k : SchemaDirectory} (h : SameAt id d e) (h' : SameAt id e k) :
    SameAt id d k :=
  ⟨h'.path.trans h.path, h'.cached.trans h.cached⟩

theorem NothingNew.sameAt (h : NothingNew trees id d) (hfiles : trees files) (other : String) :
    SameAt id d (d.afterLookup files other) := by
  refine ⟨path_afterLookup, ?_⟩
  by_cases hid : id = other
  · subst hid
    rw [afterLookup_eq_self (h files hfiles)]
  · rw [cached_afterLookup_of_ne hid]

/-- Directories that agree on an architecture answer alike, but for the serial number of a class
that is not remembered yet. -/
theorem SameAt.answer_eq (h : SameAt id d e)
    (hnew : ∀ c, d.answer files id = .ok (some c) → d.cache.lookup id = some c) :
    e.answer files id = d.answer files id := by
  by_cases hword : Text.isWord id.toList
  · cases hcached : d.cache.lookup id with
    | some c => rw [answer_of_cached hword hcached, answer_of_cached hword (h.cached.trans hcached)]
    | none =>
        rw [answer_of_uncached hword (h.cached.trans hcached), load_eq_of_path h.path]
        rw [answer_of_uncached hword hcached] at hnew ⊢
        cases hload : d.load files id with
        | error fault => rfl
        | ok c =>
            cases c with
            | none => rfl
            | some c =>
                rw [hload, hcached] at hnew
                simpa using hnew ⟨d.loaded, c⟩ rfl
  · have hword : Text.isWord id.toList = false := by simpa using hword
    rw [answer_of_not_isWord hword, answer_of_not_isWord hword]

theorem NothingNew.of_sameAt (h : NothingNew trees id d) (hsame : SameAt id d e) :
    NothingNew trees id e := by
  intro files hfiles c hc
  rw [hsame.answer_eq (h files hfiles)] at hc
  rw [hsame.cached, h files hfiles c hc]

/-- A serial number hides nothing of what it is given to. -/
theorem eq_of_map_shared {serial : Nat} {x y : SourceAnswer ConfigClass}
    (h : x.map (Option.map (Shared.mk serial)) = y.map (Option.map (Shared.mk serial))) :
    x = y := by
  have hinj : ∀ c k : ConfigClass, Shared.mk serial c = Shared.mk serial k → c = k :=
    fun c k hshared => congrArg Shared.value hshared
  cases x with
  | error e => cases y <;> simp_all [Except.map]
  | ok c =>
      cases y with
      | error e => simp [Except.map] at h
      | ok k =>
          have hmap : c.map (Shared.mk serial) = k.map (Shared.mk serial) := Except.ok.inj h
          rw [(Option.map_inj_right hinj).mp hmap]

/-- What a directory loads shows in what it answers. -/
theorem load_eq_of_answer_eq {files' : Files} (hword : Text.isWord id.toList = true)
    (hnew : d.cache.lookup id = none) (h : d.answer files id = d.answer files' id) :
    d.load files id = d.load files' id := by
  rw [answer_of_uncached hword hnew, answer_of_uncached hword hnew] at h
  exact eq_of_map_shared h

/-- Two file trees that a directory does not tell apart stay so after a look-up. -/
theorem answer_eq_afterLookup {files' : Files} (asked : Files) (other : String)
    (h : d.answer files id = d.answer files' id) :
    (d.afterLookup asked other).answer files id =
      (d.afterLookup asked other).answer files' id := by
  by_cases hword : Text.isWord id.toList
  · cases hcached : (d.afterLookup asked other).cache.lookup id with
    | some c => rw [answer_of_cached hword hcached, answer_of_cached hword hcached]
    | none =>
        have hnew : d.cache.lookup id = none := by
          cases hbefore : d.cache.lookup id with
          | none => rfl
          | some c => rw [cached_afterLookup hbefore] at hcached; cases hcached
        rw [answer_of_uncached hword hcached, answer_of_uncached hword hcached,
          load_eq_of_path path_afterLookup, load_eq_of_path path_afterLookup,
          load_eq_of_answer_eq hword hnew h]
  · have hword : Text.isWord id.toList = false := by simpa using hword
    rw [answer_of_not_isWord hword, answer_of_not_isWord hword]

end SchemaDirectory

/-! ## Sources -/

namespace ClassSource

/-- None of these file trees changes what the source answers. -/
def Fixed (trees : Files → Prop) (s : ClassSource) : Prop :=
  ∀ files files', trees files → trees files' → ∀ id, s.answer files id = s.answer files' id

/-- The source after look-ups in several file trees. -/
def afterLookups (s : ClassSource) (asked : List (Files × String)) : ClassSource :=
  asked.foldl (fun s look => s.afterLookup look.1 look.2) s

/-- Whatever is looked up from now on, the source gives this answer for the architecture. -/
def Settled (trees : Files → Prop) (id : String) (x : SourceAnswer (Shared ConfigClass))
    (s : ClassSource) : Prop :=
  ∀ asked : List (Files × String), (∀ look ∈ asked, trees look.1) →
    ∀ files, trees files → (s.afterLookups asked).answer files id = x

variable {trees : Files → Prop} {files : Files} {id : String} {s : ClassSource}
  {x : SourceAnswer (Shared ConfigClass)}

theorem Settled.answer_eq (h : Settled trees id x s) (hfiles : trees files) :
    s.answer files id = x :=
  h [] (by simp) files hfiles

theorem Settled.afterLookup (h : Settled trees id x s) (hfiles : trees files) (other : String) :
    Settled trees id x (s.afterLookup files other) := by
  intro asked hasked
  exact h ((files, other) :: asked) (by simpa [hfiles] using hasked)

theorem afterLookups_append (asked more : List (Files × String)) :
    s.afterLookups (asked ++ more) = (s.afterLookups asked).afterLookups more := by
  rw [afterLookups, List.foldl_append]
  rfl

theorem Settled.afterLookups (h : Settled trees id x s) {asked : List (Files × String)}
    (hasked : ∀ look ∈ asked, trees look.1) : Settled trees id x (s.afterLookups asked) := by
  intro more hmore
  rw [← afterLookups_append]
  exact h (asked ++ more) (List.forall_mem_append.mpr ⟨hasked, hmore⟩)

/-- What every look-up keeps, any number of them keep. -/
theorem kept_afterLookups (kept : ClassSource → Prop) (h : kept s)
    (hstep : ∀ s files other, trees files → kept s → kept (s.afterLookup files other))
    {asked : List (Files × String)} (hasked : ∀ look ∈ asked, trees look.1) :
    kept (s.afterLookups asked) := by
  induction asked generalizing s with
  | nil => exact h
  | cons look rest ih =>
      rw [List.forall_mem_cons] at hasked
      exact ih (hstep s look.1 look.2 hasked.1 h) hasked.2

/-- An answer is settled by whatever every look-up keeps and the answer follows from. -/
theorem settled_of_kept (kept : ClassSource → Prop) (h : kept s)
    (hstep : ∀ s files other, trees files → kept s → kept (s.afterLookup files other))
    (hanswer : ∀ s files, trees files → kept s → s.answer files id = x) :
    Settled trees id x s :=
  fun _ hasked files hfiles => hanswer _ files hfiles (kept_afterLookups kept h hstep hasked)

/-- A class that was answered once stays the answer, whatever the file trees. -/
theorem settled_of_class {c : Shared ConfigClass} (h : s.answer files id = .ok (some c)) :
    Settled trees id (.ok (some c)) (s.afterLookup files id) := by
  cases s with
  | static s =>
      refine settled_of_kept (fun t => t = .static s) rfl ?_ ?_
      · intro t files other _ ht
        rw [ht, ClassSource.afterLookup]
      · intro t files _ ht
        rw [ht]
        exact h
  | directory d =>
      have hword : Text.isWord id.toList = true := SchemaDirectory.isWord_of_answer h
      refine settled_of_kept
        (fun t => ∃ e : SchemaDirectory, t = .directory e ∧ e.cache.lookup id = some c)
        ⟨_, rfl, SchemaDirectory.cached_of_answer h⟩ ?_ ?_
      · intro t files other _ ht
        obtain ⟨e, rfl, he⟩ := ht
        exact ⟨_, rfl, SchemaDirectory.cached_afterLookup he⟩
      · intro t files _ ht
        obtain ⟨e, rfl, he⟩ := ht
        exact SchemaDirectory.answer_of_cached hword he

/-- That there is no class, or that the source fails, stays the answer if no file tree says
otherwise. -/
theorem settled_of_no_class (h : ∀ files, trees files → s.answer files id = x)
    (hx : ∀ c, x ≠ .ok (some c)) : Settled trees id x s := by
  cases s with
  | static s =>
      refine settled_of_kept (fun t => t = .static s) rfl ?_ ?_
      · intro t files other _ ht
        rw [ht, ClassSource.afterLookup]
      · intro t files hfiles ht
        rw [ht]
        exact h files hfiles
  | directory d =>
      have hnothing : d.NothingNew trees id :=
        fun files hfiles c hc => absurd ((h files hfiles).symm.trans hc) (hx c)
      refine settled_of_kept
        (fun t => ∃ e : SchemaDirectory, t = .directory e ∧ d.SameAt id e)
        ⟨d, rfl, rfl, rfl⟩ ?_ ?_
      · intro t files other hfiles ht
        obtain ⟨e, rfl, hsame⟩ := ht
        exact ⟨_, rfl, hsame.trans ((hnothing.of_sameAt hsame).sameAt hfiles other)⟩
      · intro t files hfiles ht
        obtain ⟨e, rfl, hsame⟩ := ht
        exact (hsame.answer_eq (hnothing files hfiles)).trans (h files hfiles)

theorem fixed_static (source : StaticSource) : Fixed trees (.static source) :=
  fun _ _ _ _ _ => rfl

theorem Fixed.afterLookup (h : Fixed trees s) (asked : Files) (other : String) :
    Fixed trees (s.afterLookup asked other) := by
  intro files files' hfiles hfiles' id
  have hsame := h files files' hfiles hfiles' id
  cases s with
  | static s => exact hsame
  | directory d => exact SchemaDirectory.answer_eq_afterLookup asked other hsame

/-- **One look-up settles an architecture** of a source with fixed answers. -/
theorem Fixed.settled (h : Fixed trees s) (hfiles : trees files) (id : String) :
    Settled trees id (s.answer files id) (s.afterLookup files id) := by
  by_cases hclass : ∃ c, s.answer files id = .ok (some c)
  · obtain ⟨c, hc⟩ := hclass
    rw [hc]
    exact settled_of_class hc
  · have hsettled : Settled trees id (s.answer files id) s :=
      settled_of_no_class (fun files' hfiles' => h files' files hfiles' hfiles id)
        (fun c hc => hclass ⟨c, hc⟩)
    exact hsettled.afterLookup hfiles id

end ClassSource

/-! ## The choice among the tiers -/

namespace ClassMapping

variable {mapping : ClassMapping} {source other : String → SourceAnswer (Shared ConfigClass)}
  {architecture : String}

theorem contains_of_get?_eq_none (h : mapping.get? architecture = none) :
    mapping.contains architecture = false := by
  rw [contains, h]
  rfl

/-- An architecture that is mapped is chosen for without a look into the source. -/
theorem select_of_get? {c : Shared ConfigClass} (h : mapping.get? architecture = some c)
    (modelType : Option String) :
    mapping.select source architecture modelType = ⟨some (.explicitMapping, c), []⟩ := by
  rw [select, h]

/-- Only what the source answers for the architecture counts, and only if it is not mapped. -/
theorem select_congr (h : mapping.contains architecture = false →
      source architecture = other architecture) (modelType : Option String) :
    mapping.select source architecture modelType = mapping.select other architecture modelType := by
  cases hget : mapping.get? architecture with
  | some c => rw [select_of_get? hget, select_of_get? hget]
  | none => rw [select, select, h (contains_of_get?_eq_none hget)]

/-- A second model type changes nothing where a tier decides with the first or without any. -/
theorem select_or {declared : Option String} {pick : Strategy × Shared ConfigClass}
    (h : (mapping.select source architecture declared).chosen = some pick)
    (modelType : Option String) :
    mapping.select source architecture (declared.or modelType) =
      mapping.select source architecture declared := by
  cases declared with
  | some declared => rfl
  | none =>
      cases hget : mapping.get? architecture with
      | some c => rw [select_of_get? hget, select_of_get? hget]
      | none =>
          rw [select, hget] at h
          rw [select, select, hget]
          -- Without a model type only the source can have decided.
          cases hsource : source architecture with
          | error e => simp [hsource, Selection.ofModelType] at h
          | ok c =>
              cases c with
              | some c => rfl
              | none => simp [hsource, Selection.ofModelType] at h

/-- The last tier is asked alike, whatever was asked before it. -/
theorem chosen_ofModelType_eq_some_iff {modelType : Option String} {before : List Attempt}
    {strategy : Strategy} {c : Shared ConfigClass} :
    (Selection.ofModelType mapping modelType before).chosen = some (strategy, c) ↔
      strategy = .modelTypeAlias ∧ ∃ m, modelType = some m ∧ mapping.alias? m = some c := by
  cases modelType with
  | none => simp [Selection.ofModelType]
  | some m =>
      cases hm : mapping.alias? m with
      | none => simp [Selection.ofModelType, hm]
      | some k => simp [Selection.ofModelType, hm, eq_comm]

/-- Which tier decides, and with which class. -/
theorem chosen_eq_some_iff {modelType : Option String} {strategy : Strategy}
    {c : Shared ConfigClass} :
    (mapping.select source architecture modelType).chosen = some (strategy, c) ↔
      (strategy = .explicitMapping ∧ mapping.get? architecture = some c) ∨
      (strategy = .autoDetect ∧ mapping.get? architecture = none ∧
        source architecture = .ok (some c)) ∨
      (strategy = .modelTypeAlias ∧ mapping.get? architecture = none ∧
        (∀ k, source architecture ≠ .ok (some k)) ∧
        ∃ m, modelType = some m ∧ mapping.alias? m = some c) := by
  rw [select]
  cases hget : mapping.get? architecture with
  | some k => simp [eq_comm]
  | none =>
      cases hsource : source architecture with
      | error e => simp [chosen_ofModelType_eq_some_iff]
      | ok answer =>
          cases answer with
          | none => simp [chosen_ofModelType_eq_some_iff]
          | some k => simp [eq_comm]

/-- The last tier decides if the others have no class. -/
theorem chosen_eq_modelTypeAlias_iff {modelType : Option String} {c : Shared ConfigClass} :
    (mapping.select source architecture modelType).chosen = some (.modelTypeAlias, c) ↔
      mapping.get? architecture = none ∧ (∀ k, source architecture ≠ .ok (some k)) ∧
        ∃ m, modelType = some m ∧ mapping.alias? m = some c := by
  simp [chosen_eq_some_iff]

end ClassMapping

end ModelRegistry
