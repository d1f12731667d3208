import ModelRegistry.Program
import ModelRegistry.Proofs.CommandLine
import ModelRegistry.Proofs.Verification

/-!
# ModelRegistry.Proofs.Program

The settings of a run and of the runs after it. Defaults, the file of the user and the
flags are three sets of settings, and a launch runs with their merge, in this order
(`effective`): filling in the defaults first makes no difference to it
(`conclude_defaults_merge`). When the settings are saved, the file says from then on what
the file and the flags said together, and so a later launch without flags runs with the
same settings.
-/

namespace ModelRegistry

namespace Program

open CommandLine

variable {hub : Hub} {files files' later : Files} {configPath : Option String} {path : String}
  {args : List String} {i : Invocation} {s : Settings}

/-! ## Defaults -/

/-- A launch looks at no setting in which the defaults could be told. -/
theorem preflight_defaults_merge (hub : Hub) (files : Files) (s : Settings) :
    preflight hub files (Settings.defaults.merge s) = preflight hub files s := by
  have hmodel : (Settings.defaults.merge s).model = s.model := Option.or_none
  have hdraft : (Settings.defaults.merge s).draftModel = s.draftModel := Option.or_none
  have hregistry : (Settings.defaults.merge s).registry = s.registry := Option.or_none
  have hdirectory : (Settings.defaults.merge s).configSchemaDir = s.configSchemaDir :=
    Option.or_none
  have hrevision : (Settings.defaults.merge s).revision = s.revision := Option.or_none
  have hsources : sources (Settings.defaults.merge s) = sources s := by
    simp only [sources, hregistry, hdirectory, hrevision]
  simp only [preflight, requireModel, startService, s.launch_defaults_merge, hmodel, hdraft,
    hsources]

theorem conclude_defaults_merge (hub : Hub) (files : Files) (notices : List Notice)
    (s : Settings) :
    conclude hub files notices .preflight (Settings.defaults.merge s) =
      conclude hub files notices .preflight s := by
  simp only [conclude, execute, preflight_defaults_merge]

/-! ## What a run leaves -/

theorem files_conclude (hub : Hub) (files : Files) (notices : List Notice) (command : Command)
    (s : Settings) : (conclude hub files notices command s).files = files := by
  unfold conclude
  split
  · rfl
  · split <;> rfl

/-- A command says nothing of saving. -/
theorem saved_mem_notices_conclude {notices : List Notice} {command : Command} :
    .saved path ∈ (conclude hub files notices command s).notices ↔ .saved path ∈ notices := by
  unfold conclude
  split
  · rfl
  · split <;> simp

theorem saved_not_mem_userSettings (files : Files) (configPath : Option String) (path : String) :
    .saved path ∉ (userSettings files configPath).2 := by
  unfold userSettings
  split
  · simp
  · split <;> simp

/-- The settings that the user's file and the flags of a launch come to. -/
def kept (files : Files) (configPath : Option String) (i : Invocation) : Settings :=
  (userSettings files configPath).1.merge i.settings

/-- The settings with which a launch runs. -/
def effective (files : Files) (configPath : Option String) (i : Invocation) : Settings :=
  Settings.defaults.merge (kept files configPath i)

/-- Whatever else is loaded, the hub is asked for the revision of the sources. -/
theorem fetcher_of_setup {sources : Sources} {setup : Setup}
    (h : sources.setup hub files = .ok setup) :
    setup.fetcher = .files (sources.revision.getD "main") hub := by
  rw [Sources.setup] at h
  split at h
  · obtain ⟨declarations, -, hsetup⟩ := bind_eq_ok_iff.mp h
    exact Except.ok.inj hsetup ▸ rfl
  · obtain ⟨declarations, -, hsetup⟩ := bind_eq_ok_iff.mp h
    exact Except.ok.inj hsetup ▸ rfl

/-- The settings that a launch uses are those of the flags; where there is none, those of the file;
and where that says nothing, the ones that stand here. -/
structure Prevails (flags file s : Settings) : Prop where
  model : requireModel s = (flags.model.or file.model).elim (.error .noModel) .ok
  draftModel : s.draftModel = flags.draftModel.or file.draftModel
  servedModelName : s.launch.servedModelName = flags.servedModelName.or file.servedModelName
  dtype : s.launch.dtype = (flags.dtype.or file.dtype).getD "auto"
  maxModelLen : s.launch.maxModelLen = flags.maxModelLen.or file.maxModelLen
  gpuMemoryUtilization : s.launch.gpuMemoryUtilization =
    (flags.gpuMemoryUtilization.or file.gpuMemoryUtilization).getD (.ofRatio false 9 10)
  tensorParallelSize : s.launch.tensorParallelSize =
    (flags.tensorParallelSize.or file.tensorParallelSize).getD 1
  numSpeculativeTokens : s.launch.numSpeculativeTokens =
    (flags.numSpeculativeTokens.or file.numSpeculativeTokens).getD 3
  registry : (sources s).registry = flags.registry.or file.registry
  configSchemaDir : (sources s).configSchemaDir = flags.configSchemaDir.or file.configSchemaDir
  revision : ∀ hub files setup, (sources s).setup hub files = .ok setup →
    setup.fetcher = .files ((flags.revision.or file.revision).getD "main") hub
  logFilter : s.logFilter = (flags.logLevel.or file.logLevel).getD "info"

theorem prevails_effective (files : Files) (configPath : Option String) (i : Invocation) :
    Prevails i.settings (userSettings files configPath).1 (effective files configPath i) where
  model := by
    have hmodel : (effective files configPath i).model =
        i.settings.model.or (userSettings files configPath).1.model := Option.or_none
    rw [requireModel, hmodel]
    cases i.settings.model.or (userSettings files configPath).1.model <;> rfl
  draftModel := Option.or_none
  servedModelName := Option.or_none
  dtype := by
    rw [effective, Settings.launch_defaults_merge]
    rfl
  maxModelLen := Option.or_none
  gpuMemoryUtilization := by
    rw [effective, Settings.launch_defaults_merge]
    rfl
  tensorParallelSize := by
    rw [effective, Settings.launch_defaults_merge]
    rfl
  numSpeculativeTokens := by
    rw [effective, Settings.launch_defaults_merge]
    rfl
  registry := Option.or_none
  configSchemaDir := Option.or_none
  revision hub now setup h := by
    have hrevision : (sources (effective files configPath i)).revision = _ := Option.or_none
    rw [fetcher_of_setup h, hrevision]
    rfl
  logFilter := by
    rw [effective, Settings.logFilter_defaults_merge]
    rfl

/-- A launch that comes to its end has checked its settings, and writes a plan that is made with
them. -/
theorem exists_plan_of_preflight {output : String} (h : preflight hub files s = .ok output) :
    ∃ model service plan, requireModel s = .ok model ∧
      s.launch.validate s.draftModel.isSome = .ok () ∧ startService hub files s = .ok service ∧
      Program.plan files service s.launch model s.draftModel = .ok plan ∧
      output = plan.text ++ "\n" := by
  obtain ⟨model, hmodel, h⟩ := bind_eq_ok_iff.mp h
  split at h
  · cases h
  · next hvalid =>
    obtain ⟨service, hservice, h⟩ := bind_eq_ok_iff.mp h
    obtain ⟨plan, hplan, h⟩ := bind_eq_ok_iff.mp h
    exact ⟨model, service, plan, hmodel, hvalid, hservice, hplan, (Except.ok.inj h).symm⟩

theorem get_effective (files : Files) (configPath : Option String) (i : Invocation)
    (k : Setting) : (effective files configPath i).get k =
      ((i.settings.get k).or ((userSettings files configPath).1.get k)).or
        (Settings.defaults.get k) := by
  rw [effective, kept, Settings.get_merge, Settings.get_merge]

/-- A flag decides. -/
theorem get_effective_of_gives (h : parse ("preflight" :: args) = some (.invoke i))
    {k : Setting} {text : String} (hgives : Gives args k text) :
    ∃ v, k.read? text = some v ∧ i.settings.get k = some v ∧
      (effective files configPath i).get k = some v := by
  obtain ⟨-, v, hread, hv⟩ := (carries_of_parse h).2.given k text hgives
  refine ⟨v, hread, hv, ?_⟩
  rw [get_effective, hv, Option.some_or, Option.some_or]

/-- Where there is no flag, the file decides, and where it says nothing, the default. -/
theorem get_effective_of_not_gives (h : parse ("preflight" :: args) = some (.invoke i))
    {k : Setting} (hgives : ∀ text, ¬ Gives args k text) :
    i.settings.get k = none ∧ (effective files configPath i).get k =
      ((userSettings files configPath).1.get k).or (Settings.defaults.get k) := by
  have hopen : i.settings.get k = none :=
    ((carries_of_parse h).2.kept k hgives).trans (Settings.get_empty k)
  refine ⟨hopen, ?_⟩
  rw [get_effective, hopen, Option.none_or]

/-- A launch that does not save. -/
theorem run_of_not_save (h : parse ("preflight" :: args) = some (.invoke i))
    (hsave : i.save = false) :
    run hub files configPath ("preflight" :: args) =
      conclude hub files (userSettings files configPath).2 .preflight
        (effective files configPath i) := by
  obtain ⟨hcommand, -⟩ := carries_of_parse h
  simp only [run, h, hsave, hcommand, Bool.false_eq_true, if_false]
  exact (conclude_defaults_merge _ _ _ _).symm

/-- A launch that saves. -/
theorem run_of_save (h : parse ("preflight" :: args) = some (.invoke i)) (hsave : i.save = true)
    (hsaved : (kept files (some path) i).save files path = .ok files') :
    run hub files (some path) ("preflight" :: args) =
      conclude hub files' ((userSettings files (some path)).2 ++ [.saved path]) .preflight
        (effective files (some path) i) := by
  obtain ⟨hcommand, -⟩ := carries_of_parse h
  have hsettings : saveSettings files (some path) (kept files (some path) i) =
      .ok (files', path) := by
    simp only [saveSettings, hsaved]
  simp only [kept] at hsettings
  simp only [run, h, hsave, hcommand, if_true, hsettings]
  exact (conclude_defaults_merge _ _ _ _).symm

/-- Settings are saved by a launch that is asked to, and only then. -/
theorem exists_save_of_saved
    (h : .saved path ∈ (run hub files (some path) ("preflight" :: args)).notices) :
    ∃ i files', parse ("preflight" :: args) = some (.invoke i) ∧ i.save = true ∧
      (kept files (some path) i).save files path = .ok files' := by
  have hnone := saved_not_mem_userSettings files (some path) path
  cases hparse : parse ("preflight" :: args) with
  | none => simp [run, hparse, hnone] at h
  | some request =>
      cases request with
      | help => simp [run, hparse, hnone] at h
      | invoke i =>
          cases hsave : i.save with
          | false =>
              rw [run_of_not_save hparse hsave, saved_mem_notices_conclude] at h
              contradiction
          | true =>
              cases hsaved : (kept files (some path) i).save files path with
              | ok files' => exact ⟨i, files', rfl, hsave, hsaved⟩
              | error e =>
                  have hsettings : saveSettings files (some path)
                      ((userSettings files (some path)).1.merge i.settings) = .error .save := by
                    simp only [saveSettings]
                    rw [kept] at hsaved
                    rw [hsaved]
                  simp [run, hparse, hsave, hsettings, hnone] at h

/-! ## The next run -/

theorem plain_userSettings (files : Files) (configPath : Option String) :
    (userSettings files configPath).1.Plain := by
  unfold userSettings
  split
  · exact fun x hx => by simp [Settings.empty] at hx
  · next path =>
      cases hload : Settings.load files path with
      | error e => exact fun x hx => by simp [Settings.empty, Except.toOption] at hx
      | ok s => exact Settings.plain_of_load hload

theorem plain_kept (h : parse ("preflight" :: args) = some (.invoke i)) :
    (kept files configPath i).Plain :=
  Settings.plain_merge (plain_userSettings files configPath) (plain_of_parse h)

/-- The file of the user says the same in every file system in which it reads the same. -/
theorem userSettings_of_read (hload : Settings.load files path = .ok s)
    (hread : later.read path = files.read path) :
    userSettings later (some path) = (s, [.loaded path]) := by
  have hload' : Settings.load later path = .ok s := by
    rw [← hload, Settings.load, Settings.load, hread]
  have hthere : later.contains path = true := by
    unfold Files.contains
    cases hfind : later.find path with
    | ok t => rfl
    | error e =>
        have herror : later.read path = .error e := by simp only [Files.read, hfind]
        simp [Settings.load, herror] at hload'
  simp [userSettings, hload', hthere, Except.toOption]

/-- **What is saved is kept.** A launch without flags has the settings that were saved, if the
file still reads as it was written. -/
theorem effective_of_saved (h : parse ("preflight" :: args) = some (.invoke i))
    (hback : (kept files (some path) i).ReadsBack)
    (hsaved : (kept files (some path) i).save files path = .ok files')
    (hread : later.read path = files'.read path) :
    effective later (some path) ⟨.preflight, .empty, false⟩ = effective files (some path) i ∧
      run hub later (some path) ["preflight"] =
        conclude hub later [.loaded path] .preflight (effective files (some path) i) := by
  have hload := Settings.load_of_save (plain_kept h) hback hsaved
  have huser := userSettings_of_read hload hread
  have heffective : effective later (some path) ⟨.preflight, .empty, false⟩ =
      effective files (some path) i := by
    rw [effective, kept, huser, Settings.merge_empty, effective]
  have hbare : parse ["preflight"] = some (.invoke ⟨.preflight, .empty, false⟩) := rfl
  have hrun : run hub later (some path) ["preflight"] = _ := run_of_not_save hbare rfl
  rw [huser, heffective] at hrun
  exact ⟨heffective, hrun⟩

/-- Settings are a monoid in which the later says more than the earlier, setting by setting, and
the defaults are what settings stand for that are left open. A launch runs with the flags, or
else with what the file of the user says, or else with the defaults: these are the settings that it
checks and plans with. And where it saves its settings, later launches without flags run with the
same. -/
theorem settings_prevail_and_persist :
    (∀ a b c : Settings,
      Settings.empty.merge a = a ∧ a.merge .empty = a ∧
        (a.merge b).merge c = a.merge (b.merge c) ∧
        ∀ k, (a.merge b).get k = (b.get k).or (a.get k)) ∧
    (∀ s : Settings, (Settings.defaults.merge s).launch = s.launch ∧
      (Settings.defaults.merge s).logFilter = s.logFilter) ∧
    (∀ files configPath args i, parse ("preflight" :: args) = some (.invoke i) →
      (∀ k text, Gives args k text → ∃ v, k.read? text = some v ∧
        i.settings.get k = some v ∧ (effective files configPath i).get k = some v) ∧
      (∀ k, (∀ text, ¬ Gives args k text) →
        i.settings.get k = none ∧ (effective files configPath i).get k =
          ((userSettings files configPath).1.get k).or (Settings.defaults.get k)) ∧
      Prevails i.settings (userSettings files configPath).1 (effective files configPath i) ∧
      ∀ hub, i.save = false → run hub files configPath ("preflight" :: args) =
        conclude hub files (userSettings files configPath).2 .preflight
          (effective files configPath i)) ∧
    (∀ hub files s output, execute hub files s .preflight = .ok output →
      ∃ model service plan, requireModel s = .ok model ∧
        s.launch.validate s.draftModel.isSome = .ok () ∧
        startService hub files s = .ok service ∧
        Program.plan files service s.launch model s.draftModel = .ok plan ∧
        output = plan.text ++ "\n") ∧
    ∀ hub files path args first, run hub files (some path) ("preflight" :: args) = first →
      .saved path ∈ first.notices →
      ∃ i, parse ("preflight" :: args) = some (.invoke i) ∧
        first = conclude hub first.files ((userSettings files (some path)).2 ++ [.saved path])
          .preflight (effective files (some path) i) ∧
        ((kept files (some path) i).ReadsBack →
          ∀ (later : Files) (hub' : Hub), later.read path = first.files.read path →
            effective later (some path) ⟨.preflight, .empty, false⟩ =
              effective files (some path) i ∧
            run hub' later (some path) ["preflight"] =
              conclude hub' later [.loaded path] .preflight (effective files (some path) i)) := by
  refine ⟨?monoid, ?defaults, ?precedence, ?plan, ?persistence⟩
  case monoid =>
    exact fun a b c => ⟨a.empty_merge, a.merge_empty, a.merge_assoc b c, a.get_merge b⟩
  case defaults => exact fun s => ⟨s.launch_defaults_merge, s.logFilter_defaults_merge⟩
  case precedence =>
    intro files configPath args i h
    exact ⟨fun k text => get_effective_of_gives h, fun k => get_effective_of_not_gives h,
      prevails_effective files configPath i, fun hub => run_of_not_save h⟩
  case plan => exact fun hub files s output => exists_plan_of_preflight
  case persistence =>
    intro hub files path args first hfirst hnotice
    rw [← hfirst] at hnotice
    obtain ⟨i, files', hparse, hsave, hsaved⟩ := exists_save_of_saved hnotice
    have hrun : run hub files (some path) ("preflight" :: args) = _ :=
      run_of_save hparse hsave hsaved
    have hfiles : first.files = files' := by
      rw [← hfirst, hrun, files_conclude]
    rw [hfiles]
    exact ⟨i, hparse, hfirst.symm.trans hrun,
      fun hback later hub' hread => effective_of_saved hparse hback hsaved hread⟩

/-! ## Settings asked for and kept -/

/-- The flags of a launch that asks for two settings and saves them. -/
def asking : List String := ["--model", "llama", "--max-model-len=4096", "--save-config"]

/-- What they ask for. -/
def asked : Settings := { Settings.empty with model := some "llama", maxModelLen := some 4096 }

/-- Where it is saved. -/
def askedPath : String := "home/archreg-server/config.toml"

theorem parse_asking : parse ("preflight" :: asking) = some (.invoke ⟨.preflight, asked, true⟩) := by
  decide +kernel

theorem readsBack_asked : asked.ReadsBack := by
  have htext : asked.text? = some "model = \"llama\"\nmax_model_len = 4096\n" := by
    decide +kernel
  have htable : (Toml.document? "model = \"llama\"\nmax_model_len = 4096\n").bind
      Settings.table? = some [("max_model_len", .size 4096), ("model", .string "llama")] := by
    decide +kernel
  exact Settings.readsBack_of_table? htext htable (List.Perm.swap _ _ [])

theorem kept_asked : kept .empty (some askedPath) ⟨.preflight, asked, true⟩ = asked :=
  Settings.empty_merge asked

/-- The run that asks for them. -/
def askingRun : Outcome := run .unreachable .empty (some askedPath) ("preflight" :: asking)

theorem saved_asking : .saved askedPath ∈ askingRun.notices := by
  have hsave : (asked.save .empty askedPath).isOk = true := by decide +kernel
  cases hsaved : asked.save .empty askedPath with
  | error e => simp [hsaved, Except.isOk, Except.toBool] at hsave
  | ok files' =>
      rw [← kept_asked] at hsaved
      rw [askingRun, run_of_save parse_asking rfl hsaved, saved_mem_notices_conclude]
      simp

/-- A length that was asked for once is the length of the next launch too, and what was not asked
for is as it is by default. -/
theorem asked_settings_return :
    .saved askedPath ∈ askingRun.notices ∧ asked.ReadsBack ∧
    (effective .empty (some askedPath) ⟨.preflight, asked, true⟩).get .maxModelLen =
      some (4096 : UInt64) ∧
    (effective .empty (some askedPath) ⟨.preflight, asked, true⟩).get .dtype = some "auto" ∧
    (effective .empty (some askedPath) ⟨.preflight, asked, true⟩).launch.maxModelLen =
      some 4096 ∧
    run .unreachable askingRun.files (some askedPath) ["preflight"] =
      conclude .unreachable askingRun.files [.loaded askedPath] .preflight
        (Settings.defaults.merge asked) := by
  obtain ⟨-, -, hprecedence, -, hpersistence⟩ := settings_prevail_and_persist
  obtain ⟨hgiven, hopen, hprevails, -⟩ :=
    hprecedence .empty (some askedPath) asking _ parse_asking
  obtain ⟨i, hparse, -, hlater⟩ := hpersistence .unreachable _ _ _ _ rfl saved_asking
  obtain rfl : i = ⟨.preflight, asked, true⟩ := by simpa using hparse.symm.trans parse_asking
  have hdtype : ∀ text, ¬ Gives asking .dtype text := by
    intro text hgives
    obtain ⟨-, v, -, hv⟩ := (carries_of_parse parse_asking).2.given _ _ hgives
    exact absurd hv (by simp [asked, Settings.get, Settings.empty])
  refine ⟨saved_asking, readsBack_asked, ?_, (hopen .dtype hdtype).2, hprevails.maxModelLen, ?_⟩
  · obtain ⟨v, hread, -, hv⟩ := hgiven .maxModelLen "4096" (.inl (by decide))
    have hsize : size? "4096" = some 4096 := by decide +kernel
    exact hv.trans (hread.symm.trans hsize)
  · have hsame := (hlater (kept_asked.symm ▸ readsBack_asked) _ .unreachable rfl).2
    rw [effective, kept_asked] at hsame
    exact hsame

end Program

end ModelRegistry
