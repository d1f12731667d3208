import ModelRegistry.Proofs.Config.Selection
import ModelRegistry.Proofs.Files
import ModelRegistry.Proofs.Text

/-!
# ModelRegistry.Proofs.Config.Confinement

What an architecture can reach in the file tree. Architectures come from checkpoints,
and a schema directory makes paths of them; still a look-up depends on nothing but
the entry of the directory that is named after the architecture, and one that is no
word reaches nothing at all.
-/

namespace ModelRegistry

namespace SchemaDirectory

variable {d : SchemaDirectory} {files files' : Files} {id : String}

/-- The file of a word is a single step down from the directory. -/
theorem plain_of_word (h : Text.Word id) : Path.Plain (id ++ ".json") := by
  have hslash : ¬ Text.WordChar '/' := by decide
  have hdot : ¬ Text.WordChar '.' := by decide
  have hfirst : ∀ other : String, id ++ ".json" = other → other.toList.head? ≠ some '.' := by
    rintro other rfl hhead
    cases hchars : id.toList with
    | nil => exact h.1 (String.toList_eq_nil_iff.mp hchars)
    | cons c cs =>
        have hc : Text.WordChar c := h.2 c (by rw [hchars]; exact List.mem_cons_self)
        obtain rfl : c = '.' := by simpa [hchars] using hhead
        exact hdot hc
  refine ⟨by simp, ?_, fun hname => hfirst _ hname rfl, fun hname => hfirst _ hname rfl⟩
  rw [String.toList_append, List.mem_append, not_or]
  exact ⟨fun hmem => hslash (h.2 _ hmem), by decide⟩

/-- What is loaded for a word is a matter of one entry of the directory. -/
theorem load_congr (hword : Text.Word id)
    (h : files.entryAt? d.path (id ++ ".json") = files'.entryAt? d.path (id ++ ".json")) :
    d.load files id = d.load files' id := by
  have hplain := plain_of_word hword
  have hfind : (files.find (d.filePath id)).toOption = (files'.find (d.filePath id)).toOption := by
    rw [filePath, Files.find_join hplain, Files.find_join hplain, h]
  rw [load, load]
  simp only [← Files.isFile_congr hfind]
  cases hfile : files.isFile (d.filePath id) with
  | false => rfl
  | true => rw [Files.read_congr hfind hfile]

/-- Directories that remember the same tell two file trees apart by that entry alone. -/
theorem answer_congr
    (h : files.entryAt? d.path (id ++ ".json") = files'.entryAt? d.path (id ++ ".json")) :
    d.answer files id = d.answer files' id := by
  cases hword : Text.isWord id.toList with
  | false => rw [answer_of_not_isWord hword, answer_of_not_isWord hword]
  | true =>
      cases hcached : d.cache.lookup id with
      | some c => rw [answer_of_cached hword hcached, answer_of_cached hword hcached]
      | none =>
          rw [answer_of_uncached hword hcached, answer_of_uncached hword hcached,
            load_congr (Text.isWord_toList_iff.mp hword) h]

/-- Where nothing is looked up nothing is remembered either. -/
theorem afterLookup_of_not_word (h : ¬ Text.Word id) : d.afterLookup files id = d := by
  refine afterLookup_eq_self ?_
  intro c hc
  exact absurd (Text.isWord_toList_iff.mp (isWord_of_answer hc)) h

/-! ## Main theorem -/

/-- **An architecture reaches its own schema file and no other**: two file trees with the same entry
for it in the schema directory, or both without one, give the same answer, whatever else there is in
them; and one that is empty or has another character than letters, digits and underscores of ASCII
leads to the same choice of a class as if the source had none, and leaves the directory as it
was. -/
theorem ids_reach_only_their_file :
    (∀ (d : SchemaDirectory) (files files' : Files) (id : String),
      files.entryAt? d.path (id ++ ".json") = files'.entryAt? d.path (id ++ ".json") →
      d.answer files id = d.answer files' id) ∧
    ∀ (d : SchemaDirectory) (files : Files) (id : String),
      (id = "" ∨ ∃ c ∈ id.toList, ¬ Text.WordChar c) →
      (∀ (mapping : ClassMapping) (modelType : Option String),
        mapping.select (d.answer files) id modelType =
          mapping.select (ClassSource.empty.answer files) id modelType) ∧
      d.afterLookup files id = d := by
  refine ⟨fun d files files' id h => answer_congr h, ?_⟩
  intro d files id hid
  have hword : ¬ Text.Word id := Text.not_word_iff.mpr hid
  refine ⟨?_, afterLookup_of_not_word hword⟩
  intro mapping modelType
  refine ClassMapping.select_congr (fun _ => ?_) modelType
  have hnot : Text.isWord id.toList = false := by
    rw [Bool.eq_false_iff, ne_eq, Text.isWord_toList_iff]
    exact hword
  exact answer_of_not_isWord hnot

/-- A schema directory with one schema file. -/
def schemas : FileTree :=
  .directory [("A.json", .file "\x7b\"name\": \"AConfig\"\x7d".toUTF8)]

/-- The schema directory beside a file of a class that nobody may reach. -/
def withSecret : Files :=
  ⟨.directory [("schemas", schemas), ("secret.json", .file "\x7b\"name\": \"S\"\x7d".toUTF8)], []⟩

/-- The schema directory alone, seen from inside an empty one beside it. -/
def withoutSecret : Files :=
  ⟨.directory [("schemas", schemas), ("home", .directory [])], ["home"]⟩

theorem secret_is_out_of_reach :
    let d := SchemaDirectory.atPath "/schemas"
    let mapping := ClassMapping.ofList [("Other", .empty "OtherConfig")]
    withSecret.entryAt? d.path "A.json" = withoutSecret.entryAt? d.path "A.json" ∧
      d.answer withSecret "A" = d.answer withoutSecret "A" ∧
      (d.answer withSecret "A").toOption.bind (Option.map (·.value.name)) = some "AConfig" ∧
      withSecret.isFile (d.filePath "../secret") = true ∧
      mapping.select (d.answer withSecret) "../secret" none =
        mapping.select (ClassSource.empty.answer withSecret) "../secret" none ∧
      d.afterLookup withSecret "../secret" = d := by
  intro d mapping
  obtain ⟨hreach, hnothing⟩ := ids_reach_only_their_file
  have hentry : withSecret.entryAt? "/schemas" "A.json" =
      withoutSecret.entryAt? "/schemas" "A.json" :=
    rfl
  obtain ⟨hselect, hkept⟩ := hnothing d withSecret "../secret"
    (.inr ⟨'.', by decide, by decide⟩)
  exact ⟨hentry, hreach d _ _ "A" hentry, by decide +kernel, by decide +kernel,
    hselect mapping none, hkept⟩

end SchemaDirectory

end ModelRegistry
