import ModelRegistry.Files

/-!
# ModelRegistry.Proofs.Files

What stands at a path inside a directory. If a name is `Plain`, which is to say that
it is a single step of a path and leads down, then the path of that name inside a
directory leads to the entry of the directory under this name, and nowhere else
(`find_join`). All that can be read at such a path is therefore a matter of this one
entry (`isFile_congr`, `read_congr`).
-/

namespace ModelRegistry

/-- What stands in a directory under a name; a file has nothing in it. -/
def FileTree.entryAt? (name : String) : FileTree → Option FileTree
  | .directory entries => entries.lookup name
  | .file _ => none

/-- What stands under a name in the directory at a path, if there is a directory. -/
def Files.entryAt? (files : Files) (directory name : String) : Option FileTree :=
  (files.root.walk [] (files.fullPath directory)).toOption.bind (FileTree.entryAt? name)

/-! ## Names in paths -/

namespace Path

variable {cs : List Char} {directory name : String}

/-- A name that is one step of a path, down into a directory. -/
structure Plain (name : String) : Prop where
  ne_empty : name ≠ ""
  no_slash : '/' ∉ name.toList
  ne_dot : name ≠ "."
  ne_dots : name ≠ ".."

theorem split_ne_nil (cs : List Char) : split cs ≠ [] := by
  fun_cases split cs <;> simp

theorem split_cons {c : Char} {piece rest : List Char} {more : List (List Char)} (hc : c ≠ '/')
    (h : split rest = piece :: more) : split (c :: rest) = (c :: piece) :: more := by
  rw [split.eq_def]
  split
  · contradiction
  · next heq => exact absurd (List.cons.inj heq).1 hc
  · next heq =>
      obtain ⟨rfl, rfl⟩ := List.cons.inj heq
      simp only [h]

theorem split_append_slash (cs rest : List Char) :
    split (cs ++ '/' :: rest) = split cs ++ split rest := by
  induction cs with
  | nil => rfl
  | cons c cs ih =>
      by_cases hc : c = '/'
      · subst hc
        exact congrArg ([] :: ·) ih
      · obtain ⟨piece, more, hcs⟩ := List.exists_cons_of_ne_nil (split_ne_nil cs)
        rw [hcs, List.cons_append] at ih
        rw [List.cons_append, split_cons hc ih, split_cons hc hcs, List.cons_append]

theorem split_of_not_mem (h : '/' ∉ cs) : split cs = [cs] := by
  induction cs with
  | nil => rfl
  | cons c rest ih =>
      rw [List.mem_cons, not_or] at h
      exact split_cons (Ne.symm h.1) (ih h.2)

/-- The components of a path that are not written as nothing. -/
def named (cs : List Char) : List String :=
  ((split cs).filter (!·.isEmpty)).map String.ofList

theorem named_append_slash (cs rest : List Char) :
    named (cs ++ '/' :: rest) = named cs ++ named rest := by
  rw [named, split_append_slash, List.filter_append, List.map_append]
  rfl

theorem Plain.named (h : Plain name) : named name.toList = [name] := by
  have hne : name.toList ≠ [] := by simpa using h.ne_empty
  simp [Path.named, split_of_not_mem h.no_slash, hne]

/-- Besides those there can only be a dot, for a slash at the end. -/
theorem components_eq_or (path : String) :
    components path = named path.toList ∨ components path = named path.toList ++ ["."] := by
  unfold components
  simp only
  split
  · exact .inr rfl
  · exact .inl rfl

/-- A plain name at the end of a path is its last component. -/
theorem Plain.components_of_toList {path : String} (h : Plain name)
    (hpath : path.toList = cs ++ '/' :: name.toList) :
    components path = Path.named cs ++ [name] := by
  have hne : name.toList ≠ [] := by simpa using h.ne_empty
  have hlast : (split path.toList).getLast? ≠ some [] := by
    rw [hpath, split_append_slash, split_of_not_mem h.no_slash]
    simpa using h.ne_empty
  have hnamed : Path.named path.toList = Path.named cs ++ [name] := by
    rw [hpath, named_append_slash, h.named]
  rw [components, if_neg (fun hslash => hlast hslash.2)]
  exact hnamed

theorem Plain.components (h : Plain name) : components name = [name] := by
  rw [Path.components, if_neg (by simp [split_of_not_mem h.no_slash])]
  exact h.named

theorem Plain.isAbsolute (h : Plain name) : isAbsolute name = false := by
  simp only [Path.isAbsolute, decide_eq_false_iff_not]
  intro hhead
  exact h.no_slash (List.mem_of_head? hhead)

theorem isAbsolute_append (h : directory ≠ "") (rest : String) :
    isAbsolute (directory ++ rest) = isAbsolute directory := by
  have hhead : (directory ++ rest).toList.head? = directory.toList.head? := by
    cases hchars : directory.toList with
    | nil => exact absurd (String.toList_eq_nil_iff.mp hchars) h
    | cons c cs => simp [hchars]
  rw [isAbsolute, isAbsolute, hhead]

/-- The path of a name inside a directory starts where the directory does, and has the name after
the components of the directory. -/
theorem Plain.join (h : Plain name) (directory : String) :
    Path.join directory name ≠ "" ∧
      Path.isAbsolute (Path.join directory name) = Path.isAbsolute directory ∧
      Path.components (Path.join directory name) = Path.named directory.toList ++ [name] := by
  rw [Path.join, h.isAbsolute, Bool.false_or]
  by_cases hempty : directory = ""
  · subst hempty
    exact ⟨h.ne_empty, h.isAbsolute, h.components⟩
  · rw [if_neg (by simpa using hempty)]
    split
    · next hslash =>
        obtain ⟨cs, hcs⟩ := List.getLast?_eq_some_iff.mp hslash
        have hpath : (directory ++ name).toList = cs ++ '/' :: name.toList := by simp [hcs]
        have hnamed : Path.named directory.toList = Path.named cs := by
          rw [hcs, named_append_slash]
          exact List.append_nil _
        refine ⟨by simp [hempty], isAbsolute_append hempty name, ?_⟩
        rw [hnamed]
        exact h.components_of_toList hpath
    · refine ⟨by simp, ?_, h.components_of_toList (by simp)⟩
      rw [String.append_assoc]
      exact isAbsolute_append hempty _

end Path

/-! ## Walks -/

namespace FileTree

variable {above : List FileTree} {current : FileTree} {name : String}

/-- Two walks that part only at their ends come to what these ends come to. -/
theorem walk_append_congr {α : Type} {f g : Except FileError FileTree → α}
    {more more' : List String}
    (herror : ∀ e, f (.error e) = g (.error e))
    (hend : ∀ above current, f (walk above current more) = g (walk above current more'))
    (components : List String) (above : List FileTree) (current : FileTree) :
    f (walk above current (components ++ more)) = g (walk above current (components ++ more')) := by
  induction components generalizing above current with
  | nil => exact hend above current
  | cons component rest ih =>
      rw [List.cons_append, List.cons_append]
      cases current with
      | file content => exact herror _
      | directory entries =>
          by_cases hdot : component = "."
          · simp only [walk, hdot, if_true, ih]
          · by_cases hdots : component = ".."
            · subst hdots
              cases above with
              | nil => simp only [walk, hdot, if_false, if_true, ih]
              | cons parent above => simp only [walk, hdot, if_false, if_true, ih]
            · cases hnext : entries.lookup component with
              | none => simp only [walk, hdot, hdots, hnext, if_false, herror]
              | some next => simp only [walk, hdot, hdots, hnext, if_false, ih]

/-- A walk that ends with a plain name ends in an entry of the directory before it. -/
theorem walk_concat (h : Path.Plain name) (components : List String) :
    (walk above current (components ++ [name])).toOption =
      (walk above current components).toOption.bind (entryAt? name) := by
  have hend : ∀ above current, (walk above current [name]).toOption =
      (walk above current []).toOption.bind (entryAt? name) := by
    intro above current
    cases current with
    | file content => rfl
    | directory entries =>
        simp only [walk, h.ne_dot, h.ne_dots, if_false]
        cases hentry : entries.lookup name <;> simp [entryAt?, hentry, Except.toOption]
  have hwalk := walk_append_congr (f := Except.toOption)
    (g := fun x => x.toOption.bind (entryAt? name)) (fun e => rfl) hend components above current
  rwa [List.append_nil] at hwalk

/-- A dot at the end asks for a directory, and stays there. -/
theorem entryAt?_walk_dot (components : List String) :
    (walk above current (components ++ ["."])).toOption.bind (entryAt? name) =
      (walk above current components).toOption.bind (entryAt? name) := by
  have hend : ∀ above current, (walk above current ["."]).toOption.bind (entryAt? name) =
      (walk above current []).toOption.bind (entryAt? name) := by
    intro above current
    cases current <;> rfl
  have hwalk := walk_append_congr (f := fun x => x.toOption.bind (entryAt? name))
    (g := fun x => x.toOption.bind (entryAt? name)) (fun e => rfl) hend components above current
  rwa [List.append_nil] at hwalk

end FileTree

namespace Files

variable {files files' : Files} {directory name : String}

/-- A plain name inside a directory leads to the entry of this name. -/
theorem find_join (h : Path.Plain name) :
    (files.find (Path.join directory name)).toOption = files.entryAt? directory name := by
  obtain ⟨hne, habsolute, hcomponents⟩ := h.join directory
  rw [find, if_neg (by simpa using hne), fullPath, habsolute, hcomponents, entryAt?, fullPath]
  have hwalk : ∀ start : List String,
      (files.root.walk [] (start ++ (Path.named directory.toList ++ [name]))).toOption =
        (files.root.walk [] (start ++ Path.components directory)).toOption.bind
          (FileTree.entryAt? name) := by
    intro start
    rw [← List.append_assoc, FileTree.walk_concat h]
    rcases Path.components_eq_or directory with hdirectory | hdirectory
    · rw [hdirectory]
    · rw [hdirectory, ← List.append_assoc, FileTree.entryAt?_walk_dot]
  split
  · exact hwalk []
  · exact hwalk files.workingDirectory

variable {path : String}

/-- A text that was written as UTF-8 is read back. -/
theorem read_of_find {text : String} (h : files.find path = .ok (.file text.toUTF8)) :
    files.read path = .ok text := by
  have hdecode : String.fromUTF8? text.toUTF8 = some text := by
    rw [String.fromUTF8?, String.toUTF8_eq_toByteArray, dif_pos text.isValidUTF8]
    rfl
  simp only [read, h, hdecode]

/-- Whether a file can be read is a matter of what stands at its path. -/
theorem isFile_congr (h : (files.find path).toOption = (files'.find path).toOption) :
    files.isFile path = files'.isFile path := by
  rw [isFile, isFile]
  cases hfind : files.find path <;> cases hfind' : files'.find path <;>
    simp_all [Except.toOption]

/-- And so is what is read there. -/
theorem read_congr (h : (files.find path).toOption = (files'.find path).toOption)
    (hfile : files.isFile path = true) : files.read path = files'.read path := by
  rw [isFile] at hfile
  rw [read, read]
  cases hfind : files.find path <;> cases hfind' : files'.find path <;>
    simp_all [Except.toOption]

end Files

end ModelRegistry
