import ModelRegistry.Proofs.Files
import ModelRegistry.Proofs.Json.Members

/-!
# ModelRegistry.Proofs.Files.Writing

A text that was written to a path is read there (`read_write`). A path may be written
with dots and may climb out of directories. `put` takes these steps away before it goes
down (`Path.normalize`), while a walk takes them one by one, and both come to the same
place because every directory that the walk enters has been made. `FileTree.at?` is what
stands at the end of a way that only leads down; `Above` keeps the directories that a
walk has above it together with the names of the way.
-/

namespace ModelRegistry

namespace FileTree

variable {t t' leaf : FileTree} {entries : List (String × FileTree)}

/-! ## Ways that lead down -/

/-- What stands at the end of these names, one below the other. -/
def at? (t : FileTree) : List String → Option FileTree
  | [] => some t
  | name :: rest => (t.entryAt? name).bind (at? · rest)

/-- A directory stands at the end of these names. -/
def HasDirectory (t : FileTree) (names : List String) : Prop :=
  ∃ entries, t.at? names = some (.directory entries)

theorem at?_append (t : FileTree) (names more : List String) :
    t.at? (names ++ more) = (t.at? names).bind (at? · more) := by
  induction names generalizing t with
  | nil => rfl
  | cons name rest ih =>
      rw [List.cons_append, at?, at?]
      cases t.entryAt? name with
      | none => rfl
      | some next => exact ih next

theorem lookup_putEntry (name other : String) (t : FileTree) (entries : List (String × FileTree)) :
    (putEntry name t entries).lookup other =
      if other = name then some t else entries.lookup other := by
  have hfilter := Members.lookup_filter (fun key => decide (key ≠ name)) entries other
  rw [putEntry, List.lookup_append, hfilter]
  by_cases h : other = name
  · simp [h]
  · simp [h, Members.lookup_cons_of_ne h]

theorem at?_putEntry_of_ne {name other : String} (h : other ≠ name) (rest : List String) :
    (directory (putEntry name t entries)).at? (other :: rest) =
      (directory entries).at? (other :: rest) := by
  rw [at?, at?, entryAt?, entryAt?, lookup_putEntry, if_neg h]

theorem at?_putEntry_self (name : String) (rest : List String) :
    (directory (putEntry name t entries)).at? (name :: rest) = t.at? rest := by
  rw [at?, entryAt?, lookup_putEntry, if_pos rfl]
  rfl

theorem not_hasDirectory_file (content : ByteArray) (names : List String) :
    ¬ (file content).HasDirectory names := by
  intro h
  obtain ⟨entries, h⟩ := h
  cases names <;> simp [at?, entryAt?] at h

/-- Directories stay directories if those below the new entry do. -/
theorem hasDirectory_putEntry {name : String}
    (h : ∀ child, entries.lookup name = some child →
      ∀ names, child.HasDirectory names → t.HasDirectory names)
    {names : List String} (hnames : (directory entries).HasDirectory names) :
    (directory (putEntry name t entries)).HasDirectory names := by
  cases names with
  | nil => exact ⟨_, rfl⟩
  | cons other rest =>
      by_cases hname : other = name
      · subst hname
        unfold HasDirectory at hnames ⊢
        rw [at?_putEntry_self]
        rw [at?, entryAt?] at hnames
        cases hchild : entries.lookup other with
        | none => simp [hchild] at hnames
        | some child =>
            rw [hchild] at hnames
            exact h child hchild rest hnames
      · unfold HasDirectory
        rw [at?_putEntry_of_ne hname]
        exact hnames

/-! ## Putting -/

/-- What was put stands at the end of the names: a file as it is, a directory as some directory. -/
def Stands (leaf t : FileTree) (names : List String) : Prop :=
  match leaf with
  | .file _ => t.at? names = some leaf
  | .directory _ => t.HasDirectory names

theorem stands_putEntry (name : String) :
    leaf.Stands (directory (putEntry name leaf entries)) [name] := by
  have hleaf : (directory (putEntry name leaf entries)).at? [name] = some leaf :=
    at?_putEntry_self name []
  cases leaf with
  | file content => exact hleaf
  | directory below => exact ⟨below, hleaf⟩

theorem stands_putEntry_of_stands {name : String} {rest : List String} (h : leaf.Stands t rest) :
    leaf.Stands (directory (putEntry name t entries)) (name :: rest) := by
  have hway : (directory (putEntry name t entries)).at? (name :: rest) = t.at? rest :=
    at?_putEntry_self name rest
  cases leaf with
  | file content => exact hway.trans h
  | directory below =>
      obtain ⟨found, hfound⟩ := h
      exact ⟨found, hway.trans hfound⟩

/-- A new entry takes the place of a file at most, so that no directory is lost. -/
theorem put_new_spec {name : String}
    (hfile : ∀ child, entries.lookup name = some child → ∃ content, child = .file content) :
    leaf.Stands (directory (putEntry name leaf entries)) [name] ∧
      ∀ way, (directory entries).HasDirectory way →
        (directory (putEntry name leaf entries)).HasDirectory way := by
  refine ⟨stands_putEntry name, fun way => hasDirectory_putEntry ?_⟩
  intro child hchild names hnames
  obtain ⟨content, rfl⟩ := hfile child hchild
  exact absurd hnames (not_hasDirectory_file content names)

theorem put_single_spec {name : String} (h : put leaf [name] (.directory entries) = .ok t') :
    leaf.Stands t' [name] ∧
      ∀ way, (directory entries).HasDirectory way → t'.HasDirectory way := by
  cases hlookup : entries.lookup name with
  | none =>
      have ht : directory (putEntry name leaf entries) = t' := by
        cases leaf <;> simpa [put, hlookup] using h
      exact ht ▸ put_new_spec (by simp [hlookup])
  | some found =>
      cases found with
      | file content =>
          cases leaf with
          | file new =>
              have ht : directory (putEntry name (.file new) entries) = t' := by
                simpa [put, hlookup] using h
              exact ht ▸ put_new_spec (by simp [hlookup])
          | directory made => simp [put, hlookup] at h
      | directory below =>
          cases leaf with
          | file new => simp [put, hlookup] at h
          | directory made =>
              obtain rfl : directory entries = t' := by simpa [put, hlookup] using h
              have hfound : (directory entries).at? [name] = some (.directory below) := by
                simp [at?, entryAt?, hlookup]
              exact ⟨⟨below, hfound⟩, fun _ hway => hway⟩

/-- **What putting does**: what was put stands at the end of the names, and directories stay
directories. -/
theorem put_spec {names : List String} (h : put leaf names t = .ok t') :
    leaf.Stands t' names ∧ ∀ way, t.HasDirectory way → t'.HasDirectory way := by
  induction names generalizing t t' with
  | nil =>
      cases t with
      | file content => simp [put] at h
      | directory entries =>
          cases leaf with
          | file content => simp [put] at h
          | directory below =>
              obtain rfl : directory entries = t' := by simpa [put] using h
              exact ⟨⟨entries, rfl⟩, fun _ hway => hway⟩
  | cons name rest ih =>
      cases t with
      | file content => cases rest <;> simp [put] at h
      | directory entries =>
          cases rest with
          | nil => exact put_single_spec h
          | cons next more =>
              simp only [put] at h
              split at h
              · next u hu =>
                  obtain rfl : directory (putEntry name u entries) = t' := by simpa using h
                  obtain ⟨hstands, hkeeps⟩ := ih hu
                  refine ⟨stands_putEntry_of_stands hstands, fun way => hasDirectory_putEntry ?_⟩
                  intro child hchild
                  rw [hchild] at hkeeps
                  exact hkeeps
              · contradiction

/-- Only into a directory can something be put. -/
theorem hasDirectory_of_put {names : List String} (h : put leaf names t = .ok t') :
    t.HasDirectory [] := by
  cases t with
  | file content => cases names <;> simp [put] at h
  | directory entries => exact ⟨entries, rfl⟩

/-- The directories of the way are made, all but the last component, and others stay. -/
theorem makeWay_spec {way components : List String} (h : makeWay way components t = .ok t') :
    (∀ names, t.HasDirectory names → t'.HasDirectory names) ∧
      ∀ before after, components = before ++ after → before ≠ [] → after ≠ [] →
        t'.HasDirectory (Path.normalize (way ++ before)) := by
  fun_induction makeWay way components t with
  | case1 way t =>
      obtain rfl : t = t' := by simpa using h
      exact ⟨fun _ hnames => hnames, fun before after hsplit hbefore _ => by simp_all⟩
  | case2 way component t =>
      obtain rfl : t = t' := by simpa using h
      refine ⟨fun _ hnames => hnames, fun before after hsplit hbefore hafter => ?_⟩
      have hlength := congrArg List.length hsplit
      have hbefore := List.length_pos_of_ne_nil hbefore
      have hafter := List.length_pos_of_ne_nil hafter
      simp only [List.length_singleton, List.length_append] at hlength
      omega
  | case3 way component rest t hrest made hmade ih =>
      obtain ⟨hmadeStands, hmadeKeeps⟩ := put_spec hmade
      obtain ⟨hkeeps, hway⟩ := ih h
      refine ⟨fun names hnames => hkeeps names (hmadeKeeps names hnames), ?_⟩
      intro before after hsplit hbefore hafter
      obtain ⟨first, more, rfl⟩ := List.exists_cons_of_ne_nil hbefore
      rw [List.cons_append, List.cons.injEq] at hsplit
      obtain ⟨rfl, hsplit⟩ := hsplit
      cases more with
      | nil => exact hkeeps _ hmadeStands
      | cons next more =>
          have hnext := hway (next :: more) after hsplit (by simp) hafter
          rwa [List.append_assoc] at hnext
  | case4 => contradiction

/-! ## Walks -/

/-- The directories that a walk has above it, the nearest first, and where it stands, for the
names that lead there, the last first. -/
inductive Above (root : FileTree) : List String → List FileTree → FileTree → Prop
  | root : Above root [] [] root
  | enter {names : List String} {above : List FileTree} {entries : List (String × FileTree)}
      {name : String} {next : FileTree} : Above root names above (.directory entries) →
      entries.lookup name = some next → Above root (name :: names) (.directory entries :: above) next

theorem Above.at? {root current : FileTree} {names : List String} {above : List FileTree}
    (h : Above root names above current) : root.at? names.reverse = some current := by
  induction h with
  | root => rfl
  | enter _ hlookup ih =>
      rw [List.reverse_cons, at?_append, ih]
      simp [FileTree.at?, entryAt?, hlookup]

/-- A component of a path, taken by names of which the last is first. Normalizing takes all
components in this way and reverses the names. -/
def stepNames (names : List String) (component : String) : List String :=
  if component = "." then names else if component = ".." then names.tail else component :: names

/-- **A walk comes to the end of its names** if every directory is there that it enters. -/
theorem walk_eq_of_way {root current : FileTree} {names : List String} {above : List FileTree}
    (habove : Above root names above current) {components : List String}
    (hway : ∀ before after, components = before ++ after → after ≠ [] →
      root.HasDirectory (before.foldl stepNames names).reverse)
    (hend : root.at? (components.foldl stepNames names).reverse = some leaf) :
    walk above current components = .ok leaf := by
  induction components generalizing names above current with
  | nil =>
      rw [List.foldl_nil, habove.at?] at hend
      simpa [walk] using hend
  | cons component rest ih =>
      obtain ⟨entries, hhere⟩ := hway [] (component :: rest) rfl (by simp)
      rw [List.foldl_nil, habove.at?] at hhere
      obtain rfl : current = .directory entries := by simpa using hhere
      -- The rest of the way is the way of the rest, from wherever the walk is then.
      have hrest : ∀ before after, rest = before ++ after → after ≠ [] →
          root.HasDirectory (before.foldl stepNames (stepNames names component)).reverse := by
        intro before after hsplit hafter
        exact hway (component :: before) after (by simp [hsplit]) hafter
      rw [List.foldl_cons] at hend
      by_cases hdot : component = "."
      · have hstep : stepNames names component = names := if_pos hdot
        rw [hstep] at hrest hend
        simp only [walk, hdot, if_true]
        exact ih habove hrest hend
      · by_cases hdots : component = ".."
        · have hstep : stepNames names component = names.tail := by simp [stepNames, hdots]
          rw [hstep] at hrest hend
          simp only [walk, hdots]
          cases habove with
          | root => exact ih .root hrest hend
          | enter habove _ => exact ih habove hrest hend
        · have hstep : stepNames names component = component :: names := by
            simp [stepNames, hdot, hdots]
          rw [hstep] at hrest hend
          have hthere : ∃ next, root.at? (component :: names).reverse = some next := by
            cases rest with
            | nil => exact ⟨leaf, hend⟩
            | cons other more =>
                obtain ⟨below, hbelow⟩ := hrest [] (other :: more) rfl (by simp)
                exact ⟨.directory below, hbelow⟩
          obtain ⟨next, hthere⟩ := hthere
          rw [List.reverse_cons, at?_append, habove.at?] at hthere
          have hnext : entries.lookup component = some next := by
            simpa [at?, entryAt?] using hthere
          simp only [walk, hdot, hdots, if_false, hnext]
          exact ih (.enter habove hnext) hrest hend

end FileTree

namespace Files

variable {files files' : Files} {path text : String}

/-! ## Reading what was written -/

/-- A file stands where it was put. -/
theorem find_put {content : ByteArray} (h : files.put path (.file content) = .ok files') :
    files'.find path = .ok (.file content) := by
  unfold put at h
  split at h
  · contradiction
  · next hne =>
      split at h
      · contradiction
      · next way hway =>
          split at h
          · next root hroot =>
              obtain rfl : { files with root } = files' := by simpa using h
              obtain ⟨hstands, hkeeps⟩ := FileTree.put_spec hroot
              obtain ⟨-, hmade⟩ := FileTree.makeWay_spec hway
              have hfind : FileTree.walk [] root (files.fullPath path) = .ok (.file content) := by
                refine FileTree.walk_eq_of_way .root ?_ hstands
                intro before after hsplit hafter
                cases before with
                | nil => exact hkeeps [] (FileTree.hasDirectory_of_put hroot)
                | cons first more =>
                    exact hkeeps _ (hmade (first :: more) after hsplit (by simp) hafter)
              unfold find
              rw [if_neg hne]
              exact hfind
          · contradiction

/-- **A text is read where it was written.** -/
theorem read_write (h : files.write path text = .ok files') : files'.read path = .ok text :=
  read_of_find (find_put h)

end Files

end ModelRegistry
