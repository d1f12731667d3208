import Mathlib.Data.List.Induction
import ModelRegistry.Proofs.Config.Identity

/-!
# ModelRegistry.Proofs.Config.SchemaDirectory

Look-ups in a schema directory over time, while its files are written and deleted.
A class that a look-up has answered stays the answer for its architecture, as the
same object, whatever becomes of the file; that there was none, or that the file
could not be read, is forgotten at once.

The invariant behind both is that the directory remembers exactly the classes that
it has answered: what was answered is remembered (`cached_of_answered`), and what
is remembered was answered (`answered_of_cached`).
-/

namespace ModelRegistry.SchemaDirectory

/-- What happens to a schema directory. -/
inductive Event where
  /-- An architecture is looked up. -/
  | lookup (architecture : String)
  /-- A file or a directory is put at a path, in place of what stands there. -/
  | put (path : String) (tree : FileTree)
  /-- What stands at a path is deleted. -/
  | delete (path : String)

/-- A schema directory and the file tree as it stands at some time. -/
structure Moment where
  directory : SchemaDirectory
  files : Files

namespace Moment

/-- What a look-up is answered now. -/
def answer (m : Moment) (id : String) : SourceAnswer (Shared ConfigClass) :=
  m.directory.answer m.files id

/-- The moment after an event. What cannot be put leaves the files as they are. -/
def after (m : Moment) : Event → Moment
  | .lookup id => { m with directory := m.directory.afterLookup m.files id }
  | .put path tree => { m with files := (m.files.put path tree).toOption.getD m.files }
  | .delete path => { m with files := m.files.remove path }

/-- The moment after some events. -/
def run (m : Moment) (events : List Event) : Moment := events.foldl after m

/-- One of the events is a look-up of the architecture, and this was the answer. -/
def Answered (m : Moment) (events : List Event) (id : String)
    (x : SourceAnswer (Shared ConfigClass)) : Prop :=
  ∃ before more, events = before ++ .lookup id :: more ∧ (m.run before).answer id = x

variable {m : Moment} {events : List Event} {id : String} {c : Shared ConfigClass}

/-! ## Steps -/

theorem path_after (m : Moment) (e : Event) : (m.after e).directory.path = m.directory.path := by
  cases e with
  | lookup id => exact path_afterLookup
  | put path tree => rfl
  | delete path => rfl

theorem cached_after (h : m.directory.cache.lookup id = some c) (e : Event) :
    (m.after e).directory.cache.lookup id = some c := by
  cases e with
  | lookup other => exact cached_afterLookup h
  | put path tree => exact h
  | delete path => exact h

/-- An event brings a class only as the answer to a look-up. -/
theorem answer_of_cached_after {e : Event} (hnew : m.directory.cache.lookup id = none)
    (h : (m.after e).directory.cache.lookup id = some c) :
    e = .lookup id ∧ m.answer id = .ok (some c) := by
  cases e with
  | lookup other =>
      by_cases hid : id = other
      · subst hid
        refine ⟨rfl, ?_⟩
        by_cases hanswer : ∃ k, m.answer id = .ok (some k)
        · obtain ⟨k, hk⟩ := hanswer
          rw [hk, Option.some.inj ((cached_of_answer hk).symm.trans h)]
        · rw [after, afterLookup_eq_self fun k hk => absurd ⟨k, hk⟩ hanswer, hnew] at h
          cases h
      · rw [after, cached_afterLookup_of_ne hid, hnew] at h
        cases h
  | put path tree => cases hnew.symm.trans h
  | delete path => cases hnew.symm.trans h

/-! ## Runs -/

theorem run_append (m : Moment) (events more : List Event) :
    m.run (events ++ more) = (m.run events).run more :=
  List.foldl_append

theorem path_run (m : Moment) (events : List Event) :
    (m.run events).directory.path = m.directory.path := by
  induction events generalizing m with
  | nil => rfl
  | cons e rest ih => exact (ih (m.after e)).trans (path_after m e)

theorem cached_run (h : m.directory.cache.lookup id = some c) (events : List Event) :
    (m.run events).directory.cache.lookup id = some c := by
  induction events generalizing m with
  | nil => exact h
  | cons e rest ih => exact ih (cached_after h e)

/-- What was answered is remembered. -/
theorem cached_of_answered (h : m.Answered events id (.ok (some c))) :
    (m.run events).directory.cache.lookup id = some c := by
  obtain ⟨before, more, rfl, hanswer⟩ := h
  rw [run_append]
  exact cached_run (cached_of_answer hanswer) more

/-- What is remembered was answered at a look-up before which it was not, unless it was remembered
from the start. -/
theorem loaded_of_cached (hnew : m.directory.cache.lookup id = none)
    (h : (m.run events).directory.cache.lookup id = some c) :
    ∃ before more, events = before ++ .lookup id :: more ∧
      (m.run before).directory.cache.lookup id = none ∧
      (m.run before).answer id = .ok (some c) := by
  induction events using List.reverseRecOn with
  | nil => cases hnew.symm.trans h
  | append_singleton events e ih =>
      cases hbefore : (m.run events).directory.cache.lookup id with
      | some k =>
          rw [run_append] at h
          obtain rfl := Option.some.inj ((cached_after hbefore e).symm.trans h)
          obtain ⟨before, more, rfl, hloaded⟩ := ih hbefore
          exact ⟨before, more ++ [e], by simp, hloaded⟩
      | none =>
          rw [run_append] at h
          obtain ⟨rfl, hanswer⟩ := answer_of_cached_after hbefore h
          exact ⟨events, [], rfl, hbefore, hanswer⟩

/-- What is remembered was answered, unless it was remembered before. -/
theorem answered_of_cached (hnew : m.directory.cache.lookup id = none)
    (h : (m.run events).directory.cache.lookup id = some c) :
    m.Answered events id (.ok (some c)) := by
  obtain ⟨before, more, hsplit, -, hanswer⟩ := loaded_of_cached hnew h
  exact ⟨before, more, hsplit, hanswer⟩

/-! ## Main theorem -/

/-- **A class that was answered stays the answer, and nothing else does**: after any look-ups and
changes of the files, an architecture for which some look-up was answered a class is answered this
very object again; and one for which none was has the class that a directory of which nothing has
been read finds in the files as they stand. -/
theorem answers_are_remembered (path : String) (files : Files) (events : List Event)
    (id : String) :
    let start : Moment := ⟨.atPath path, files⟩
    let now := start.run events
    (∀ c, start.Answered events id (.ok (some c)) → now.answer id = .ok (some c)) ∧
    ((∀ c, ¬ start.Answered events id (.ok (some c))) →
      (ClassSource.directory now.directory).classFor now.files id =
        (ClassSource.directory (.atPath path)).classFor now.files id) := by
  intro start now
  constructor
  · intro c hanswered
    have hword : Text.isWord id.toList = true := by
      obtain ⟨before, more, -, hanswer⟩ := hanswered
      exact isWord_of_answer hanswer
    exact answer_of_cached hword (cached_of_answered hanswered)
  · intro hnone
    refine ClassSource.classFor_of_sameAt ⟨path_run start events, ?_⟩
    cases hcached : now.directory.cache.lookup id with
    | none => rfl
    | some c => exact absurd (answered_of_cached rfl hcached) (hnone c)

/-- A directory without files. -/
def bare : Moment := ⟨.atPath "schemas", .empty⟩

/-- An architecture is looked up before its schema file is written. -/
def early : List Event :=
  [.lookup "Late", .put "schemas/Late.json" (.file "\x7b\"name\": \"LateConfig\"\x7d".toUTF8)]

/-- That there was no class is forgotten when the file is written; that there was one is remembered
when it is deleted. -/
theorem late_class_is_remembered :
    let written := bare.run early
    let deleted := bare.run (early ++ [.lookup "Late", .delete "schemas/Late.json"])
    bare.answer "Late" = .ok none ∧
      (ClassSource.directory written.directory).classFor written.files "Late" =
        (ClassSource.directory (.atPath "schemas")).classFor written.files "Late" ∧
      ∃ c, written.answer "Late" = .ok (some c) ∧ c.value.name = "LateConfig" ∧
        deleted.answer "Late" = .ok (some c) ∧
        (SchemaDirectory.atPath "schemas").answer deleted.files "Late" = .ok none := by
  intro written deleted
  have hname : (written.answer "Late").toOption.bind (Option.map (·.value.name)) =
      some "LateConfig" := by
    decide +kernel
  refine ⟨rfl, (answers_are_remembered "schemas" .empty early "Late").2 fun c h => ?_, ?_⟩
  · have hcached : none = some c := cached_of_answered h
    cases hcached
  · obtain ⟨c, hanswer, hc⟩ : ∃ c, written.answer "Late" = .ok (some c) ∧
        c.value.name = "LateConfig" := by
      cases hresult : written.answer "Late" with
      | error fault => simp [hresult, Except.toOption] at hname
      | ok answered =>
          rw [hresult] at hname
          obtain ⟨c, rfl, hc⟩ := Option.map_eq_some_iff.mp hname
          exact ⟨c, rfl, hc⟩
    refine ⟨c, hanswer, hc, ?_, rfl⟩
    exact (answers_are_remembered "schemas" .empty _ "Late").1 c
      ⟨early, [.delete "schemas/Late.json"], rfl, hanswer⟩

end Moment

end ModelRegistry.SchemaDirectory
