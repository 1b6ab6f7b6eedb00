import Skaffold.Watch

/-!
# The sync predicate

When an artifact's files change, the dev loop either copies the changed files into the running
pods or rebuilds the artifact. `shouldSync` decides: it answers `true` when every added and
modified file, and then every deleted file, passes `match` against the artifact's sync
patterns.

`match` runs `filepath.Match` of every pattern against every file and gives up at the first
pattern a file does not match. Glob matching is Go's standard library, not this repository, so
the model takes it as a parameter (`filepathMatch`); everything here holds for every matcher.

`match` therefore succeeds exactly when every file matches *every* pattern
(`match_eq_ok_true`), vacuously so when there is no pattern, and `shouldSync` answers `true`
exactly when something changed and every changed path matches every pattern
(`shouldSync_eq_ok_true`). With no sync patterns at all, every change is synced
(`shouldSync_without_patterns`).
-/

set_option autoImplicit false

namespace Skaffold.Runner

open Watch (WatchEvents)

section Sync

variable (filepathMatch : String → String → Except String Bool)

/-- The inner loop of `match`: `filepath.Match` of every pattern against one file, stopping at
the first pattern the file does not match and at the first bad pattern. -/
def matchFile (f : String) : List String → Except String Bool
  | [] => .ok true
  | p :: patterns =>
      match filepathMatch p f with
      | .error err => .error (wrapError "pattern error" err)
      | .ok false => .ok false
      | .ok true => matchFile f patterns

/-- `match`: whether the files match the patterns, file after file. -/
def «match» (patterns : List String) : List String → Except String Bool
  | [] => .ok true
  | f :: files =>
      match matchFile filepathMatch f patterns with
      | .ok true => «match» patterns files
      | stopped => stopped

/-- `shouldSync`: sync when something changed, the added and modified files match the patterns,
and the deleted files do too. An error of `match` on the deleted files reads as no match, since
`match` returns `false` with it and the caller drops the error. -/
def shouldSync (syncPatterns : List String) (e : WatchEvents) : Except String Bool :=
  if !e.hasChanged then .ok false
  else
    let copyFiles := e.added ++ e.modified
    match «match» filepathMatch syncPatterns copyFiles with
    | .error err => .error (wrapError "checking sync pattern" err)
    | .ok false => .ok false
    | .ok true =>
        match «match» filepathMatch syncPatterns e.deleted with
        | .ok true => .ok true
        | _ => .ok false

/-- The inner loop succeeds exactly when the file matches every pattern. -/
theorem matchFile_eq_ok_true (f : String) (patterns : List String) :
    matchFile filepathMatch f patterns = .ok true ↔
      ∀ p ∈ patterns, filepathMatch p f = .ok true := by
  induction patterns with
  | nil => simp [matchFile]
  | cons p rest ih =>
      simp only [matchFile, List.forall_mem_cons]
      cases filepathMatch p f with
      | error err => simp
      | ok matched => cases matched <;> simp [ih]

/-- **`match` succeeds exactly when every file matches every pattern.** -/
theorem match_eq_ok_true (patterns files : List String) :
    «match» filepathMatch patterns files = .ok true ↔
      ∀ f ∈ files, ∀ p ∈ patterns, filepathMatch p f = .ok true := by
  induction files with
  | nil => simp [«match»]
  | cons f files ih =>
      simp only [«match», List.forall_mem_cons]
      rw [← matchFile_eq_ok_true filepathMatch f]
      cases matchFile filepathMatch f patterns with
      | error err => simp
      | ok matched => cases matched <;> simp [ih]

/-- **`shouldSync` syncs exactly when something changed and every changed path matches every
sync pattern.** -/
theorem shouldSync_eq_ok_true (syncPatterns : List String) (e : WatchEvents) :
    shouldSync filepathMatch syncPatterns e = .ok true ↔
      e.hasChanged ∧ ∀ f ∈ e.added ++ e.modified ++ e.deleted, ∀ p ∈ syncPatterns,
        filepathMatch p f = .ok true := by
  rw [List.forall_mem_append, ← match_eq_ok_true, ← match_eq_ok_true]
  unfold shouldSync
  cases e.hasChanged
  · simp
  · cases copy : «match» filepathMatch syncPatterns (e.added ++ e.modified) with
    | error err => simp [copy]
    | ok copyable =>
        cases copyable
        · simp [copy]
        · cases «match» filepathMatch syncPatterns e.deleted with
          | error err => simp [copy]
          | ok deletable => cases deletable <;> simp [copy]

/-- With no sync patterns every change is synced: `match` holds vacuously. -/
theorem shouldSync_without_patterns (e : WatchEvents) :
    shouldSync filepathMatch [] e = .ok e.hasChanged := by
  have vacuous : ∀ files, «match» filepathMatch [] files = .ok true := fun files =>
    (match_eq_ok_true filepathMatch [] files).mpr (by simp)
  unfold shouldSync
  cases e.hasChanged <;> simp [vacuous]

end Sync

end Skaffold.Runner
