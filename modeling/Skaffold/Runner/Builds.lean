import Skaffold.Basic

/-!
# The runner's latest-known build table

The runner keeps one table of build results, `r.builds`, for the whole dev loop. After every
successful build, `updateBuiltImages` adds the new tags to the image list that the log
aggregator and the port-forwarder follow, and merges the new results into the table with
`mergeWithPreviousBuilds`: the new results come first, and a previous result stays only when
no new result has its image name.

Read as a finite map from image names, one merge overrides the table by the new results
(`lookup_mergeWithPreviousBuilds`), and it keeps image names unique when both sides have unique
names (`nodup_mergeWithPreviousBuilds`). Over any history of builds the table therefore holds,
for every image name, the result of the last build that produced it, or else its initial entry,
and no image name twice (`builds_after_updates`).
-/

set_option autoImplicit false

namespace Skaffold.Runner

open Build (imageNames lookup)

/-! ## The image list -/

/-- `ImageList.Add`. Modelled from the spec (the image list is a set of image reference
strings): an image already in the list is not added again. -/
def imageListAdd (images : List String) (image : String) : List String :=
  if image ∈ images then images else images ++ [image]

/-! ## Merging build results -/

/-- `mergeWithPreviousBuilds`: the new results, then every previous result whose image name no
new result has. -/
def mergeWithPreviousBuilds (builds previous : List Build.Artifact) : List Build.Artifact :=
  let updatedBuilds := imageNames builds
  builds ++ previous.filter (fun b => b.imageName ∉ updatedBuilds)

/-- `updateBuiltImages`: follow the new tags in the image list, and merge the new results into
the table. -/
def updateBuiltImages (images : List String) (builds bRes : List Build.Artifact) :
    List String × List Build.Artifact :=
  (bRes.foldl (fun images build => imageListAdd images build.tag) images,
    mergeWithPreviousBuilds bRes builds)

@[simp] theorem updateBuiltImages_builds (images : List String)
    (builds bRes : List Build.Artifact) :
    (updateBuiltImages images builds bRes).2 = mergeWithPreviousBuilds bRes builds := rfl

/-- Filtering a table with a test that keeps every entry of an image name does not change the
entry of that name. -/
theorem lookup_filter_of_keeps {keep : Build.Artifact → Bool} {imageName : String}
    (keeps : ∀ b : Build.Artifact, b.imageName = imageName → keep b = true)
    (previous : List Build.Artifact) :
    lookup (previous.filter keep) imageName = lookup previous imageName := by
  induction previous with
  | nil => rfl
  | cons b rest ih =>
      rw [List.filter_cons]
      by_cases same : b.imageName = imageName
      · simp [keeps b same, Build.lookup_cons, same]
      · split <;> simp only [Build.lookup_cons, same, if_false, ih]

/-- **One merge overrides the table by the new results.** -/
theorem lookup_mergeWithPreviousBuilds (builds previous : List Build.Artifact)
    (imageName : String) :
    lookup (mergeWithPreviousBuilds builds previous) imageName =
      (lookup builds imageName).or (lookup previous imageName) := by
  rw [mergeWithPreviousBuilds, lookup, List.find?_append, ← lookup, ← lookup]
  cases fresh : lookup builds imageName with
  | some build => rfl
  | none =>
      refine lookup_filter_of_keeps (fun b same => ?_) previous
      simpa [same] using Build.lookup_eq_none.mp fresh

/-- A merge of two tables with unique image names has unique image names. -/
theorem nodup_mergeWithPreviousBuilds {builds previous : List Build.Artifact}
    (fresh : (imageNames builds).Nodup) (old : (imageNames previous).Nodup) :
    (imageNames (mergeWithPreviousBuilds builds previous)).Nodup := by
  rw [mergeWithPreviousBuilds, Build.imageNames_append, List.nodup_append]
  refine ⟨fresh, old.sublist (List.Sublist.map _ (List.filter_sublist _)), ?_⟩
  intro imageName inNew inKept
  obtain ⟨b, kept, rfl⟩ := List.mem_map.mp inKept
  exact (of_decide_eq_true (List.mem_filter.mp kept).2) inNew

/-! ## A history of builds -/

/-- The image list and the table after `updateBuiltImages` for each result set of a history,
in order. -/
def updates (images : List String) (builds : List Build.Artifact)
    (history : List (List Build.Artifact)) : List String × List Build.Artifact :=
  history.foldl (fun state bRes => updateBuiltImages state.1 state.2 bRes) (images, builds)

/-- The entry of an image name after a history of builds, by the words of the spec: the result
from the last result set that contains the name, or else the initial entry. -/
def latestBuild (initial : List Build.Artifact) (history : List (List Build.Artifact))
    (imageName : String) : Option Build.Artifact :=
  (history.reverse.findSome? (lookup · imageName)).or (lookup initial imageName)

theorem latestBuild_cons (initial bRes : List Build.Artifact)
    (history : List (List Build.Artifact)) (imageName : String) :
    latestBuild initial (bRes :: history) imageName =
      latestBuild (mergeWithPreviousBuilds bRes initial) history imageName := by
  simp only [latestBuild, List.reverse_cons, List.findSome?_append, List.findSome?_cons,
    List.findSome?_nil, lookup_mergeWithPreviousBuilds, Option.or_assoc]
  cases lookup bRes imageName <;> rfl

/-- The table after a history of builds, from any image list. -/
theorem updates_builds (images : List String) (builds : List Build.Artifact)
    (history : List (List Build.Artifact)) :
    (updates images builds history).2 =
      history.foldl (fun builds bRes => mergeWithPreviousBuilds bRes builds) builds := by
  induction history generalizing images builds with
  | nil => rfl
  | cons bRes rest ih => exact ih _ _

/-- The table folded over a history reads as `latestBuild` and keeps image names unique. -/
theorem foldl_merge_spec (history : List (List Build.Artifact)) :
    ∀ (builds : List Build.Artifact), (imageNames builds).Nodup →
      (∀ bRes ∈ history, (imageNames bRes).Nodup) →
      let merged := history.foldl (fun builds bRes => mergeWithPreviousBuilds bRes builds) builds
      (imageNames merged).Nodup ∧ ∀ imageName, lookup merged imageName =
        latestBuild builds history imageName := by
  induction history with
  | nil => exact fun builds unique _ => ⟨unique, fun _ => by simp [latestBuild]⟩
  | cons bRes rest ih =>
      intro builds unique results
      have next := ih (mergeWithPreviousBuilds bRes builds)
        (nodup_mergeWithPreviousBuilds (results bRes (List.mem_cons_self _ _)) unique)
        (fun r member => results r (List.mem_cons_of_mem _ member))
      exact ⟨next.1, fun imageName => (next.2 imageName).trans
        (latestBuild_cons builds bRes rest imageName).symm⟩

/-- **The latest-known table over any history of builds.** Starting from a table with unique
image names, after `updateBuiltImages` for result sets with unique image names, in order, the
table has unique image names, its image names are those of the initial table and of all the
result sets, and the entry of each image name is the one of the last result set that contains
it, or else its initial entry. -/
theorem builds_after_updates (images : List String) (initial : List Build.Artifact)
    (history : List (List Build.Artifact)) (unique : (imageNames initial).Nodup)
    (results : ∀ bRes ∈ history, (imageNames bRes).Nodup) :
    let builds := (updates images initial history).2
    (imageNames builds).Nodup ∧
      (∀ imageName, imageName ∈ imageNames builds ↔
        imageName ∈ imageNames initial ∨ ∃ bRes ∈ history, imageName ∈ imageNames bRes) ∧
      ∀ imageName, lookup builds imageName = latestBuild initial history imageName := by
  intro builds
  obtain ⟨nodup, entries⟩ := foldl_merge_spec history initial unique results
  rw [← updates_builds images] at nodup entries
  refine ⟨nodup, fun imageName => ?_, entries⟩
  have present : ∀ table : List Build.Artifact,
      imageName ∈ imageNames table ↔ lookup table imageName ≠ none := fun table => by
    rw [ne_eq, Build.lookup_eq_none, not_not]
  simp only [present, entries, latestBuild, ne_eq, Option.or_eq_none, not_and_or,
    List.findSome?_eq_none_iff, List.mem_reverse, not_forall, exists_prop, or_comm]

/-- Scenario S5 of the spec: `a` and `b` built at tag 1, then only `a` rebuilt, at tag 2. -/
theorem partial_rebuild_keeps_previous_tag :
    (imageNames [⟨"a", "a:1"⟩, ⟨"b", "b:1"⟩]).Nodup ∧
      (∀ bRes ∈ [[(⟨"a", "a:2"⟩ : Build.Artifact)]], (imageNames bRes).Nodup) ∧
      let builds := (updates [] [⟨"a", "a:1"⟩, ⟨"b", "b:1"⟩] [[⟨"a", "a:2"⟩]]).2
      (imageNames builds).Nodup ∧
        (∀ imageName, imageName ∈ imageNames builds ↔
          imageName ∈ imageNames [⟨"a", "a:1"⟩, ⟨"b", "b:1"⟩] ∨
            ∃ bRes ∈ [[(⟨"a", "a:2"⟩ : Build.Artifact)]], imageName ∈ imageNames bRes) ∧
        ∀ imageName, lookup builds imageName =
          latestBuild [⟨"a", "a:1"⟩, ⟨"b", "b:1"⟩] [[⟨"a", "a:2"⟩]] imageName :=
  ⟨by decide, by decide, builds_after_updates [] _ _ (by decide) (by decide)⟩

example : (updates [] [⟨"a", "a:1"⟩, ⟨"b", "b:1"⟩] [[⟨"a", "a:2"⟩]]).2 =
    [⟨"a", "a:2"⟩, ⟨"b", "b:1"⟩] := by decide

end Skaffold.Runner
