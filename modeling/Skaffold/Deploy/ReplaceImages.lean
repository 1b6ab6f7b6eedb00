import Skaffold.Deploy.Yaml

/-!
# Replacing the images of the manifests

Before it applies the manifests, the deployer rewrites their image references with
`manifestList.replaceImages`: it makes one replacement per image name of the builds, the tag of
the last build with that name, decodes each document into a map, skips the empty ones, walks the
others with `recursiveReplaceImage`, and warns about each replacement no document used. At an
`image` key the walk parses the value with `docker.ParseReference` and, when the reference is not
fully qualified and its base name has a replacement, writes the replacement's tag and marks it
found.

`docker.ParseReference` is not part of the sources; everything here holds for every parser
(`parseReference`).

The spec's rewrite (`rewrite`) keeps the tree and replaces an `image` string value that parses to
a reference that is not fully qualified by the tag of its base name, when that name has one.
Whenever the walk returns normally, it is that rewrite, and it marks found exactly the base names
an image value was rewritten from (`recursiveReplaceImage_spec`). So `replaceImages`, when it
returns normally, returns the rewritten non-empty documents in order and warns exactly about the
image names of the builds that no image value was rewritten from (`replaceImages_spec`).

The walk returns normally exactly on the trees whose mapping keys and `image` values are all
strings, and panics on every other tree (`recursiveReplaceImage_cases`); a document whose root is
a sequence or a scalar fails the decoding.
-/

set_option autoImplicit false

namespace Skaffold.Deploy

open Build (imageNames)

/-- A parsed image reference (`docker.ImageReference`), as far as the transformer reads it. -/
structure Reference where
  baseName : String
  fullyQualified : Bool

/-- `replacement`: the tag that replaces an image, and whether it replaced one. -/
structure Replacement where
  tag : String
  found : Bool := false
  deriving DecidableEq, Repr

/-- The replacements of `replaceImages`, by image name. -/
abbrev Replacements := GoMap Replacement

/-! ## The code -/

section Code

variable (parseReference : String → Except String Reference)

/-- The loop body of `recursiveReplaceImage` at an `image` key whose value is the string
`image`: what it leaves under the key, and the replacements. A reference that does not parse, or
is fully qualified, is kept with a log line; one whose base name has a replacement becomes the
replacement's tag, and the replacement is marked found. -/
def replaceImage (image : String) (replacements : Replacements) : String × Replacements :=
  match parseReference image with
  | .error _ => (image, replacements)
  | .ok parsed =>
      if parsed.fullyQualified then (image, replacements)
      else
        match replacements.get? parsed.baseName with
        | some img => (img.tag, replacements.set parsed.baseName { img with found := true })
        | none => (image, replacements)

/-- The loop body of `recursiveReplaceImage` at an `image` key: the value must be a string,
which `replaceImage` handles. -/
def replaceImageValue (v : Value) (replacements : Replacements) :
    Except Failure (Value × Replacements) := do
  let image ← v.asString
  let (image, replacements) := replaceImage parseReference image replacements
  pure (.str image, replacements)

mutual

/-- `recursiveReplaceImage`: walk a decoded node, rewriting in place. A node that is neither a
sequence nor a mapping is left alone. -/
def recursiveReplaceImage : Value → Replacements → Except Failure (Value × Replacements)
  | .seq t, replacements => do
      let (t, replacements) ← replaceItems t replacements
      pure (.seq t, replacements)
  | .map t, replacements => do
      let (t, replacements) ← replaceEntries t replacements
      pure (.map t, replacements)
  | i, replacements => pure (i, replacements)

/-- The loop of `recursiveReplaceImage` over a sequence. -/
def replaceItems : List Value → Replacements → Except Failure (List Value × Replacements)
  | [], replacements => pure ([], replacements)
  | v :: rest, replacements => do
      let (v, replacements) ← recursiveReplaceImage v replacements
      let (rest, replacements) ← replaceItems rest replacements
      pure (v :: rest, replacements)

/-- The loop of `recursiveReplaceImage` over a mapping: the key must be a string; below a key
other than `image` the walk goes on, and an `image` value must be a string. -/
def replaceEntries :
    List (Value × Value) → Replacements → Except Failure (List (Value × Value) × Replacements)
  | [], replacements => pure ([], replacements)
  | (k, v) :: rest, replacements => do
      let key ← k.asString
      let (v, replacements) ←
        (if key ≠ "image" then recursiveReplaceImage v replacements
          else replaceImageValue parseReference v replacements)
      let (rest, replacements) ← replaceEntries rest replacements
      pure ((k, v) :: rest, replacements)

end

/-- The loop of `replaceImages` over the documents: decode each into a map, skip an empty one,
walk the others. -/
def replaceManifests : List Value → Replacements → Except Failure (List Value × Replacements)
  | [], replacements => pure ([], replacements)
  | manifest :: rest, replacements =>
      match unmarshalMap manifest with
      | .error err => .error (.error (wrapError "reading kubernetes YAML" err))
      | .ok m =>
          if m.isEmpty then replaceManifests rest replacements
          else do
            let (updatedManifest, replacements) ←
              recursiveReplaceImage parseReference (.map m) replacements
            let (rest, replacements) ← replaceManifests rest replacements
            pure (updatedManifest :: rest, replacements)

/-- The replacements `replaceImages` starts from: the tag of the last build of each image
name, not found. -/
def newReplacements (builds : List Build.Artifact) : Replacements :=
  builds.foldl (fun replacements build => replacements.set build.imageName { tag := build.tag })
    GoMap.empty

/-- `manifestList.replaceImages`: the rewritten documents, and the image names it warns are not
used by the deployment, in the order of the final loop. -/
def replaceImages (l : List Value) (builds : List Build.Artifact) :
    Except Failure (List Value × List String) := do
  let (updatedManifests, replacements) ←
    replaceManifests parseReference l (newReplacements builds)
  pure (updatedManifests, (replacements.entries.filter fun entry => !entry.2.found).map Prod.fst)

end Code

/-! ## The rewrite of the spec -/

section Spec

variable (parseReference : String → Except String Reference)
  (tags : String → Option String)

/-- The tags of the replacements, by base name. -/
def tagsOf (replacements : Replacements) (baseName : String) : Option String :=
  (replacements.get? baseName).map Replacement.tag

/-- The tag the spec gives a base name: the tag of the last build with that image name. -/
def tagFor (builds : List Build.Artifact) (baseName : String) : Option String :=
  (builds.reverse.find? (·.imageName = baseName)).map Build.Artifact.tag

/-- The base name an `image` string value is rewritten from: that of a reference that parses,
is not fully qualified, and has a tag. -/
def rewrittenFrom (image : String) : Option String :=
  match parseReference image with
  | .ok parsed => if !parsed.fullyQualified && (tags parsed.baseName).isSome then
      some parsed.baseName else none
  | .error _ => none

/-- What the spec writes for an `image` string value: the tag of the base name it is rewritten
from, or the value itself. -/
def rewriteImage (image : String) : String :=
  match parseReference image with
  | .ok parsed => if parsed.fullyQualified then image else (tags parsed.baseName).getD image
  | .error _ => image

/-- An `image` value in the spec: a string is rewritten, anything else kept. -/
def rewriteImageValue : Value → Value
  | .str image => .str (rewriteImage parseReference tags image)
  | other => other

/-- The base names an `image` value is rewritten from. -/
def rewrittenFromValue : Value → List String
  | .str image => (rewrittenFrom parseReference tags image).toList
  | _ => []

mutual

/-- The rewrite of the spec: the same tree, keys and values, except that every string under an
`image` key is rewritten. -/
def rewrite : Value → Value
  | .seq items => .seq (rewriteItems items)
  | .map entries => .map (rewriteEntries entries)
  | other => other

/-- `rewrite` on every item of a sequence. -/
def rewriteItems : List Value → List Value
  | [] => []
  | v :: rest => rewrite v :: rewriteItems rest

/-- `rewrite` on the entries of a mapping. -/
def rewriteEntries : List (Value × Value) → List (Value × Value)
  | [] => []
  | (k, v) :: rest =>
      (k, if k.isImageKey then rewriteImageValue parseReference tags v else rewrite v) ::
        rewriteEntries rest

end

mutual

/-- The base names the image values of a tree are rewritten from, in the order of the walk. -/
def rewrittenNames : Value → List String
  | .seq items => rewrittenNamesItems items
  | .map entries => rewrittenNamesEntries entries
  | _ => []

/-- `rewrittenNames` of the items of a sequence. -/
def rewrittenNamesItems : List Value → List String
  | [] => []
  | v :: rest => rewrittenNames v ++ rewrittenNamesItems rest

/-- `rewrittenNames` of the entries of a mapping. -/
def rewrittenNamesEntries : List (Value × Value) → List String
  | [] => []
  | (k, v) :: rest =>
      (if k.isImageKey then rewrittenFromValue parseReference tags v else rewrittenNames v) ++
        rewrittenNamesEntries rest

end

/-- Whether a document decodes to a non-empty mapping. -/
def hasEntries : Value → Bool
  | .map (_ :: _) => true
  | _ => false

end Spec

/-! ## Found flags -/

/-- A replacement, marked found when `flag` holds. -/
def Replacement.mark (img : Replacement) (flag : Bool) : Replacement :=
  { img with found := img.found || flag }

@[simp] theorem Replacement.mark_false (img : Replacement) : img.mark false = img := by
  cases img
  simp [Replacement.mark]

@[simp] theorem Replacement.mark_tag (img : Replacement) (flag : Bool) :
    (img.mark flag).tag = img.tag := rfl

/-- The replacements `after` are `before` with the replacements of `names` marked found. -/
def Marks (before after : Replacements) (names : List String) : Prop :=
  ∀ baseName, after.get? baseName =
    (before.get? baseName).map fun img => img.mark (decide (baseName ∈ names))

theorem Marks.refl (replacements : Replacements) : Marks replacements replacements [] := by
  intro baseName
  cases replacements.get? baseName <;> simp

theorem Marks.trans {first second third : Replacements} {names more : List String}
    (marked : Marks first second names) (marks : Marks second third more) :
    Marks first third (names ++ more) := by
  intro baseName
  rw [marks, marked]
  cases first.get? baseName <;> simp [Replacement.mark, Bool.or_assoc]

theorem Marks.tagsOf {before after : Replacements} {names : List String}
    (marked : Marks before after names) : tagsOf after = tagsOf before := by
  funext baseName
  simp only [Deploy.tagsOf, marked baseName, Option.map_map]
  rfl

/-! ## The walk is the rewrite of the spec -/

section Walk

variable (parseReference : String → Except String Reference)

/-- The `image` case of the walk writes what the spec writes, and marks found the base name it
rewrites from. -/
theorem replaceImage_spec (image : String) (replacements : Replacements) :
    (replaceImage parseReference image replacements).1 =
        rewriteImage parseReference (tagsOf replacements) image ∧
      Marks replacements (replaceImage parseReference image replacements).2
        (rewrittenFrom parseReference (tagsOf replacements) image).toList := by
  unfold replaceImage rewriteImage rewrittenFrom
  cases parseReference image with
  | error _ => exact ⟨rfl, Marks.refl _⟩
  | ok parsed =>
      dsimp only
      cases qualified : parsed.fullyQualified
      · cases stored : replacements.get? parsed.baseName with
        | none => simpa [tagsOf, stored] using Marks.refl replacements
        | some img =>
            refine ⟨by simp [tagsOf, stored], fun baseName => ?_⟩
            by_cases same : parsed.baseName = baseName
            · subst same
              simp [stored, tagsOf, Replacement.mark]
            · simp [same, tagsOf, stored, Ne.symm same]
      · exact ⟨rfl, Marks.refl _⟩

mutual

/-- **The walk is the rewrite of the spec.** Whenever `recursiveReplaceImage` returns normally,
the tree it leaves is the spec's rewrite with the tags of the replacements, and the
replacements are marked found for exactly the base names an image value was rewritten from. -/
theorem recursiveReplaceImage_spec : ∀ (v : Value) (before after : Replacements) (v' : Value),
    recursiveReplaceImage parseReference v before = .ok (v', after) →
      v' = rewrite parseReference (tagsOf before) v ∧
        Marks before after (rewrittenNames parseReference (tagsOf before) v)
  | .seq items, before, after, v', walked => by
      obtain ⟨⟨items', after'⟩, walkedItems, done⟩ := bind_eq_ok.mp walked
      obtain ⟨rfl, rfl⟩ := Prod.mk.inj (pure_eq_ok.mp done)
      obtain ⟨rewritten, marked⟩ := replaceItems_spec items before after' items' walkedItems
      exact ⟨by rw [rewritten]; rfl, marked⟩
  | .map entries, before, after, v', walked => by
      obtain ⟨⟨entries', after'⟩, walkedEntries, done⟩ := bind_eq_ok.mp walked
      obtain ⟨rfl, rfl⟩ := Prod.mk.inj (pure_eq_ok.mp done)
      obtain ⟨rewritten, marked⟩ :=
        replaceEntries_spec entries before after' entries' walkedEntries
      exact ⟨by rw [rewritten]; rfl, marked⟩
  | .str _, _, _, _, walked | .int _, _, _, _, walked | .bool _, _, _, _, walked
  | .null, _, _, _, walked => by
      obtain ⟨rfl, rfl⟩ := Prod.mk.inj (pure_eq_ok.mp walked)
      exact ⟨rfl, Marks.refl _⟩

/-- The walk over a sequence is the rewrite of its items. -/
theorem replaceItems_spec : ∀ (items : List Value) (before after : Replacements)
    (items' : List Value),
    replaceItems parseReference items before = .ok (items', after) →
      items' = rewriteItems parseReference (tagsOf before) items ∧
        Marks before after (rewrittenNamesItems parseReference (tagsOf before) items)
  | [], _, _, _, walked => by
      obtain ⟨rfl, rfl⟩ := Prod.mk.inj (pure_eq_ok.mp walked)
      exact ⟨rfl, Marks.refl _⟩
  | v :: rest, before, after, items', walked => by
      obtain ⟨⟨v', middle⟩, walkedHead, walked⟩ := bind_eq_ok.mp walked
      obtain ⟨⟨rest', after'⟩, walkedRest, done⟩ := bind_eq_ok.mp walked
      obtain ⟨rfl, rfl⟩ := Prod.mk.inj (pure_eq_ok.mp done)
      obtain ⟨rewritten, marked⟩ := recursiveReplaceImage_spec v before middle v' walkedHead
      obtain ⟨rewrittenRest, markedRest⟩ := replaceItems_spec rest middle after' rest' walkedRest
      rw [marked.tagsOf] at rewrittenRest markedRest
      exact ⟨by rw [rewritten, rewrittenRest]; rfl, marked.trans markedRest⟩

/-- The walk over a mapping is the rewrite of its entries. -/
theorem replaceEntries_spec : ∀ (entries : List (Value × Value)) (before after : Replacements)
    (entries' : List (Value × Value)),
    replaceEntries parseReference entries before = .ok (entries', after) →
      entries' = rewriteEntries parseReference (tagsOf before) entries ∧
        Marks before after (rewrittenNamesEntries parseReference (tagsOf before) entries)
  | [], _, _, _, walked => by
      obtain ⟨rfl, rfl⟩ := Prod.mk.inj (pure_eq_ok.mp walked)
      exact ⟨rfl, Marks.refl _⟩
  | (k, v) :: rest, before, after, entries', walked => by
      obtain ⟨key, keyed, walked⟩ := bind_eq_ok.mp walked
      obtain rfl := Value.eq_of_asString keyed
      obtain ⟨⟨v', middle⟩, walkedValue, walked⟩ := bind_eq_ok.mp walked
      obtain ⟨⟨rest', after'⟩, walkedRest, done⟩ := bind_eq_ok.mp walked
      obtain ⟨rfl, rfl⟩ := Prod.mk.inj (pure_eq_ok.mp done)
      have value : v' = (if (Value.str key).isImageKey then
            rewriteImageValue parseReference (tagsOf before) v
          else rewrite parseReference (tagsOf before) v) ∧
          Marks before middle (if (Value.str key).isImageKey then
            rewrittenFromValue parseReference (tagsOf before) v
          else rewrittenNames parseReference (tagsOf before) v) := by
        by_cases image : key = "image"
        · subst image
          simp only [ne_eq, not_true_eq_false, if_false, replaceImageValue] at walkedValue
          obtain ⟨image, imaged, done⟩ := bind_eq_ok.mp walkedValue
          obtain rfl := Value.eq_of_asString imaged
          have spec := replaceImage_spec parseReference image before
          obtain ⟨rfl, rfl⟩ := Prod.mk.inj (pure_eq_ok.mp done)
          exact ⟨by simp [Value.isImageKey, rewriteImageValue, spec.1],
            by simpa [Value.isImageKey, rewrittenFromValue] using spec.2⟩
        · simp only [ne_eq, image, not_false_eq_true, if_true] at walkedValue
          have other : (Value.str key).isImageKey = false := by simp [Value.isImageKey, image]
          simpa [other] using recursiveReplaceImage_spec v before middle v' walkedValue
      obtain ⟨rewrittenRest, markedRest⟩ :=
        replaceEntries_spec rest middle after' rest' walkedRest
      rw [value.2.tagsOf] at rewrittenRest markedRest
      exact ⟨by rw [value.1, rewrittenRest]; rfl, value.2.trans markedRest⟩

end

/-! ### The documents and the builds -/

theorem get?_foldl_set (builds : List Build.Artifact) (start : Replacements) (baseName : String) :
    (builds.foldl (fun replacements build =>
        replacements.set build.imageName { tag := build.tag }) start).get? baseName =
      match builds.reverse.find? (·.imageName = baseName) with
      | some build => some { tag := build.tag }
      | none => start.get? baseName := by
  induction builds generalizing start with
  | nil => rfl
  | cons build rest ih =>
      rw [List.foldl_cons, ih, List.reverse_cons, List.find?_append]
      cases rest.reverse.find? (·.imageName = baseName) with
      | some last => rfl
      | none => by_cases same : build.imageName = baseName <;> simp [same]

/-- The replacements of the builds are the tags the spec gives the base names. -/
theorem tagsOf_newReplacements (builds : List Build.Artifact) :
    tagsOf (newReplacements builds) = tagFor builds := by
  funext baseName
  simp only [tagsOf, newReplacements, get?_foldl_set, tagFor]
  cases builds.reverse.find? (·.imageName = baseName) <;> rfl

/-- No replacement of the builds starts found. -/
theorem newReplacements_get? (builds : List Build.Artifact) (baseName : String) :
    (newReplacements builds).get? baseName =
      (tagFor builds baseName).map fun tag => { tag } := by
  simp only [newReplacements, get?_foldl_set, tagFor]
  cases builds.reverse.find? (·.imageName = baseName) <;> rfl

theorem tagFor_eq_none {builds : List Build.Artifact} {baseName : String} :
    tagFor builds baseName = none ↔ baseName ∉ imageNames builds := by
  simp [tagFor, Build.imageNames]

/-- What one round of the loop over the documents does when the loop returns normally: an empty
document is skipped, and a non-empty mapping is walked before the rest. -/
theorem replaceManifests_cons {manifest : Value} {rest : List Value} {before after : Replacements}
    {updated : List Value}
    (walked : replaceManifests parseReference (manifest :: rest) before = .ok (updated, after)) :
    ((manifest = .null ∨ manifest = .map []) ∧
        replaceManifests parseReference rest before = .ok (updated, after)) ∨
      ∃ doc middle rest', hasEntries manifest = true ∧
        recursiveReplaceImage parseReference manifest before = .ok (doc, middle) ∧
        replaceManifests parseReference rest middle = .ok (rest', after) ∧
        updated = doc :: rest' := by
  cases manifest with
  | map entries =>
      cases entries with
      | nil => exact .inl ⟨.inr rfl, by simpa [replaceManifests, unmarshalMap] using walked⟩
      | cons entry more =>
          simp only [replaceManifests, unmarshalMap, List.isEmpty_cons, Bool.false_eq_true,
            if_false] at walked
          obtain ⟨⟨doc, middle⟩, walkedDoc, walked⟩ := bind_eq_ok.mp walked
          obtain ⟨⟨rest', after'⟩, walkedRest, done⟩ := bind_eq_ok.mp walked
          obtain ⟨rfl, rfl⟩ := Prod.mk.inj (pure_eq_ok.mp done)
          exact .inr ⟨doc, middle, rest', rfl, walkedDoc, walkedRest, rfl⟩
  | null => exact .inl ⟨.inl rfl, by simpa [replaceManifests, unmarshalMap] using walked⟩
  | str _ | int _ | bool _ | seq _ => simp [replaceManifests, unmarshalMap] at walked

/-- The loop over the documents rewrites, in order, the documents that decode to a non-empty
mapping, and marks found the base names their image values are rewritten from. -/
theorem replaceManifests_spec (l : List Value) : ∀ (before after : Replacements)
    (updated : List Value),
    replaceManifests parseReference l before = .ok (updated, after) →
      updated = (l.filter hasEntries).map (rewrite parseReference (tagsOf before)) ∧
        Marks before after (l.flatMap (rewrittenNames parseReference (tagsOf before))) := by
  induction l with
  | nil =>
      intro before after updated walked
      obtain ⟨rfl, rfl⟩ := Prod.mk.inj (pure_eq_ok.mp walked)
      exact ⟨rfl, Marks.refl _⟩
  | cons manifest rest ih =>
      intro before after updated walked
      rcases replaceManifests_cons parseReference walked with
        ⟨skipped, walkedRest⟩ | ⟨doc, middle, rest', entries, walkedDoc, walkedRest, rfl⟩
      · obtain ⟨rewritten, marked⟩ := ih before after updated walkedRest
        rcases skipped with rfl | rfl <;>
          exact ⟨by simpa [hasEntries] using rewritten,
            by simpa [rewrittenNames, rewrittenNamesEntries] using marked⟩
      · obtain ⟨rewritten, marked⟩ :=
          recursiveReplaceImage_spec parseReference _ before middle doc walkedDoc
        obtain ⟨rewrittenRest, markedRest⟩ := ih middle after rest' walkedRest
        rw [marked.tagsOf] at rewrittenRest markedRest
        exact ⟨by simp [entries, rewritten, rewrittenRest], marked.trans markedRest⟩

/-- **The transformer rewrites the image values the spec names, and warns about the others.**
Whenever `replaceImages` returns normally, its documents are, in order, the spec's rewrite of
the input documents that decode to a non-empty mapping, with the tag of the last build of each
image name; and it warns about exactly the image names of the builds that no image value of any
document was rewritten from: a replacement ends found exactly when it was used. -/
theorem replaceImages_spec (l : List Value) (builds : List Build.Artifact)
    (updated : List Value) (unused : List String)
    (replaced : replaceImages parseReference l builds = .ok (updated, unused)) :
    updated = (l.filter hasEntries).map (rewrite parseReference (tagFor builds)) ∧
      ∀ baseName, baseName ∈ unused ↔ baseName ∈ imageNames builds ∧
        ∀ doc ∈ l, baseName ∉ rewrittenNames parseReference (tagFor builds) doc := by
  obtain ⟨⟨updated', replacements⟩, walked, done⟩ := bind_eq_ok.mp replaced
  obtain ⟨rfl, rfl⟩ := Prod.mk.inj (pure_eq_ok.mp done)
  obtain ⟨rewritten, marked⟩ := replaceManifests_spec parseReference l _ _ _ walked
  rw [tagsOf_newReplacements] at rewritten marked
  refine ⟨rewritten, fun baseName => ?_⟩
  have stored := marked baseName
  rw [newReplacements_get?] at stored
  simp only [List.mem_map, List.mem_filter, Bool.not_eq_true']
  constructor
  · rintro ⟨⟨name, img⟩, ⟨member, unfound⟩, rfl⟩
    rw [GoMap.get?_eq_some.mpr member] at stored
    cases tagged : tagFor builds name with
    | none => simp [tagged] at stored
    | some tag =>
        simp only [tagged, Option.map_some', Option.some.injEq] at stored
        simp only [stored, Replacement.mark, Bool.false_or, decide_eq_false_iff_not] at unfound
        refine ⟨not_not.mp (mt tagFor_eq_none.mpr (by simp [tagged])), fun doc member used => ?_⟩
        exact unfound (List.mem_flatMap.mpr ⟨doc, member, used⟩)
  · rintro ⟨built, unused⟩
    obtain ⟨tag, tagged⟩ := Option.ne_none_iff_exists'.mp (mt tagFor_eq_none.mp (not_not.mpr built))
    have never : baseName ∉ l.flatMap (rewrittenNames parseReference (tagFor builds)) := by
      simpa [List.mem_flatMap] using unused
    rw [tagged] at stored
    refine ⟨(baseName, { tag }), ⟨GoMap.get?_eq_some.mp (by simpa [never] using stored), ?_⟩, rfl⟩
    rfl

end Walk

/-! ## When the walk panics -/

section Panics

variable (parseReference : String → Except String Reference)

mutual

/-- **The walk returns normally exactly on the trees whose type assertions hold**, and panics
on every other tree. -/
theorem recursiveReplaceImage_cases : ∀ (v : Value) (replacements : Replacements),
    (v.assertable = true ∧
        ∃ result, recursiveReplaceImage parseReference v replacements = .ok result) ∨
      (v.assertable = false ∧
        ∃ reason, recursiveReplaceImage parseReference v replacements = .error (.panic reason))
  | .seq items, replacements => by
      rcases replaceItems_cases items replacements with
        ⟨holds, result, walked⟩ | ⟨fails, reason, walked⟩
      · exact .inl ⟨holds, _, by simp only [recursiveReplaceImage, walked, ok_bind]; rfl⟩
      · exact .inr ⟨fails, reason, by simp only [recursiveReplaceImage, walked, error_bind]⟩
  | .map entries, replacements => by
      rcases replaceEntries_cases entries replacements with
        ⟨holds, result, walked⟩ | ⟨fails, reason, walked⟩
      · exact .inl ⟨holds, _, by simp only [recursiveReplaceImage, walked, ok_bind]; rfl⟩
      · exact .inr ⟨fails, reason, by simp only [recursiveReplaceImage, walked, error_bind]⟩
  | .str _, _ | .int _, _ | .bool _, _ | .null, _ => .inl ⟨rfl, _, rfl⟩

/-- The walk over a sequence returns normally exactly when every item's assertions hold. -/
theorem replaceItems_cases : ∀ (items : List Value) (replacements : Replacements),
    (Value.assertableItems items = true ∧
        ∃ result, replaceItems parseReference items replacements = .ok result) ∨
      (Value.assertableItems items = false ∧
        ∃ reason, replaceItems parseReference items replacements = .error (.panic reason))
  | [], _ => .inl ⟨rfl, _, rfl⟩
  | v :: rest, replacements => by
      rcases recursiveReplaceImage_cases v replacements with
        ⟨holds, ⟨v', middle⟩, walked⟩ | ⟨fails, reason, walked⟩
      · rcases replaceItems_cases rest middle with
          ⟨holdsRest, result, walkedRest⟩ | ⟨failsRest, reason, walkedRest⟩
        · exact .inl ⟨by simp [Value.assertableItems, holds, holdsRest], _,
            by simp only [replaceItems, walked, ok_bind, walkedRest]; rfl⟩
        · exact .inr ⟨by simp [Value.assertableItems, failsRest], reason,
            by simp only [replaceItems, walked, ok_bind, walkedRest, error_bind]⟩
      · exact .inr ⟨by simp [Value.assertableItems, fails], reason,
          by simp only [replaceItems, walked, error_bind]⟩

/-- The walk over a mapping returns normally exactly when every key is a string, every `image`
value is a string, and the assertions below the other keys hold. -/
theorem replaceEntries_cases : ∀ (entries : List (Value × Value)) (replacements : Replacements),
    (Value.assertableEntries entries = true ∧
        ∃ result, replaceEntries parseReference entries replacements = .ok result) ∨
      (Value.assertableEntries entries = false ∧
        ∃ reason, replaceEntries parseReference entries replacements = .error (.panic reason))
  | [], _ => .inl ⟨rfl, _, rfl⟩
  | (.str key, v) :: rest, replacements => by
      -- the assertion on the value, and the walk below it
      have value : ((if (Value.str key).isImageKey then v.isString else v.assertable) = true ∧
            ∃ result, (if key ≠ "image" then recursiveReplaceImage parseReference v replacements
              else replaceImageValue parseReference v replacements) = .ok result) ∨
          ((if (Value.str key).isImageKey then v.isString else v.assertable) = false ∧
            ∃ reason, (if key ≠ "image" then recursiveReplaceImage parseReference v replacements
              else replaceImageValue parseReference v replacements) = .error (.panic reason)) := by
        by_cases image : key = "image"
        · subst image
          cases v with
          | str _ => exact .inl ⟨rfl, _, rfl⟩
          | int _ | bool _ | null | seq _ | map _ => exact .inr ⟨rfl, _, rfl⟩
        · have other : (Value.str key).isImageKey = false := by simp [Value.isImageKey, image]
          simpa [other, image] using recursiveReplaceImage_cases v replacements
      rcases value with ⟨holds, ⟨v', middle⟩, walked⟩ | ⟨fails, reason, walked⟩
      · rcases replaceEntries_cases rest middle with
          ⟨holdsRest, result, walkedRest⟩ | ⟨failsRest, reason, walkedRest⟩
        · exact .inl ⟨by simp only [Value.assertableEntries, holds, holdsRest, Bool.and_true]; rfl,
            _,
            by simp only [replaceEntries, Value.asString_str, ok_bind, walked, walkedRest]; rfl⟩
        · exact .inr ⟨by simp [Value.assertableEntries, failsRest], reason,
            by simp only [replaceEntries, Value.asString_str, ok_bind, walked, walkedRest,
              error_bind]⟩
      · exact .inr ⟨by simp [Value.assertableEntries, fails], reason,
          by simp only [replaceEntries, Value.asString_str, ok_bind, walked, error_bind]⟩
  | (.int _, _) :: _, _ | (.bool _, _) :: _, _ | (.null, _) :: _, _ | (.seq _, _) :: _, _
  | (.map _, _) :: _, _ => .inr ⟨rfl, _, rfl⟩

end

/-- Three manifests of well-formed YAML: a mapping with an integer key (`80: http`), a
structured `image` value (`image: {repository: app}`), and a document that is a sequence. The
first two make `replaceImages` panic, and the third makes the whole list fail with the decoding
error, whatever the builds and the reference parser. -/
theorem replaceImages_fails_on_shapes (builds : List Build.Artifact) :
    replaceImages parseReference [.map [(.int 80, .str "http")]] builds =
        .error (.panic "interface conversion: interface \x7b\x7d is int, not string") ∧
      replaceImages parseReference
          [.map [(.str "image", .map [(.str "repository", .str "app")])]] builds =
        .error (.panic ("interface conversion: interface \x7b\x7d is " ++
          "map[interface \x7b\x7d]interface \x7b\x7d, not string")) ∧
      ∃ err, replaceImages parseReference [.seq [.str "app"]] builds =
        .error (.error (wrapError "reading kubernetes YAML" err)) :=
  ⟨rfl, rfl, _, rfl⟩

end Panics

/-- Scenario S4 of the spec: a manifest with `image: myapp` and a digest reference, and a build
of `myapp` tagged `myapp:abc`, under a parser that takes a digest reference as fully
qualified. -/
theorem tag_rewrite_scenario :
    let parse : String → Except String Reference := fun image =>
      if image = "registry/other@sha256:abc" then .ok ⟨"registry/other", true⟩
      else .ok ⟨image, false⟩
    let manifest : Value := .map [(.str "spec", .map [(.str "containers", .seq [
      .map [(.str "image", .str "myapp")],
      .map [(.str "image", .str "registry/other@sha256:abc")]])])]
    let builds : List Build.Artifact := [⟨"myapp", "myapp:abc"⟩]
    replaceImages parse [manifest] builds = .ok ([.map [(.str "spec", .map [(.str "containers",
        .seq [.map [(.str "image", .str "myapp:abc")],
          .map [(.str "image", .str "registry/other@sha256:abc")]])])]], []) ∧
      [.map [(.str "spec", .map [(.str "containers", .seq [
          .map [(.str "image", .str "myapp:abc")],
          .map [(.str "image", .str "registry/other@sha256:abc")]])])]] =
        ([manifest].filter hasEntries).map (rewrite parse (tagFor builds)) ∧
      ∀ baseName, baseName ∈ ([] : List String) ↔ baseName ∈ imageNames builds ∧
        ∀ doc ∈ [manifest], baseName ∉ rewrittenNames parse (tagFor builds) doc :=
  ⟨rfl, replaceImages_spec _ _ _ _ _ rfl⟩

end Skaffold.Deploy
