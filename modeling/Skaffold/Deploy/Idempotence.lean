import Skaffold.Deploy.ReplaceImages

/-!
# Replacing the images twice

Run again on its own output with the same builds, `replaceImages` leaves the documents as they
are when the tags it writes are left alone by the rewrite: every tag a base name is rewritten to
is a fixed point of `rewriteImage`. A tag is left alone when it is a fully qualified reference,
as the build results of the spec are, when it does not parse, or when it is rewritten to itself
(an `app:latest` tag of `app`).

Under that condition the spec's rewrite is idempotent (`rewrite_rewrite`), and it keeps the
shape of the tree, so a tree the walk accepted is accepted again (`assertable_rewrite`). The
walk is the rewrite (`recursiveReplaceImage_spec`), so `recursiveReplaceImage` with the
replacements of the builds gives back every tree it returned (`recursiveReplaceImage_twice`),
and `replaceImages` returns normally on its own output with the same documents
(`replaceImages_idempotent`).

Under `docker.ParseReference` as the spec describes it (`specParseReference`), tags with a
digest, as the spec's build results carry, meet the condition (`digest_tags_stable`).

The condition cannot be dropped: a tag the rewrite moves, written for a base name that parses
as a bare reference to itself, is written by `replaceImages` into `image: baseName`, and
replacing the images of that output again changes it (`unstable_tag_rewritten_again`). With a
build of `app` tagged `web` and a build of `web` tagged `web:1.0`, `image: app` becomes
`image: web` and then `image: web:1.0` (`retagged_image_rewritten_again`).
-/

set_option autoImplicit false

namespace Skaffold.Deploy

/-! ## The rewrite of a rewritten tree -/

section Rewrite

variable (parseReference : String → Except String Reference)
  (tags : String → Option String)

/-- An `image` string is rewritten to itself or to the tag of some base name. -/
theorem rewriteImage_cases (image : String) :
    rewriteImage parseReference tags image = image ∨
      ∃ baseName tag, tags baseName = some tag ∧ rewriteImage parseReference tags image = tag := by
  unfold rewriteImage
  cases parseReference image with
  | error _ => exact .inl rfl
  | ok parsed =>
      dsimp only
      split
      · exact .inl rfl
      · cases tagged : tags parsed.baseName with
        | none => exact .inl rfl
        | some tag => exact .inr ⟨_, tag, tagged, rfl⟩

theorem rewriteImage_rewriteImage
    (stable : ∀ baseName tag, tags baseName = some tag →
      rewriteImage parseReference tags tag = tag) (image : String) :
    rewriteImage parseReference tags (rewriteImage parseReference tags image) =
      rewriteImage parseReference tags image := by
  rcases rewriteImage_cases parseReference tags image with kept | ⟨baseName, tag, tagged, moved⟩
  · rw [kept, kept]
  · rw [moved, stable baseName tag tagged]

theorem rewriteImageValue_rewriteImageValue
    (stable : ∀ baseName tag, tags baseName = some tag →
      rewriteImage parseReference tags tag = tag) (v : Value) :
    rewriteImageValue parseReference tags (rewriteImageValue parseReference tags v) =
      rewriteImageValue parseReference tags v := by
  cases v with
  | str image => simp only [rewriteImageValue, rewriteImage_rewriteImage parseReference tags stable]
  | int _ | bool _ | null | seq _ | map _ => rfl

@[simp] theorem isString_rewriteImageValue (v : Value) :
    (rewriteImageValue parseReference tags v).isString = v.isString := by
  cases v <;> rfl

@[simp] theorem hasEntries_rewrite (v : Value) :
    hasEntries (rewrite parseReference tags v) = hasEntries v := by
  cases v with
  | map entries => cases entries <;> rfl
  | str _ | int _ | bool _ | null | seq _ => rfl

mutual

/-- **The rewrite is idempotent** when every tag it writes is left alone by it. -/
theorem rewrite_rewrite
    (stable : ∀ baseName tag, tags baseName = some tag →
      rewriteImage parseReference tags tag = tag) :
    ∀ v : Value, rewrite parseReference tags (rewrite parseReference tags v) =
      rewrite parseReference tags v
  | .seq items => by simp only [rewrite, rewriteItems_rewriteItems stable items]
  | .map entries => by simp only [rewrite, rewriteEntries_rewriteEntries stable entries]
  | .str _ | .int _ | .bool _ | .null => rfl

theorem rewriteItems_rewriteItems
    (stable : ∀ baseName tag, tags baseName = some tag →
      rewriteImage parseReference tags tag = tag) :
    ∀ items : List Value,
      rewriteItems parseReference tags (rewriteItems parseReference tags items) =
        rewriteItems parseReference tags items
  | [] => rfl
  | v :: rest => by
      simp only [rewriteItems, rewrite_rewrite stable v, rewriteItems_rewriteItems stable rest]

theorem rewriteEntries_rewriteEntries
    (stable : ∀ baseName tag, tags baseName = some tag →
      rewriteImage parseReference tags tag = tag) :
    ∀ entries : List (Value × Value),
      rewriteEntries parseReference tags (rewriteEntries parseReference tags entries) =
        rewriteEntries parseReference tags entries
  | [] => rfl
  | (k, v) :: rest => by
      simp only [rewriteEntries, rewriteEntries_rewriteEntries stable rest]
      cases k.isImageKey
      · simp only [Bool.false_eq_true, if_false, rewrite_rewrite stable v]
      · simp only [if_true, rewriteImageValue_rewriteImageValue parseReference tags stable]

end

mutual

/-- **The rewrite keeps what the walk asserts**: the keys, and the strings under `image`. -/
theorem assertable_rewrite :
    ∀ v : Value, (rewrite parseReference tags v).assertable = v.assertable
  | .seq items => by
      simp only [rewrite, Value.assertable, assertableItems_rewriteItems items]
  | .map entries => by
      simp only [rewrite, Value.assertable, assertableEntries_rewriteEntries entries]
  | .str _ | .int _ | .bool _ | .null => rfl

theorem assertableItems_rewriteItems :
    ∀ items : List Value,
      Value.assertableItems (rewriteItems parseReference tags items) = Value.assertableItems items
  | [] => rfl
  | v :: rest => by
      simp only [rewriteItems, Value.assertableItems, assertable_rewrite v,
        assertableItems_rewriteItems rest]

theorem assertableEntries_rewriteEntries :
    ∀ entries : List (Value × Value),
      Value.assertableEntries (rewriteEntries parseReference tags entries) =
        Value.assertableEntries entries
  | [] => rfl
  | (k, v) :: rest => by
      simp only [rewriteEntries, Value.assertableEntries, assertableEntries_rewriteEntries rest]
      cases k.isImageKey
      · simp only [Bool.false_eq_true, if_false, assertable_rewrite v]
      · simp only [if_true, isString_rewriteImageValue]

end

end Rewrite

/-! ## References as the spec describes them -/

/-- `docker.ParseReference`, modelled from the spec: a reference is fully qualified when it
carries a digest, after `@`, or an explicit tag other than `latest`, after a `:` that no `/`
follows; its base name is what stands before them. The empty reference does not parse. -/
def specParseReference (image : String) : Except String Reference :=
  match image.toList with
  | [] => .error "invalid reference format"
  | chars =>
      let name := chars.takeWhile (· ≠ '@')
      let tag := name.reverse.takeWhile fun c => c ≠ ':' && c ≠ '/'
      let tagged := name.reverse.get? tag.length == some ':'
      .ok { baseName :=
              String.mk (if tagged then (name.reverse.drop (tag.length + 1)).reverse else name)
            fullyQualified :=
              name.length < chars.length || (tagged && tag.reverse != "latest".toList) }

/-- A reference with a digest is fully qualified. -/
theorem specParseReference_digest {image : String} (digested : '@' ∈ image.toList) :
    ∃ baseName, specParseReference image = .ok ⟨baseName, true⟩ := by
  have shorter : (image.toList.takeWhile (· ≠ '@')).length < image.toList.length := by
    refine lt_of_le_of_ne (List.takeWhile_prefix _).length_le fun same => ?_
    have all := List.takeWhile_eq_self_iff.mp ((List.takeWhile_prefix _).eq_of_length same)
    simpa using all '@' digested
  have nonempty : image.toList ≠ [] := List.ne_nil_of_mem digested
  unfold specParseReference
  split
  next empty => exact absurd empty nonempty
  next => exact ⟨_, by simp only [shorter, decide_True, Bool.true_or]; rfl⟩

/-- Tags with a digest, as the spec's build results carry, are left alone by the rewrite. -/
theorem digest_tags_stable (builds : List Build.Artifact)
    (digested : ∀ build ∈ builds, '@' ∈ build.tag.toList) :
    ∀ baseName tag, tagFor builds baseName = some tag →
      rewriteImage specParseReference (tagFor builds) tag = tag := by
  intro baseName tag tagged
  obtain ⟨build, found, rfl⟩ := Option.map_eq_some'.mp tagged
  obtain ⟨reference, parsed⟩ := specParseReference_digest
    (digested build (List.mem_reverse.mp (List.mem_of_find?_eq_some found)))
  simp [rewriteImage, parsed]

/-! ## The walk and the transformer run twice -/

section Twice

variable (parseReference : String → Except String Reference)

theorem assertable_of_walk {v : Value} {before : Replacements} {result : Value × Replacements}
    (walked : recursiveReplaceImage parseReference v before = .ok result) :
    v.assertable = true := by
  rcases recursiveReplaceImage_cases parseReference v before with ⟨holds, -⟩ | ⟨-, _, panicked⟩
  · exact holds
  · rw [walked] at panicked
    cases panicked

theorem walk_of_assertable {v : Value} (holds : v.assertable = true) (before : Replacements) :
    ∃ result, recursiveReplaceImage parseReference v before = .ok result := by
  rcases recursiveReplaceImage_cases parseReference v before with ⟨-, accepted⟩ | ⟨fails, -⟩
  · exact accepted
  · rw [holds] at fails
    cases fails

/-- **The walk gives back the trees it returns.** With replacements whose tags the rewrite
leaves alone, walking a tree the walk returned returns that tree. -/
theorem recursiveReplaceImage_twice {v v' : Value} {before after : Replacements}
    (stable : ∀ baseName tag, tagsOf before baseName = some tag →
      rewriteImage parseReference (tagsOf before) tag = tag)
    (walked : recursiveReplaceImage parseReference v before = .ok (v', after)) :
    ∃ again, recursiveReplaceImage parseReference v' before = .ok (v', again) := by
  obtain ⟨rewritten, -⟩ := recursiveReplaceImage_spec parseReference v before after v' walked
  have holds : v'.assertable = true := by
    rw [rewritten, assertable_rewrite]
    exact assertable_of_walk parseReference walked
  obtain ⟨⟨v'', again⟩, walkedAgain⟩ := walk_of_assertable parseReference holds before
  obtain ⟨rewrittenAgain, -⟩ :=
    recursiveReplaceImage_spec parseReference v' before again v'' walkedAgain
  refine ⟨again, ?_⟩
  rw [walkedAgain, rewrittenAgain, rewritten, rewrite_rewrite _ _ stable]

/-- The loop over the documents walks every document that decodes to a non-empty mapping, so
each of them passes the walk's assertions. -/
theorem replaceManifests_assertable (l : List Value) :
    ∀ (before : Replacements) {result : List Value × Replacements},
      replaceManifests parseReference l before = .ok result →
        ∀ doc ∈ l, hasEntries doc → doc.assertable = true := by
  induction l with
  | nil => intro _ _ _ doc member; cases member
  | cons manifest rest ih =>
      intro before ⟨updated, after⟩ walked doc member entries
      rcases replaceManifests_cons parseReference walked with
        ⟨skipped, walkedRest⟩ | ⟨_, middle, _, -, walkedDoc, walkedRest, -⟩
      · rcases List.mem_cons.mp member with rfl | later
        · rcases skipped with rfl | rfl <;> cases entries
        · exact ih before walkedRest doc later entries
      · rcases List.mem_cons.mp member with rfl | later
        · exact assertable_of_walk parseReference walkedDoc
        · exact ih middle walkedRest doc later entries

/-- The loop over the documents returns normally on non-empty mappings that pass the walk's
assertions. -/
theorem replaceManifests_of_assertable {l : List Value}
    (shaped : ∀ doc ∈ l, hasEntries doc = true ∧ doc.assertable = true) (before : Replacements) :
    ∃ result, replaceManifests parseReference l before = .ok result := by
  induction l generalizing before with
  | nil => exact ⟨_, rfl⟩
  | cons doc rest ih =>
      obtain ⟨entries, holds⟩ := shaped doc (List.mem_cons_self _ _)
      obtain ⟨⟨doc', middle⟩, walked⟩ := walk_of_assertable parseReference holds before
      obtain ⟨⟨rest', after⟩, walkedRest⟩ :=
        ih (fun other member => shaped other (List.mem_cons_of_mem _ member)) middle
      refine ⟨(doc' :: rest', after), ?_⟩
      match doc, entries, walked with
      | .map (entry :: more), _, walked =>
          simp only [replaceManifests, unmarshalMap, List.isEmpty_cons, Bool.false_eq_true,
            if_false, walked, ok_bind, walkedRest]
          rfl

/-- **Replacing the images twice changes nothing more**, for every reference parser, when every
tag of the builds is left alone by the rewrite. Whenever `replaceImages` returns normally, it
returns normally on its own documents, with the same builds, and gives them back unchanged; and
`recursiveReplaceImage` with the replacements of the builds gives back every tree it returns. -/
theorem replaceImages_idempotent (builds : List Build.Artifact)
    (stable : ∀ baseName tag, tagFor builds baseName = some tag →
      rewriteImage parseReference (tagFor builds) tag = tag) :
    (∀ (l updated : List Value) (unused : List String),
        replaceImages parseReference l builds = .ok (updated, unused) →
          ∃ unused', replaceImages parseReference updated builds = .ok (updated, unused')) ∧
      ∀ (v v' : Value) (after : Replacements),
        recursiveReplaceImage parseReference v (newReplacements builds) = .ok (v', after) →
          ∃ again,
            recursiveReplaceImage parseReference v' (newReplacements builds) = .ok (v', again) := by
  have stable' := (tagsOf_newReplacements builds).symm ▸ stable
  refine ⟨fun l updated unused replaced => ?_,
    fun v v' after walked => recursiveReplaceImage_twice parseReference stable' walked⟩
  obtain ⟨⟨docs, replacements⟩, walked, done⟩ := bind_eq_ok.mp replaced
  obtain ⟨rfl, rfl⟩ := Prod.mk.inj (pure_eq_ok.mp done)
  obtain ⟨rewritten, -⟩ := replaceManifests_spec parseReference l _ _ _ walked
  rw [tagsOf_newReplacements] at rewritten
  have shaped : ∀ doc ∈ docs, hasEntries doc = true ∧ doc.assertable = true := by
    intro doc member
    rw [rewritten] at member
    obtain ⟨original, kept, rfl⟩ := List.mem_map.mp member
    obtain ⟨inL, entries⟩ := List.mem_filter.mp kept
    refine ⟨by rw [hasEntries_rewrite]; exact entries, ?_⟩
    rw [assertable_rewrite]
    exact replaceManifests_assertable parseReference l _ walked _ inL entries
  have fixed : ∀ doc ∈ docs, rewrite parseReference (tagFor builds) doc = doc := by
    intro doc member
    rw [rewritten] at member
    obtain ⟨original, -, rfl⟩ := List.mem_map.mp member
    exact rewrite_rewrite _ _ stable original
  obtain ⟨⟨docs', replacements'⟩, walkedAgain⟩ :=
    replaceManifests_of_assertable parseReference shaped (newReplacements builds)
  obtain ⟨rewrittenAgain, -⟩ := replaceManifests_spec parseReference docs _ _ _ walkedAgain
  rw [tagsOf_newReplacements, List.filter_eq_self.mpr fun doc member => (shaped doc member).1,
    List.map_congr_left fixed, List.map_id'] at rewrittenAgain
  refine ⟨(replacements'.entries.filter fun entry => !entry.2.found).map Prod.fst, ?_⟩
  simp only [replaceImages, walkedAgain, ok_bind, rewrittenAgain]
  rfl

/-- Builds tagged with a digest, as the spec's build results are: the tags are fully qualified,
so the rewrite leaves them alone, and the documents of a run are given back by a second run. -/
theorem digest_tags_idempotent :
    (∀ baseName tag, tagFor [⟨"app", "app@sha256:abc"⟩] baseName = some tag →
        rewriteImage specParseReference (tagFor [⟨"app", "app@sha256:abc"⟩]) tag = tag) ∧
      ∃ unused, replaceImages specParseReference [.map [(.str "image", .str "app@sha256:abc")]]
          [⟨"app", "app@sha256:abc"⟩] =
        .ok ([.map [(.str "image", .str "app@sha256:abc")]], unused) :=
  have stable := digest_tags_stable [⟨"app", "app@sha256:abc"⟩] (by decide)
  ⟨stable, (replaceImages_idempotent specParseReference _ stable).1
    [.map [(.str "image", .str "app")]] _ [] rfl⟩

end Twice

/-! ## When a tag is rewritten again -/

section Again

variable (parseReference : String → Except String Reference)

/-- `replaceImages` on a document with one `image` key writes the spec's rewrite of the value. -/
theorem replaceImages_image (builds : List Build.Artifact) (image : String) :
    ∃ unused, replaceImages parseReference [.map [(.str "image", .str image)]] builds =
      .ok ([.map [(.str "image", .str (rewriteImage parseReference (tagFor builds) image))]],
        unused) := by
  have shaped : ∀ doc ∈ [Value.map [(.str "image", .str image)]],
      hasEntries doc = true ∧ doc.assertable = true := by
    simp [hasEntries, Value.assertable, Value.assertableEntries, Value.isImageKey, Value.isString]
  obtain ⟨⟨updated, after⟩, walked⟩ :=
    replaceManifests_of_assertable parseReference shaped (newReplacements builds)
  obtain ⟨rewritten, -⟩ := replaceManifests_spec parseReference _ _ _ _ walked
  rw [tagsOf_newReplacements] at rewritten
  refine ⟨(after.entries.filter fun entry => !entry.2.found).map Prod.fst, ?_⟩
  simp only [replaceImages, walked, ok_bind, rewritten]
  simp only [hasEntries, List.filter_cons_of_pos, List.filter_nil, List.map_cons, rewrite,
    rewriteEntries, Value.isImageKey, beq_self_eq_true, if_true, rewriteImageValue, List.map_nil]
  rfl

/-- **The condition cannot be dropped.** When the rewrite moves the tag written for a base name
that parses as a bare reference to itself, `replaceImages` writes the tag into
`image: baseName`, and replacing the images of that output again does not give it back. -/
theorem unstable_tag_rewritten_again (builds : List Build.Artifact) {baseName tag : String}
    (tagged : tagFor builds baseName = some tag)
    (bare : parseReference baseName = .ok ⟨baseName, false⟩)
    (moved : rewriteImage parseReference (tagFor builds) tag ≠ tag) :
    (∃ unused, replaceImages parseReference [.map [(.str "image", .str baseName)]] builds =
        .ok ([.map [(.str "image", .str tag)]], unused)) ∧
      ∀ updated unused, replaceImages parseReference [.map [(.str "image", .str tag)]] builds =
        .ok (updated, unused) → updated ≠ [.map [(.str "image", .str tag)]] := by
  have written : rewriteImage parseReference (tagFor builds) baseName = tag := by
    simp [rewriteImage, bare, tagged]
  refine ⟨written ▸ replaceImages_image parseReference builds baseName, ?_⟩
  intro updated unused replaced same
  obtain ⟨unused', again⟩ := replaceImages_image parseReference builds tag
  rw [replaced, same] at again
  simp only [Except.ok.injEq, Prod.mk.injEq, List.cons.injEq, Value.map.injEq, Value.str.injEq,
    true_and, and_true] at again
  exact moved again.1.symm

end Again

/-- A build of `app` tagged `web` and a build of `web` tagged `web:1.0`. -/
theorem web_tag_moved :
    tagFor [⟨"app", "web"⟩, ⟨"web", "web:1.0"⟩] "app" = some "web" ∧
      specParseReference "app" = .ok ⟨"app", false⟩ ∧
      rewriteImage specParseReference (tagFor [⟨"app", "web"⟩, ⟨"web", "web:1.0"⟩]) "web" ≠
        "web" ∧
      ((∃ unused, replaceImages specParseReference [.map [(.str "image", .str "app")]]
          [⟨"app", "web"⟩, ⟨"web", "web:1.0"⟩] =
            .ok ([.map [(.str "image", .str "web")]], unused)) ∧
        ∀ updated unused, replaceImages specParseReference [.map [(.str "image", .str "web")]]
          [⟨"app", "web"⟩, ⟨"web", "web:1.0"⟩] = .ok (updated, unused) →
            updated ≠ [.map [(.str "image", .str "web")]]) :=
  ⟨by decide, rfl, by decide,
    unstable_tag_rewritten_again specParseReference _ (by decide) rfl (by decide)⟩

/-- A build of `app` tagged `web`, a reference that is not fully qualified, and a build of `web`
tagged `web:1.0`: replacing the images of `image: app` gives `image: web`, and replacing the
images of that document again gives `image: web:1.0`; the walk with the replacements of the
builds does the same to the tree. -/
theorem retagged_image_rewritten_again :
    replaceImages specParseReference [.map [(.str "image", .str "app")]]
        [⟨"app", "web"⟩, ⟨"web", "web:1.0"⟩] = .ok ([.map [(.str "image", .str "web")]], ["web"]) ∧
      replaceImages specParseReference [.map [(.str "image", .str "web")]]
        [⟨"app", "web"⟩, ⟨"web", "web:1.0"⟩] =
          .ok ([.map [(.str "image", .str "web:1.0")]], ["app"]) ∧
      (recursiveReplaceImage specParseReference (.map [(.str "image", .str "app")])
        (newReplacements [⟨"app", "web"⟩, ⟨"web", "web:1.0"⟩])).map Prod.fst =
          .ok (.map [(.str "image", .str "web")]) ∧
      (recursiveReplaceImage specParseReference (.map [(.str "image", .str "web")])
        (newReplacements [⟨"app", "web"⟩, ⟨"web", "web:1.0"⟩])).map Prod.fst =
          .ok (.map [(.str "image", .str "web:1.0")]) :=
  ⟨rfl, rfl, rfl, rfl⟩

end Skaffold.Deploy
