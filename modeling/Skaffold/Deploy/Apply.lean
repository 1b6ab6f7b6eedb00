import Skaffold.Deploy.Kubectl
import Skaffold.Deploy.Idempotence
import Skaffold.Runner.Label

/-!
# Deploying with kubectl

`kubectlBaseDeployer.Deploy` renders the manifests with its manifest builder, splits the text
into documents (`newManifestList`), rewrites their images (`manifestList.replaceImages`), pipes
the rewritten documents to `kubectl apply`, and reads the deployed objects back from them
(`parseManifestsForDeploys`).

`replaceImages` works on the documents as text: each is decoded by yaml.v2 into a map, walked,
and encoded again, one document after the other (`replaceDocuments`). The parse and the encoding
are yaml.v2's (`YamlCodec`); the walk of a decoded document is the one of
`Skaffold.Deploy.ReplaceImages`. The loop over the text returns normally exactly when every
document decodes, the loop over the decoded documents returns normally, and every document it
returns encodes (`replaceDocuments_eq_ok_iff`); the loop over decoded documents returns normally
exactly when each of them decodes into a map and each non-empty one passes the walk's type
assertions (`replaceManifests_returns_iff`).

So `Deploy` returns normally exactly when the builder renders, every document decodes and is
accepted, the spec's rewrite of every non-empty document encodes, and `kubectl apply` succeeds on
those encodings; and then kubectl was given the spec's rewrite of the builder's documents, and the
deployed objects are read from it (`deploy_eq_ok_iff`).
-/

set_option autoImplicit false

namespace Skaffold.Deploy

/-- What yaml.v2 does with a document: `yaml.Unmarshal`'s parse of the text into a tree (before
the tree is stored into a map, which `unmarshalMap` does), and `yaml.Marshal` of a tree. -/
structure YamlCodec where
  unmarshal : List Char → Except String Value
  marshal : Value → Except String (List Char)

/-- A decoded document the loop of `replaceImages` takes without failing: it decodes into a map,
and when the map is not empty every type assertion of the walk holds on it. -/
def accepted (doc : Value) : Bool :=
  (unmarshalMap doc).isOk && (!hasEntries doc || doc.assertable)

section Documents

variable (yaml : YamlCodec) (parseReference : String → Except String Reference)

/-- The loop of `manifestList.replaceImages` over the documents as text: decode a document into a
map, skip an empty one, walk the others and encode what the walk leaves. -/
def replaceDocuments : List (List Char) → Replacements →
    Except Failure (List (List Char) × Replacements)
  | [], replacements => pure ([], replacements)
  | manifest :: rest, replacements =>
      match yaml.unmarshal manifest >>= unmarshalMap with
      | .error err => .error (.error (wrapError "reading kubernetes YAML" err))
      | .ok m =>
          if m.isEmpty then replaceDocuments rest replacements
          else do
            let (updatedManifest, replacements) ←
              recursiveReplaceImage parseReference (.map m) replacements
            let updatedManifest ← (yaml.marshal updatedManifest).mapError
              fun err => .error (wrapError "marshalling yaml" err)
            let (rest, replacements) ← replaceDocuments rest replacements
            pure (updatedManifest :: rest, replacements)

/-- A list mapped through a computation that can fail, one element at a time. -/
theorem mapM_cons_eq_ok {ε α β : Type} {f : α → Except ε β} {a : α} {l : List α}
    {out : List β} :
    (a :: l).mapM f = .ok out ↔ ∃ b bs, f a = .ok b ∧ l.mapM f = .ok bs ∧ b :: bs = out := by
  rw [List.mapM_cons]
  cases f a <;> cases l.mapM f <;> simp [bind, Except.bind, pure, Except.pure]

/-- The map a decoded document is stored into, when it is not empty, is the document. -/
theorem eq_map_of_unmarshalMap {doc : Value} {m : List (Value × Value)}
    (decoded : unmarshalMap doc = .ok m) (full : m.isEmpty = false) : doc = .map m := by
  cases doc with
  | map entries => cases decoded; rfl
  | null => cases decoded; simp at full
  | _ => cases decoded

/-- The loop over the decoded documents skips a document that decodes into an empty map. -/
theorem replaceManifests_cons_of_empty {doc : Value} {m : List (Value × Value)}
    (stored : unmarshalMap doc = .ok m) (empty : m.isEmpty = true) (rest : List Value)
    (before : Replacements) :
    replaceManifests parseReference (doc :: rest) before =
      replaceManifests parseReference rest before := by
  rw [replaceManifests, stored]
  simp only [empty, if_true]

/-- The loop over the decoded documents walks a document that decodes into a non-empty map
before the rest. -/
theorem replaceManifests_cons_of_full {doc : Value} {m : List (Value × Value)}
    (stored : unmarshalMap doc = .ok m) (full : m.isEmpty = false) (rest : List Value)
    (before : Replacements) :
    replaceManifests parseReference (doc :: rest) before =
      recursiveReplaceImage parseReference (.map m) before >>= fun walked =>
        replaceManifests parseReference rest walked.2 >>= fun walkedRest =>
          pure (walked.1 :: walkedRest.1, walkedRest.2) := by
  rw [replaceManifests, stored]
  simp only [full, Bool.false_eq_true, if_false]

/-- **The loop over the text is the loop over the decoded documents.** It returns normally
exactly when every document decodes, the loop over the decoded documents returns normally, and
every document that loop returns encodes; and then it returns the encodings. -/
theorem replaceDocuments_eq_ok_iff : ∀ (manifests : List (List Char))
    (before after : Replacements) (out : List (List Char)),
    replaceDocuments yaml parseReference manifests before = .ok (out, after) ↔
      ∃ docs updated, manifests.mapM yaml.unmarshal = .ok docs ∧
        replaceManifests parseReference docs before = .ok (updated, after) ∧
        updated.mapM yaml.marshal = .ok out
  | [], before, after, out => by
      constructor
      · rintro ⟨⟩
        exact ⟨[], [], rfl, rfl, rfl⟩
      · rintro ⟨_, _, ⟨⟩, ⟨⟩, ⟨⟩⟩
        rfl
  | manifest :: rest, before, after, out => by
      simp only [mapM_cons_eq_ok]
      rcases parsed : yaml.unmarshal manifest with err | doc
      · simp only [replaceDocuments, parsed, error_bind, reduceCtorEq, false_and, exists_false,
          false_iff, not_false_eq_true]
      rcases stored : unmarshalMap doc with err | m
      · simp only [replaceDocuments, parsed, ok_bind, stored, reduceCtorEq, false_iff,
          Except.ok.injEq]
        rintro ⟨_, _, ⟨_, docs, rfl, -, rfl⟩, walked, -⟩
        simp only [replaceManifests, stored, reduceCtorEq] at walked
      simp only [replaceDocuments, parsed, ok_bind, stored, Except.ok.injEq]
      cases full : m.isEmpty
      case true =>
        rw [if_pos rfl, replaceDocuments_eq_ok_iff rest before after out]
        constructor
        · rintro ⟨docs, updated, decoded, walked, encoded⟩
          exact ⟨doc :: docs, updated, ⟨doc, docs, rfl, decoded, rfl⟩,
            by rwa [replaceManifests_cons_of_empty parseReference stored full], encoded⟩
        · rintro ⟨_, updated, ⟨_, docs, rfl, decoded, rfl⟩, walked, encoded⟩
          exact ⟨docs, updated, decoded,
            by rwa [replaceManifests_cons_of_empty parseReference stored full] at walked, encoded⟩
      case false =>
        rw [if_neg Bool.false_ne_true]
        constructor
        · intro replaced
          obtain ⟨⟨u, middle⟩, walked, replaced⟩ := bind_eq_ok.mp replaced
          obtain ⟨enc, encoded, replaced⟩ := bind_eq_ok.mp replaced
          obtain ⟨⟨encs, after'⟩, replacedRest, done⟩ := bind_eq_ok.mp replaced
          obtain ⟨rfl, rfl⟩ := Prod.mk.inj (pure_eq_ok.mp done)
          obtain ⟨docs, updated, decoded, walkedRest, encodedRest⟩ :=
            (replaceDocuments_eq_ok_iff rest middle _ _).mp replacedRest
          refine ⟨doc :: docs, u :: updated, ⟨doc, docs, rfl, decoded, rfl⟩, ?_,
            mapM_cons_eq_ok.mpr ⟨enc, encs, mapError_eq_ok.mp encoded, encodedRest, rfl⟩⟩
          rw [replaceManifests_cons_of_full parseReference stored full, walked, ok_bind,
            walkedRest, ok_bind]
          rfl
        · rintro ⟨_, _, ⟨_, docs, rfl, decoded, rfl⟩, walked, encoded⟩
          rw [replaceManifests_cons_of_full parseReference stored full] at walked
          obtain ⟨⟨u, middle⟩, walkedDoc, walked⟩ := bind_eq_ok.mp walked
          obtain ⟨⟨updated, after'⟩, walkedRest, done⟩ := bind_eq_ok.mp walked
          obtain ⟨rfl, rfl⟩ := Prod.mk.inj (pure_eq_ok.mp done)
          obtain ⟨enc, encs, encodedDoc, encodedRest, rfl⟩ := mapM_cons_eq_ok.mp encoded
          have replacedRest := (replaceDocuments_eq_ok_iff rest middle after' encs).mpr
            ⟨docs, updated, decoded, walkedRest, encodedRest⟩
          rw [walkedDoc, ok_bind]
          simp only [encodedDoc, mapError_ok, ok_bind, replacedRest]
          rfl

/-- Whether a decoded document has entries is whether the map it is stored into does. -/
theorem hasEntries_of_unmarshalMap {doc : Value} {m : List (Value × Value)}
    (stored : unmarshalMap doc = .ok m) : hasEntries doc = !m.isEmpty := by
  cases doc with
  | map entries => cases stored; cases m <;> rfl
  | null => cases stored; rfl
  | _ => cases stored

/-- **The loop over the decoded documents returns normally exactly on accepted documents**: when
each of them decodes into a map and each non-empty one passes the walk's type assertions. -/
theorem replaceManifests_returns_iff (l : List Value) : ∀ before : Replacements,
    (∃ result, replaceManifests parseReference l before = .ok result) ↔ l.all accepted = true := by
  induction l with
  | nil => exact fun before => ⟨fun _ => rfl, fun _ => ⟨_, rfl⟩⟩
  | cons doc rest ih =>
      intro before
      rcases stored : unmarshalMap doc with err | m
      · simp only [replaceManifests, stored, reduceCtorEq, exists_false, List.all_cons, accepted,
          Except.isOk, Except.toBool, Bool.false_and, false_iff, Bool.false_eq_true,
          not_false_eq_true]
      have decides : accepted doc = (m.isEmpty || doc.assertable) := by
        simp only [accepted, stored, hasEntries_of_unmarshalMap stored, Except.isOk,
          Except.toBool, Bool.not_not, Bool.true_and]
      rw [List.all_cons, decides]
      cases full : m.isEmpty
      case true =>
        rw [replaceManifests_cons_of_empty parseReference stored full, ih, Bool.true_or,
          Bool.true_and]
      case false =>
        rw [replaceManifests_cons_of_full parseReference stored full, Bool.false_or,
          eq_map_of_unmarshalMap stored full]
        constructor
        · rintro ⟨result, walked⟩
          obtain ⟨⟨u, middle⟩, walkedDoc, walked⟩ := bind_eq_ok.mp walked
          obtain ⟨_, walkedRest, -⟩ := bind_eq_ok.mp walked
          rw [assertable_of_walk parseReference walkedDoc, Bool.true_and, ← ih middle]
          exact ⟨_, walkedRest⟩
        · intro holds
          obtain ⟨holds, restHolds⟩ := Bool.and_eq_true_iff.mp holds
          obtain ⟨⟨u, middle⟩, walkedDoc⟩ := walk_of_assertable parseReference holds before
          obtain ⟨⟨updated, after⟩, walkedRest⟩ := (ih middle).mpr restHolds
          exact ⟨_, by rw [walkedDoc, ok_bind]; simp only [walkedRest, ok_bind]; rfl⟩

end Documents

/-- `parseManifestsForDeploys`: the objects `parseReleaseInfo` reads from each document, with no
namespace. -/
def parseManifestsForDeploys (parseReleaseInfo : String → List Char → List Artifact)
    (manifests : List (List Char)) : List Artifact :=
  manifests.flatMap (parseReleaseInfo "")

section Deploy

variable (host : Host) (yaml : YamlCodec) (parseReference : String → Except String Reference)
  (parseReleaseInfo : String → List Char → List Artifact)

/-- `applyManifests`: the documents of the text with their images replaced, applied with
`kubectl apply`; the deployed objects are read from the documents applied. Reading the text back
(`newManifestList`) does not fail, and the image names `replaceImages` warns about are only
logged. -/
def applyManifests (r : List Char) (kubeContext : String) (builds : List Build.Artifact) :
    Except Failure (List Artifact) := do
  let manifestList := newManifestList r
  let (manifestList, _) ←
    (replaceDocuments yaml parseReference manifestList (newReplacements builds)).mapError
      (Failure.wrap "replacing images")
  let _ ← (kubectl host (manifestListString manifestList) kubeContext ["apply", "-f", "-"]).mapError
    fun err => Failure.error (wrapError "running kubectl" err)
  pure (parseManifestsForDeploys parseReleaseInfo manifestList)

/-- `kubectlBaseDeployer.Deploy`, given the answer of the deployer's manifest builder (`build`),
which is the kubectl, kustomize or compose deployer's. -/
def deploy (build : Except String (List Char)) (kubeContext : String)
    (builds : List Build.Artifact) : Except Failure (List Artifact) := do
  let manifests ← build.mapError fun err => Failure.error (wrapError "building manifests" err)
  (applyManifests host yaml parseReference parseReleaseInfo manifests kubeContext builds).mapError
    (Failure.wrap "applying manifests")

/-- **What the deployer applies.** `Deploy` returns normally exactly when the builder renders a
text, every document of the text decodes and is accepted, the spec's rewrite of each non-empty
document (with the tag of the last build of each image name) encodes, and `kubectl apply`
succeeds on those encodings; the objects it returns are then read from them. -/
theorem deploy_eq_ok_iff (build : Except String (List Char)) (kubeContext : String)
    (builds : List Build.Artifact) (deploys : List Artifact) :
    deploy host yaml parseReference parseReleaseInfo build kubeContext builds = .ok deploys ↔
      ∃ text docs applied, build = .ok text ∧
        (newManifestList text).mapM yaml.unmarshal = .ok docs ∧ docs.all accepted = true ∧
        ((docs.filter hasEntries).map (rewrite parseReference (tagFor builds))).mapM
          yaml.marshal = .ok applied ∧
        (∃ output, kubectl host (manifestListString applied) kubeContext ["apply", "-f", "-"] =
          .ok output) ∧
        deploys = parseManifestsForDeploys parseReleaseInfo applied := by
  constructor
  · intro deployed
    obtain ⟨text, built, applied⟩ := bind_eq_ok.mp deployed
    obtain ⟨⟨out, after⟩, replaced, applied⟩ := bind_eq_ok.mp (mapError_eq_ok.mp applied)
    obtain ⟨output, ran, done⟩ := bind_eq_ok.mp applied
    obtain ⟨docs, updated, decoded, walked, encoded⟩ :=
      (replaceDocuments_eq_ok_iff yaml parseReference _ _ _ _).mp (mapError_eq_ok.mp replaced)
    obtain ⟨rewritten, -⟩ := replaceManifests_spec parseReference docs _ _ _ walked
    rw [tagsOf_newReplacements] at rewritten
    exact ⟨text, docs, out, mapError_eq_ok.mp built, decoded,
      (replaceManifests_returns_iff parseReference docs _).mp ⟨_, walked⟩, rewritten ▸ encoded,
      ⟨output, mapError_eq_ok.mp ran⟩, (pure_eq_ok.mp done).symm⟩
  · rintro ⟨text, docs, applied, rfl, decoded, accepted, encoded, ⟨output, ran⟩, rfl⟩
    obtain ⟨⟨updated, after⟩, walked⟩ :=
      (replaceManifests_returns_iff parseReference docs (newReplacements builds)).mpr accepted
    obtain ⟨rewritten, -⟩ := replaceManifests_spec parseReference docs _ _ _ walked
    rw [tagsOf_newReplacements] at rewritten
    have replaced := (replaceDocuments_eq_ok_iff yaml parseReference _ _ _ _).mpr
      ⟨docs, updated, decoded, walked, rewritten ▸ encoded⟩
    simp only [deploy, applyManifests, mapError_ok, ok_bind, replaced, ran]
    rfl

/-- A deployment of `image: app` after a build of `app` tagged `app:v2`: kubectl accepts only
the rewritten document. -/
example :
    let host : Host := ⟨fun _ _ => .ok [], fun _ => true, fun _ => .ok [],
      fun _ input => if input = "image: app:v2".toList then .ok [] else .error "unexpected input"⟩
    let yaml : YamlCodec :=
      ⟨fun doc => if doc = "image: app".toList then .ok (.map [(.str "image", .str "app")])
          else .ok .null,
        fun | .map [(.str key, .str image)] => .ok (key ++ ": " ++ image).toList
            | _ => .error "unsupported"⟩
    deploy host yaml (fun image => .ok ⟨image, false⟩) (fun _ _ => []) (.ok "image: app".toList)
      "minikube" [⟨"app", "app:v2"⟩] = .ok [] := by
  intro host yaml
  rfl

end Deploy

end Skaffold.Deploy
