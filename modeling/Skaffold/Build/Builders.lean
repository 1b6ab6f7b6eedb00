import Mathlib.Data.List.Forall2
import Skaffold.Basic

/-!
# The builders' loops

Every builder of the repository builds the artifacts one after another with the same loop
(`buildEach`): the artifact is built into a tag, a result named after the artifact records the
tag, and the first failure ends the build with its error. The builders differ in how one
artifact is built. The local builder (`LocalBuilder.buildArtifact`) builds with the Docker
daemon, asks the daemon for the image's ID (`digest`), refuses an empty one, tags the image
with the name the tagger gives for that ID from the working directory `"."`, and pushes it
unless `skipPush`. The kaniko builder (`KanikoBuilder.buildArtifact`) asks the registry for the
digest and tags from the artifact's workspace. The cloud builder wraps its own step
(`Skaffold.Build.GoogleCloud`).

A build succeeds exactly when every step does, and its results are then one per artifact, in
order, each named after its artifact (`buildEach_ok_iff`); it fails exactly with the error of
the first step that fails (`buildEach_error_iff`). The builder the runner holds is one of the
three (`Skaffold.Build.Interface`).

`docker.Digest` answers the empty string when the daemon lists no image with the reference,
so the local builder fails with "digest not found" exactly when the daemon does not list the
image it has just built (`localBuild_digest_not_found_iff`). The local build of a kaniko
artifact answers the empty initial tag, which no listed image carries, so the local builder
fails on every kaniko artifact whose remote build succeeds (`local_kaniko_build_fails`).
-/

set_option autoImplicit false

namespace Skaffold

/-! ## Artifacts and taggers -/

/-- The build of a Dockerfile. -/
structure Config.DockerArtifact where
  dockerfilePath : String
  deriving DecidableEq, Repr

/-- The build of a bazel target. -/
structure Config.BazelArtifact where
  buildTarget : String
  deriving DecidableEq, Repr

/-- The build of a Dockerfile by kaniko in the cluster. -/
structure Config.KanikoArtifact where
  dockerfilePath : String
  gcsBucket : String
  pullSecret : String
  deriving DecidableEq, Repr

/-- An artifact of the build configuration (`config.Artifact`, `v1alpha2.Artifact`): the image,
its workspace, and the kinds of build it sets. -/
structure Config.Artifact where
  imageName : String
  workspace : String
  dockerArtifact : Option Config.DockerArtifact
  bazelArtifact : Option Config.BazelArtifact
  kanikoArtifact : Option Config.KanikoArtifact
  deriving DecidableEq, Repr

namespace Build

/-- `tag.TagOptions`: what a tagger names an image from. -/
structure TagOptions where
  imageName : String
  digest : String
  deriving DecidableEq, Repr

/-- A tagger (`tag.Tagger`): `GenerateFullyQualifiedImageName`, the tag it gives an image from
the working directory it is built in. -/
structure Tagger where
  generateFullyQualifiedImageName : String → TagOptions → Except String String

/-! ## The loop every builder runs -/

/-- The loop of every builder's `Build`: each artifact in turn built into a tag, a result named
after the artifact, and the first failure ends the build with its error. -/
def buildEach (buildArtifact : Config.Artifact → Except String String) :
    List Config.Artifact → Except String (List Artifact)
  | [] => pure []
  | artifact :: rest => do
      let tag ← buildArtifact artifact
      let builds ← buildEach buildArtifact rest
      pure ({ imageName := artifact.imageName, tag } :: builds)

section Loop

variable {buildArtifact : Config.Artifact → Except String String}

theorem buildEach_cons_eq_ok {artifact : Config.Artifact} {rest : List Config.Artifact}
    {builds : List Artifact} :
    buildEach buildArtifact (artifact :: rest) = .ok builds ↔
      ∃ tag builds', buildArtifact artifact = .ok tag ∧ buildEach buildArtifact rest = .ok builds' ∧
        builds = { imageName := artifact.imageName, tag } :: builds' := by
  simp only [buildEach, bind_eq_ok, pure_eq_ok]
  constructor
  · rintro ⟨tag, built, builds', rest', rfl⟩
    exact ⟨tag, builds', built, rest', rfl⟩
  · rintro ⟨tag, builds', built, rest', rfl⟩
    exact ⟨tag, built, builds', rest', rfl⟩

/-- **A build succeeds exactly when every step does**, and its results are then one per
artifact, in order, each named after its artifact and carrying the tag its step built. -/
theorem buildEach_ok_iff : ∀ {artifacts : List Config.Artifact} {builds : List Artifact},
    buildEach buildArtifact artifacts = .ok builds ↔
      List.Forall₂ (fun artifact build => build.imageName = artifact.imageName ∧
        buildArtifact artifact = .ok build.tag) artifacts builds
  | [], builds => by
      rw [List.forall₂_nil_left_iff, eq_comm]
      exact pure_eq_ok
  | artifact :: rest, builds => by
      rw [buildEach_cons_eq_ok, List.forall₂_cons_left_iff]
      constructor
      · rintro ⟨tag, builds', built, rest', rfl⟩
        exact ⟨_, builds', ⟨rfl, built⟩, buildEach_ok_iff.mp rest', rfl⟩
      · rintro ⟨⟨imageName, tag⟩, builds', ⟨named, built⟩, rest', rfl⟩
        simp only at named built
        subst named
        exact ⟨tag, builds', built, buildEach_ok_iff.mpr rest', rfl⟩

/-- **The first failure ends a build**: a build fails exactly when a step fails after the steps
of every artifact before it succeeded, and it fails with that step's error. -/
theorem buildEach_error_iff {err : String} : ∀ {artifacts : List Config.Artifact},
    buildEach buildArtifact artifacts = .error err ↔
      ∃ before artifact after, artifacts = before ++ artifact :: after ∧
        (∀ earlier ∈ before, ∃ tag, buildArtifact earlier = .ok tag) ∧
        buildArtifact artifact = .error err
  | [] => by simp [buildEach, pure, Except.pure]
  | artifact :: rest => by
      have stepped : buildEach buildArtifact (artifact :: rest) = .error err ↔
          buildArtifact artifact = .error err ∨
            ∃ tag, buildArtifact artifact = .ok tag ∧ buildEach buildArtifact rest = .error err := by
        simp only [buildEach]
        cases buildArtifact artifact <;> cases buildEach buildArtifact rest <;> simp [pure, Except.pure]
      rw [stepped, buildEach_error_iff]
      constructor
      · rintro (failed | ⟨tag, built, before, failing, after, rfl, earlier, failed⟩)
        · exact ⟨[], artifact, rest, rfl, by simp, failed⟩
        · refine ⟨artifact :: before, failing, after, rfl, ?_, failed⟩
          simpa using ⟨⟨tag, built⟩, earlier⟩
      · rintro ⟨_ | ⟨first, before⟩, failing, after, split, earlier, failed⟩
        · obtain ⟨rfl, rfl⟩ := List.cons.inj split
          exact .inl failed
        · obtain ⟨rfl, rfl⟩ := List.cons.inj split
          obtain ⟨tag, built⟩ := earlier _ (List.mem_cons_self _ _)
          exact .inr ⟨tag, built, before, failing, after, rfl,
            fun other member => earlier other (List.mem_cons_of_mem _ member), failed⟩

end Loop

/-! ## The local builder -/

/-- An image the Docker daemon lists (`types.ImageSummary`): its ID and its tags. -/
structure ImageSummary where
  id : String
  repoTags : List String
  deriving DecidableEq, Repr

/-- `docker.Digest`: the ID of the first listed image one of whose tags is the reference, or the
empty string when no listed image has it. -/
def digest (imageList : Except String (List ImageSummary)) (ref : String) :
    Except String String := do
  let images ← imageList.mapError (wrapError "getting image id")
  pure (((images.find? fun image => image.repoTags.contains ref).map ImageSummary.id).getD "")

/-- `strings.TrimPrefix`. -/
def trimPrefix (text pre : List Char) : List Char :=
  if pre <+: text then text.drop pre.length else text

/-- `strings.TrimSuffix`. -/
def trimSuffix (text suf : List Char) : List Char :=
  if suf <:+ text then text.take (text.length - suf.length) else text

/-- What the local builder runs against, each call with its answer: the Docker daemon's build
(`docker.RunBuild`, with the names to tag the image with), the steps of a bazel build (running
bazel, opening the image tarball, loading it into the daemon, reading the daemon's answer), the
steps of a kaniko build in the cluster, the daemon's image list for a reference, `ImageTag`,
writes to the output, and `docker.RunPush`. `randomID` is the ID `util.RandomID` gives the
docker build of an artifact. -/
structure Docker where
  randomID : Config.Artifact → String
  runBuild : List String → Config.Artifact → Config.DockerArtifact → Except String Unit
  runBazel : String → Except String Unit
  openImageTarball : String → Except String Unit
  imageLoad : String → Except String Unit
  readImageLoad : String → Except String Unit
  buildKaniko : Config.Artifact → Config.KanikoArtifact → Except String Unit
  imageList : String → Except String (List ImageSummary)
  imageTag : String → String → Except String Unit
  writeString : String → Except String Unit
  runPush : String → Except String Unit

/-- The local builder: whether to push, whether the cluster runs on this machine, and the
context. -/
structure LocalBuilder where
  skipPush : Bool
  localCluster : Bool
  kubeContext : String
  deriving DecidableEq, Repr

/-- `NewLocalBuilder`: the cluster is local for the contexts of minikube and Docker for Desktop,
and `skipPush`, when the configuration leaves it out, is whether the cluster is local. -/
def newLocalBuilder (skipPush : Option Bool) (kubeContext : String) : LocalBuilder :=
  let localCluster := kubeContext = "minikube" || kubeContext = "docker-for-desktop"
  { skipPush := skipPush.getD localCluster, localCluster, kubeContext }

namespace LocalBuilder

variable (docker : Docker)

/-- `LocalBuilder.buildDocker`: a docker build tagged with a random ID and the image name; the
initial tag is the random ID's `latest`. -/
def buildDocker (artifact : Config.Artifact) (dockerArtifact : Config.DockerArtifact) :
    Except String String := do
  let initialTag := docker.randomID artifact
  let () ← (docker.runBuild [initialTag, artifact.imageName] artifact dockerArtifact).mapError
    (wrapError "running build")
  pure (initialTag ++ ":latest")

/-- `LocalBuilder.buildBazel`: bazel builds the target's tarball, the daemon loads it, and the
initial tag is the target without its leading `//:` and trailing `.tar`, after `bazel:`. -/
def buildBazel (bazelArtifact : Config.BazelArtifact) : Except String String := do
  let () ← (docker.runBazel bazelArtifact.buildTarget).mapError (wrapError "running command")
  let tarPath := trimPrefix bazelArtifact.buildTarget.toList "//:".toList
  let imageTag := trimSuffix tarPath ".tar".toList
  let () ← (docker.openImageTarball (String.mk tarPath)).mapError
    (wrapError "opening image tarball")
  let () ← (docker.imageLoad (String.mk tarPath)).mapError
    (wrapError "loading image into docker daemon")
  let () ← (docker.readImageLoad (String.mk tarPath)).mapError
    (wrapError "reading from image load response")
  pure ("bazel:" ++ String.mk imageTag)

/-- `LocalBuilder.buildKaniko`: kaniko builds and pushes the image from the cluster, and the
initial tag it answers is empty. -/
def buildKaniko (artifact : Config.Artifact) (kanikoArtifact : Config.KanikoArtifact) :
    Except String String := do
  let () ← docker.buildKaniko artifact kanikoArtifact
  pure ""

/-- The error for an artifact that sets no kind of build, with the empty `ArtifactType`
printed by `%+v`. -/
def undefinedArtifactType : String :=
  "undefined artifact type: \x7bDockerArtifact:<nil> BazelArtifact:<nil> KanikoArtifact:<nil>\x7d"

/-- `LocalBuilder.runBuildForArtifact`: the first kind of build the artifact sets, of docker,
bazel and kaniko. -/
def runBuildForArtifact (artifact : Config.Artifact) : Except String String :=
  match artifact.dockerArtifact, artifact.bazelArtifact, artifact.kanikoArtifact with
  | some dockerArtifact, _, _ => buildDocker docker artifact dockerArtifact
  | none, some bazelArtifact, _ => buildBazel docker bazelArtifact
  | none, none, some kanikoArtifact => buildKaniko docker artifact kanikoArtifact
  | none, none, none => .error undefinedArtifactType

/-- The second half of the body of the loop of `LocalBuilder.Build`: tag the image with the name
the tagger gives its ID from `"."`, report it, and push it unless `skipPush`. -/
def tagAndPush (skipPush : Bool) (tagger : Tagger) (artifact : Config.Artifact)
    (initialTag digest : String) : Except String String := do
  let tag ← (tagger.generateFullyQualifiedImageName "." ⟨artifact.imageName, digest⟩).mapError
    (wrapError "generating tag")
  let () ← (docker.imageTag initialTag tag).mapError (wrapError "tagging image")
  let () ← (docker.writeString ("Successfully tagged " ++ tag ++ "\n")).mapError
    (wrapError "writing tag status")
  let () ← (if skipPush then pure () else (docker.runPush tag).mapError (wrapError "running push"))
  pure tag

/-- The body of the loop of `LocalBuilder.Build` for one artifact: build it, find the image's ID,
refuse an empty one, then tag and push. -/
def buildArtifact (skipPush : Bool) (tagger : Tagger) (artifact : Config.Artifact) :
    Except String String := do
  let initialTag ← (runBuildForArtifact docker artifact).mapError
    (wrapError "running build for artifact")
  let digest ← (digest (docker.imageList initialTag) initialTag).mapError
    (wrapError ("build and tag: " ++ initialTag))
  if digest = "" then .error "digest not found"
  else tagAndPush docker skipPush tagger artifact initialTag digest

/-- `LocalBuilder.Build`: on a local cluster it first says so on the output, then it runs the
builders' loop. -/
def build (l : LocalBuilder) (tagger : Tagger) (artifacts : List Config.Artifact) :
    Except String (List Artifact) := do
  let () ← (if l.localCluster then
      (docker.writeString ("Found [" ++ l.kubeContext ++ "] context, using local docker daemon.\n")).mapError
        (wrapError "writing status")
    else pure ())
  buildEach (buildArtifact docker l.skipPush tagger) artifacts

end LocalBuilder

/-! ## When the local builder finds no digest -/

/-- A wrapped error differs from a text that starts with another character than the message. -/
theorem wrapError_ne {message err text : String} (nonempty : message.data ≠ [])
    (differ : message.data.head? ≠ text.data.head?) : wrapError message err ≠ text := by
  rintro rfl
  obtain ⟨c, rest, split⟩ := List.exists_cons_of_ne_nil nonempty
  exact differ (by simp [wrapError, split])

/-- The listed images carry the reference exactly when `docker.Digest` finds a non-empty ID,
when no listed image has an empty ID. -/
theorem digest_eq_empty_iff {images : List ImageSummary} {ref : String}
    (ids : ∀ image ∈ images, image.id ≠ "") :
    digest (.ok images) ref = .ok "" ↔ ∀ image ∈ images, ref ∉ image.repoTags := by
  simp only [digest, Except.mapError, ok_bind, pure_eq_ok]
  cases found : images.find? fun image => image.repoTags.contains ref with
  | none =>
      simpa [List.find?_eq_none] using found
  | some image =>
      have member := List.mem_of_find?_eq_some found
      have tagged := List.find?_some found
      simp only [List.elem_eq_mem, decide_eq_true_eq] at tagged
      simp only [Option.map_some', Option.getD_some]
      exact ⟨fun empty => absurd empty (ids image member),
        fun untagged => absurd tagged (untagged image member)⟩

section NoDigest

variable {docker : Docker} {skipPush : Bool} {tagger : Tagger} {artifact : Config.Artifact}

/-- Tagging and pushing fails, if at all, with a wrapped error, never with "digest not found". -/
theorem tagAndPush_ne {initialTag digest : String} :
    LocalBuilder.tagAndPush docker skipPush tagger artifact initialTag digest ≠
      .error "digest not found" := by
  have wrapped : ∀ {α : Type} (x : Except String α) (message : String), message.data ≠ [] →
      message.data.head? ≠ "digest not found".data.head? →
      x.mapError (wrapError message) ≠ .error "digest not found" := by
    intro α x message nonempty differ mapped
    obtain ⟨e, -, same⟩ := mapError_eq_error.mp mapped
    exact wrapError_ne nonempty differ same
  intro failed
  unfold LocalBuilder.tagAndPush at failed
  rcases bind_eq_error.mp failed with failed | ⟨tag, -, failed⟩
  · exact wrapped _ _ (by decide) (by decide) failed
  rcases bind_eq_error.mp failed with failed | ⟨_, -, failed⟩
  · exact wrapped _ _ (by decide) (by decide) failed
  rcases bind_eq_error.mp failed with failed | ⟨_, -, failed⟩
  · exact wrapped _ _ (by decide) (by decide) failed
  rcases bind_eq_error.mp failed with failed | ⟨_, -, failed⟩
  · cases skipPush
    · exact wrapped _ _ (by decide) (by decide) failed
    · cases failed
  · cases failed

/-- **The local builder finds no digest exactly when the daemon does not list the image it
built.** After the build of an artifact answers its initial tag, and with a daemon that lists
no image with an empty ID, the step fails with "digest not found" exactly when no listed image
carries the initial tag. -/
theorem localBuild_digest_not_found_iff {initialTag : String} {images : List ImageSummary}
    (built : LocalBuilder.runBuildForArtifact docker artifact = .ok initialTag)
    (listed : docker.imageList initialTag = .ok images) (ids : ∀ image ∈ images, image.id ≠ "") :
    LocalBuilder.buildArtifact docker skipPush tagger artifact = .error "digest not found" ↔
      ∀ image ∈ images, initialTag ∉ image.repoTags := by
  rw [← digest_eq_empty_iff ids]
  obtain ⟨found, answered⟩ : ∃ found, digest (.ok images) initialTag = .ok found := ⟨_, rfl⟩
  simp only [LocalBuilder.buildArtifact, built, listed, answered, mapError_ok, ok_bind]
  by_cases empty : found = ""
  · simp [empty]
  · simp only [empty, if_false]
    exact ⟨fun failed => absurd failed tagAndPush_ne,
      fun same => absurd (Except.ok.inj same) empty⟩

/-- A daemon that lists, for every reference, one image tagged `web:latest`. -/
theorem listed_image_has_digest :
    let docker : Docker := ⟨fun _ => "web", fun _ _ _ => .ok (), fun _ => .ok (), fun _ => .ok (),
      fun _ => .ok (), fun _ => .ok (), fun _ _ => .ok (),
      fun _ => .ok [⟨"sha256:5e1f", ["web:latest"]⟩], fun _ _ => .ok (), fun _ => .ok (),
      fun _ => .ok ()⟩
    let artifact : Config.Artifact := ⟨"gcr.io/app", ".", some ⟨"Dockerfile"⟩, none, none⟩
    (LocalBuilder.buildArtifact docker false ⟨fun _ options => .ok options.digest⟩ artifact =
        .error "digest not found" ↔
      ∀ image ∈ [(⟨"sha256:5e1f", ["web:latest"]⟩ : ImageSummary)], "web:latest" ∉ image.repoTags) :=
  localBuild_digest_not_found_iff rfl rfl (by decide)

/-- **The local builder fails on every kaniko artifact.** Its kaniko build answers the empty
initial tag, and a daemon lists no image with an empty tag, so when the build in the cluster
succeeds the step fails with "digest not found". -/
theorem local_kaniko_build_fails {kanikoArtifact : Config.KanikoArtifact}
    {images : List ImageSummary}
    (kaniko : artifact.dockerArtifact = none ∧ artifact.bazelArtifact = none ∧
      artifact.kanikoArtifact = some kanikoArtifact)
    (built : docker.buildKaniko artifact kanikoArtifact = .ok ())
    (listed : docker.imageList "" = .ok images) (untagged : ∀ image ∈ images, "" ∉ image.repoTags) :
    LocalBuilder.buildArtifact docker skipPush tagger artifact = .error "digest not found" := by
  obtain ⟨noDocker, noBazel, kanikoSet⟩ := kaniko
  have initial : LocalBuilder.runBuildForArtifact docker artifact = .ok "" := by
    simp [LocalBuilder.runBuildForArtifact, noDocker, noBazel, kanikoSet,
      LocalBuilder.buildKaniko, built]
  have none : digest (.ok images) "" = .ok "" := by
    simp only [digest, Except.mapError, ok_bind, pure_eq_ok]
    rw [List.find?_eq_none.mpr fun image member => by simpa using untagged image member]
    rfl
  simp [LocalBuilder.buildArtifact, initial, listed, none, Except.mapError]

theorem kaniko_artifact_not_found_locally :
    let docker : Docker := ⟨fun _ => "web", fun _ _ _ => .ok (), fun _ => .ok (), fun _ => .ok (),
      fun _ => .ok (), fun _ => .ok (), fun _ _ => .ok (),
      fun _ => .ok [⟨"sha256:5e1f", ["gcr.io/app:kaniko"]⟩], fun _ _ => .ok (), fun _ => .ok (),
      fun _ => .ok ()⟩
    LocalBuilder.buildArtifact docker true ⟨fun _ options => .ok options.digest⟩
        ⟨"gcr.io/app", ".", none, none, some ⟨"Dockerfile", "bucket", "secret.json"⟩⟩ =
      .error "digest not found" :=
  local_kaniko_build_fails ⟨rfl, rfl, rfl⟩ rfl rfl (by decide)

end NoDigest

/-! ## The kaniko builder -/

/-- What the kaniko builder runs against, each call with its answer: the build in the cluster
(`kaniko.RunKanikoBuild`, which answers the initial tag), `docker.RemoteDigest` and
`docker.AddTag`. -/
structure Kaniko where
  runKanikoBuild : Config.Artifact → Except String String
  remoteDigest : String → Except String String
  addTag : String → String → Except String Unit

namespace KanikoBuilder

variable (kaniko : Kaniko) (tagger : Tagger)

/-- The body of the loop of `KanikoBuilder.Build` for one artifact: build it in the cluster, ask
the registry for its digest, and tag it with the name the tagger gives from the artifact's
workspace. -/
def buildArtifact (artifact : Config.Artifact) : Except String String := do
  let initialTag ← (kaniko.runKanikoBuild artifact).mapError
    (wrapError ("running kaniko build for " ++ artifact.imageName))
  let digest ← (kaniko.remoteDigest initialTag).mapError (wrapError "getting digest")
  let tag ← (tagger.generateFullyQualifiedImageName artifact.workspace
    ⟨artifact.imageName, digest⟩).mapError (wrapError "generating tag")
  let () ← (kaniko.addTag initialTag tag).mapError (wrapError "tagging image")
  pure tag

/-- `KanikoBuilder.Build`: get a cluster client and, without a secret volume, read the pull
secret (creating it in the cluster and deleting it afterwards only warn when they fail); then
the builders' loop. -/
def build (secretVolumeSource : String) (getClientset readSecret : Except String Unit)
    (artifacts : List Config.Artifact) : Except String (List Artifact) := do
  let () ← getClientset.mapError (wrapError "getting kubernetes client")
  let () ← (if secretVolumeSource = "" then readSecret.mapError (wrapError "reading secret")
    else pure ())
  buildEach (buildArtifact kaniko tagger) artifacts

end KanikoBuilder

end Build

end Skaffold
