import Skaffold.Build.GoogleCloud
import Skaffold.Runner.DevLoop

/-!
# The builder of the runner

The runner holds one builder (`build.Builder`), which `getBuilder` picks from the build
configuration: the local builder, the cloud builder or the kaniko builder. Each `Build` first
sets up what it runs against (the local builder reports a local cluster on the output, the
others get their clients, and the kaniko builder reads the pull secret), and then runs the
builders' loop (`buildEach`). The model takes the three builders, each with what it runs
against (`Builder`), and `Build` as the call the runner makes (`Builder.build`).

Whatever the builder, and whatever what it runs against answers, a build that succeeds answers
one result per artifact, in order, each named after its artifact (`Builder.build_eq_ok`). So a
dev loop whose builder is one of them at every call, on configuration artifacts named after the
requested ones, gets its results in the order of the request and meets the assumption on
builders that its refinement rests on (`oneResultPerArtifact_of_builders`).
-/

set_option autoImplicit false

namespace Skaffold.Build

/-- The builders `getBuilder` picks from, each with what it runs against: the local builder with
the Docker daemon; the kaniko builder with the cluster, its secret volume, the client it gets and
the read of the pull secret; and the cloud builder with its project, its services and the three
clients it gets. -/
inductive Builder where
  | «local» (docker : Docker) (l : LocalBuilder)
  | kaniko (cluster : Kaniko) (secretVolumeSource : String)
      (getClientset readSecret : Except String Unit)
  | gcb (projectID : String) (env : GoogleCloud.CloudEnv)
      (googleClient cloudbuildService storageClient : Except String Unit)

/-- `Build` of the builder the runner holds, with the tagger the runner passes. -/
def Builder.build (tagger : Tagger) : Builder → List Config.Artifact → Except String (List Artifact)
  | .«local» docker l => LocalBuilder.build docker l tagger
  | .kaniko cluster secretVolumeSource getClientset readSecret =>
      KanikoBuilder.build cluster tagger secretVolumeSource getClientset readSecret
  | .gcb projectID env googleClient cloudbuildService storageClient =>
      GoogleCloud.GoogleCloudBuilder.build projectID env tagger googleClient cloudbuildService
        storageClient

/-- The builders' loop answers one result per artifact, in order, named after it. -/
theorem named_of_buildEach {buildArtifact : Config.Artifact → Except String String}
    {artifacts : List Config.Artifact} {builds : List Artifact}
    (built : buildEach buildArtifact artifacts = .ok builds) :
    List.Forall₂ (fun artifact build => build.imageName = artifact.imageName) artifacts builds :=
  (buildEach_ok_iff.mp built).imp fun _ _ named => named.1

/-- **Every builder answers one result per artifact, in order, named after it**, whatever what
it runs against answers. -/
theorem Builder.build_eq_ok {tagger : Tagger} {b : Builder} {artifacts : List Config.Artifact}
    {builds : List Artifact} (built : b.build tagger artifacts = .ok builds) :
    List.Forall₂ (fun artifact build => build.imageName = artifact.imageName) artifacts builds := by
  cases b with
  | «local» docker l =>
      obtain ⟨_, -, loop⟩ := bind_eq_ok.mp built
      exact named_of_buildEach loop
  | kaniko cluster secretVolumeSource getClientset readSecret =>
      obtain ⟨_, -, built⟩ := bind_eq_ok.mp built
      obtain ⟨_, -, loop⟩ := bind_eq_ok.mp built
      exact named_of_buildEach loop
  | gcb projectID env googleClient cloudbuildService storageClient =>
      obtain ⟨_, -, built⟩ := bind_eq_ok.mp built
      obtain ⟨_, -, built⟩ := bind_eq_ok.mp built
      obtain ⟨_, -, loop⟩ := bind_eq_ok.mp built
      exact named_of_buildEach loop

/-- Results named after the requested artifacts, in order, have their image names. -/
theorem imageNames_of_named {requested : List Schema.Artifact} {builds : List Artifact}
    (named : List.Forall₂ (fun artifact build => build.imageName = artifact.imageName)
      requested builds) :
    imageNames builds = requested.map Schema.Artifact.imageName := by
  induction named with
  | nil => rfl
  | cons same _ ih => simp [imageNames, same, ← ih]

/-- **The runner's builders meet the dev loop's assumption on builders.** A dev loop whose
builder is, at each call, one of the repository's builders, with any answers from what it runs
against and any tagger, on configuration artifacts named after the requested ones, gets from
every successful build one result per requested artifact, in the order of the request and named
after it; so it meets the assumption on builders of the dev loop's refinement. -/
theorem oneResultPerArtifact_of_builders (env : Runner.Env)
    (configOf : Schema.Artifact → Config.Artifact)
    (named : ∀ artifact, (configOf artifact).imageName = artifact.imageName)
    (builderAt : List Runner.Call → Builder) (taggerAt : List Runner.Call → Tagger)
    (builder : ∀ calls requested,
      env.build calls requested =
        (builderAt calls).build (taggerAt calls) (requested.map configOf)) :
    (∀ calls requested builds, env.build calls requested = .ok builds →
        List.Forall₂ (fun artifact build => build.imageName = artifact.imageName) requested
          builds) ∧
      env.OneResultPerArtifact := by
  have inOrder : ∀ calls requested builds, env.build calls requested = .ok builds →
      List.Forall₂ (fun artifact build => build.imageName = artifact.imageName) requested
        builds := by
    intro calls requested builds built
    rw [builder] at built
    exact (List.forall₂_map_left_iff.mp (Builder.build_eq_ok built)).imp
      fun artifact _ same => same.trans (named artifact)
  exact ⟨inOrder, fun calls requested builds built =>
    .of_eq (imageNames_of_named (inOrder calls requested builds built))⟩

/-- A dev loop whose builder is the local builder of a minikube cluster, on a daemon that lists
every image it is asked for. -/
theorem local_builder_meets_assumption :
    let docker : Docker := ⟨fun _ => "5e1f", fun _ _ _ => .ok (), fun _ => .ok (),
      fun _ => .ok (), fun _ => .ok (), fun _ => .ok (), fun _ _ => .ok (),
      fun ref => .ok [⟨"sha256:ab", [ref]⟩], fun _ _ => .ok (), fun _ => .ok (), fun _ => .ok ()⟩
    let configOf : Schema.Artifact → Config.Artifact := fun artifact =>
      ⟨artifact.imageName, ".", some ⟨"Dockerfile"⟩, none, none⟩
    let tagger : Tagger := ⟨fun _ options => .ok (options.imageName ++ ":" ++ options.digest)⟩
    let env : Runner.Env := { Runner.quietEnv with
      build := fun _ requested =>
        (Builder.«local» docker (newLocalBuilder none "minikube")).build tagger
          (requested.map configOf) }
    (∀ artifact, (configOf artifact).imageName = artifact.imageName) ∧
      (∀ calls requested, env.build calls requested =
        (Builder.«local» docker (newLocalBuilder none "minikube")).build tagger
          (requested.map configOf)) ∧
      ((∀ calls requested builds, env.build calls requested = .ok builds →
          List.Forall₂ (fun artifact build => build.imageName = artifact.imageName) requested
            builds) ∧
        env.OneResultPerArtifact) := by
  intro docker configOf tagger env
  have named : ∀ artifact, (configOf artifact).imageName = artifact.imageName := fun _ => rfl
  have builder : ∀ calls requested, env.build calls requested =
      (Builder.«local» docker (newLocalBuilder none "minikube")).build tagger
        (requested.map configOf) := fun _ _ => rfl
  exact ⟨named, builder, oneResultPerArtifact_of_builders env configOf named
    (fun _ => .«local» docker (newLocalBuilder none "minikube")) (fun _ => tagger) builder⟩

end Skaffold.Build
