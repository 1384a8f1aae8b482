import Conductor.Config.Basic
import Conductor.Job.Spec
import Conductor.Project
import Conductor.Work.Unit

/-! The jobs of the build: test suites, the publishing of images, and releases. -/

namespace Conductor.Catalog

def goTestName : String := "test-go"

def jsTestName : String := "test-javascript"

def e2eName : String := "test-e2e"

def imagesName : String := "build-and-publish-images"

def releaseName : String := "release"

def goTest (config : Config) : JobSpec where
  name := goTestName
  image := config.images.go
  env := [("SKIP_DOCKER", "true")]
  tasks := [
    "cd " ++ config.sources.localPath,
    "make verify-vendored-code lint test-unit"]
  workDir := some config.sources.localPath

def jsTest (config : Config) : JobSpec where
  name := jsTestName
  image := config.images.js
  env := [("SKIP_DOCKER", "true")]
  tasks := ["cd /src", "make verify-vendored-code-js test-js yarn-audit"]

/-- Tests the whole in a cluster of its own. The cluster needs a docker daemon within the container,
and so the job is privileged.
-/
def e2e (config : Config) : JobSpec where
  name := e2eName
  image := config.images.kind
  tasks := [
    "dockerd-entrypoint.sh &",
    "sleep 20",
    "kind create cluster --wait 300s",
    "export KUBECONFIG=\"$(kind get kubeconfig-path)\"",
    "cd " ++ config.sources.localPath,
    "CREATE_KIND=false make e2e"]
  workDir := some config.sources.localPath
  privileged := true

/-- The jobs of the check suite, in the order of submission. Each is known by its name. -/
def suite (config : Config) : List JobSpec :=
  [goTest config, jsTest config, e2e config]

/-- What holds of the three names of the suite holds of the names of its jobs. -/
theorem forall_suite {P : String → Prop} (config : Config)
    (holds : ∀ name ∈ ["test-go", "test-javascript", "test-e2e"], P name)
    : ∀ spec ∈ suite config, P spec.name :=
  fun _ member => holds _ (List.mem_map_of_mem (f := JobSpec.name) member)

/-- Builds and publishes images. Without a version they are the images of the mainline. -/
def publishImages (config : Config) (project : Project) (version : String) : JobSpec where
  name := imagesName
  image := config.images.docker
  env := [
    ("DOCKER_REGISTRY", (project.secret? config.secrets.registry).getD config.defaultRegistry),
    ("DOCKER_ORG", (project.secret? config.secrets.registryOrg).getD config.sources.org),
    ("DOCKER_USERNAME", (project.secret? config.secrets.registryUsername).getD ""),
    ("DOCKER_PASSWORD", (project.secret? config.secrets.registryPassword).getD ""),
    ("VERSION", version)]
  tasks := [
    "apk add --update --no-cache make git",
    "dockerd-entrypoint.sh &",
    "sleep 20",
    "cd /src",
    "echo \"$DOCKER_PASSWORD\" | docker login \"$DOCKER_REGISTRY\" "
      ++ "-u \"$DOCKER_USERNAME\" --password-stdin",
    "make build-all-images push-all-images",
    "docker logout \"$DOCKER_REGISTRY\""]
  privileged := true

def releaseUrl (project : Project) (tag : String) : String :=
  "https://github.com/" ++ project.repoName ++ "/releases/tag/" ++ tag

/-- The notes of a release: one line for each change since the tag before it. -/
def releaseNotes : String :=
  "$(git log --no-merges --pretty=format:'- %s %H (%aN)' HEAD ^$last_tag)"

/-- Builds the command line program for all platforms and uploads it as the release of a tag. -/
def release (config : Config) (project : Project) (tag : String) : JobSpec where
  name := releaseName
  image := config.images.go
  env := [
    ("SKIP_DOCKER", "true"),
    ("GITHUB_USER", project.org),
    ("GITHUB_REPO", project.name),
    ("GITHUB_TOKEN", (project.secret? config.secrets.releaseToken).getD "")]
  tasks := [
    "go get -u github.com/tcnksm/ghr",
    "cd " ++ config.sources.localPath,
    "VERSION=" ++ tag ++ " make build-brig",
    "last_tag=$(git describe --tags " ++ tag ++ "^ --abbrev=0 --always)",
    "ghr -u \"$GITHUB_USER\" -r \"$GITHUB_REPO\" -n \"" ++ project.name ++ " " ++ tag ++ "\" -b \""
      ++ releaseNotes ++ "\" " ++ tag ++ " bin",
    "echo \"Release is at " ++ releaseUrl project tag ++ "\""]
  workDir := some config.sources.localPath
  shell := "/bin/bash"

/-- A stage of a release: a job, or nothing in the place of one. -/
inductive Stage where
  | job (spec : JobSpec)
  | idle (name : String)
  deriving DecidableEq, Repr

def notifyName (config : Config) : String :=
  config.sources.name ++ "-slack-notify"

def notification (config : Config) (webhook title message : String) : JobSpec where
  name := notifyName config
  image := config.images.notify
  env := [
    ("SLACK_WEBHOOK", webhook),
    ("SLACK_USERNAME", config.notice.username),
    ("SLACK_TITLE", title),
    ("SLACK_MESSAGE", message),
    ("SLACK_COLOR", config.notice.color)]
  tasks := ["/slack-notify"]

/-- The stage that sends a notification, and what is written about it. Without the secret that
holds the address to send to, nothing is sent.
-/
def notify (config : Config) (project : Project) (title message : String) : Stage × List Message :=
  match project.secret? config.secrets.webhook with
  | some webhook => (.job (notification config webhook title message), [])
  | none =>
    (.idle (notifyName config),
      [.info ("Slack notification for '" ++ title ++ "' not sent; no " ++ config.secrets.webhook
        ++ " secret found.")])

end Conductor.Catalog
