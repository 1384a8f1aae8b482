import Conductor.Template
import Conductor.Value.Narrow

/-!
The configuration of the orchestrator. It is read from a table; entries that are absent, blank or
of another shape leave the defaults.
-/

namespace Conductor

/-- The container images that jobs run in. -/
structure Images where
  go : String := "quay.io/deis/lightweight-docker-go:v0.7.0"
  js : String := "node:12.3.1-stretch"
  docker : String := "docker:stable-dind"
  kind : String := "brigadecore/golang-kind:1.12.7-v0.4.0"
  notify : String := "technosophos/slack-notify:latest"
  deriving DecidableEq, Repr

/-- The project that is built, and where its sources belong. -/
structure Sources where
  name : String := "brigade"
  org : String := "brigadecore"
  mainline : String := "master"
  gopath : String := "/go"
  deriving DecidableEq, Repr

/-- The directory of the sources within a Go workspace. -/
def Sources.localPath (sources : Sources) : String :=
  sources.gopath ++ "/src/github.com/" ++ sources.org ++ "/" ++ sources.name

/-- The names of the project secrets that releases use. -/
structure SecretKeys where
  releaseToken : String := "ghToken"
  registry : String := "dockerhubRegistry"
  registryOrg : String := "dockerhubOrg"
  registryUsername : String := "dockerhubUsername"
  registryPassword : String := "dockerhubPassword"
  webhook : String := "SLACK_WEBHOOK"
  deriving DecidableEq, Repr

/-- How notifications look. -/
structure NoticeStyle where
  username : String := "brigade-ci"
  color : String := "#00ff00"
  deriving DecidableEq, Repr

/-- The pattern of official release tags: a version after `v`, in numbers with points between
them, and an optional name behind a hyphen.
-/
def defaultTagPattern : String := "^refs/tags/(v[0-9]+(?:\\.[0-9]+)*(?:-.+)?)$"

/-- The template of the addresses at which builds are shown. -/
def defaultDetailsTemplate : String :=
  "https://brigadecore.github.io/kashti/builds/\x7bbuild_id\x7d"

/-- The configuration. -/
structure Config where
  images : Images := {}
  sources : Sources := {}
  secrets : SecretKeys := {}
  notice : NoticeStyle := {}
  tagPattern : String := defaultTagPattern
  detailsTemplate : String := defaultDetailsTemplate
  commentTrigger : String := "/brig run"
  defaultRegistry : String := "docker.io"
  deriving DecidableEq, Repr

/-- The string under a key of a table that may be absent, or a default. -/
def Table.stringD (table : Option (Table String)) (key default : String) : String :=
  ((table.bind fun table => table.string? key).getD default)

def Images.ofTable (table : Option (Table String)) : Images :=
  let d : Images := {}
  { go := Table.stringD table "go" d.go
    js := Table.stringD table "js" d.js
    docker := Table.stringD table "docker" d.docker
    kind := Table.stringD table "kind" d.kind
    notify := Table.stringD table "notify" d.notify }

def Sources.ofTable (table : Option (Table String)) : Sources :=
  let d : Sources := {}
  { name := Table.stringD table "name" d.name
    org := Table.stringD table "org" d.org
    mainline := Table.stringD table "mainline_branch" d.mainline
    gopath := Table.stringD table "gopath" d.gopath }

def SecretKeys.ofTable (table : Option (Table String)) : SecretKeys :=
  let d : SecretKeys := {}
  { releaseToken := Table.stringD table "release_token" d.releaseToken
    registry := Table.stringD table "registry" d.registry
    registryOrg := Table.stringD table "registry_org" d.registryOrg
    registryUsername := Table.stringD table "registry_username" d.registryUsername
    registryPassword := Table.stringD table "registry_password" d.registryPassword
    webhook := Table.stringD table "webhook" d.webhook }

def NoticeStyle.ofTable (table : Option (Table String)) : NoticeStyle :=
  let d : NoticeStyle := {}
  { username := Table.stringD table "username" d.username
    color := Table.stringD table "color" d.color }

namespace Config

def ofTable (table : Table String) : Config :=
  let d : Config := {}
  { images := .ofTable (table.inner? "images")
    sources := .ofTable (table.inner? "project")
    secrets := .ofTable (table.inner? "secrets")
    notice := .ofTable (table.inner? "notify")
    tagPattern := Table.stringD table "release_tag_pattern" d.tagPattern
    detailsTemplate := Table.stringD table "details_url_template" d.detailsTemplate
    commentTrigger := Table.stringD table "comment_trigger" d.commentTrigger
    defaultRegistry := Table.stringD table "default_registry" d.defaultRegistry }

def detailsUrl (attributes : Template.Attributes) (config : Config) (buildId : String)
    : Except Template.Refusal String :=
  Template.render attributes config.detailsTemplate buildId

end Config

end Conductor
