import MatchPlane.Platform.Intake

/-!
# The builder

What the isolated builder checks of a job on its own: where the source of a package can be
fetched from, and what the manifest in the source asks to be built.  The builder is
written in Rust and shares no code with the intake.
-/

namespace MatchPlane.Platform

open MatchPlane.Library

/-! ## Sources -/

structure BuilderConfig where
  allowedGitHosts : List String
  deriving DecidableEq, Repr

def endsWith (text final : String) : Bool := final.toList.isSuffixOf text.toList

def validateAllowedHost (url : Url) (allowedHosts : List String) : Except String Unit :=
  let host := String.ofList (url.hostname.toList.map Char.toLower)
  if url.hostname = "" then .error "source URL has no host"
  else if allowedHosts.any (fun allowed =>
      host = allowed ∨ endsWith host ("." ++ allowed)) = false then
    .error ("source host " ++ host ++ " is not in the configured allowlist")
  else .ok ()

def isFullGitRevision (value : String) : Bool :=
  value.utf8ByteSize = 40 ∧ value.toList.all fun character =>
    character.isDigit ∨ ('a' ≤ character.toLower ∧ character.toLower ≤ 'f')

/-- Where a source is fetched from. -/
inductive SourceLocation where
  | upload (uploadId : Uuid)
  | download (url : Url)
  | checkout (url : Url) (revision : String)
  deriving DecidableEq, Repr

/-- The decisions of `materialize_source`; the bytes are fetched from the location. -/
def materializeSource [SourceText] (config : BuilderConfig) (job : RegistrationRequest) :
    Except String SourceLocation :=
  match job.sourceKind with
  | .archive =>
      if startsWith job.sourceLocator "upload://" then
        match SourceText.parseUuid (String.ofList (job.sourceLocator.toList.drop 9)) with
        | none => .error "archive upload locator is not a UUID"
        | some uploadId => .ok (.upload uploadId)
      else if startsWith job.sourceLocator "https://" then
        match SourceText.parseUrl job.sourceLocator with
        | none => .error "invalid URL"
        | some url => do
            validateAllowedHost url config.allowedGitHosts
            .ok (.download url)
      else .error "archive locator must be upload:// or HTTPS"
  | .git =>
      if isFullGitRevision job.pinnedRevision = false then
        .error "git pinnedRevision must be a full 40-character commit SHA"
      else match SourceText.parseUrl job.sourceLocator with
      | none => .error "git source locator is not a URL"
      | some url =>
          if url.scheme ≠ "https" ∨ url.username ≠ "" ∨ url.password ≠ "" then
            .error "builder accepts only credential-free HTTPS Git URLs"
          else do
            validateAllowedHost url config.allowedGitHosts
            .ok (.checkout url job.pinnedRevision)
  | .remote => .error "unsupported source kind remote"

/-! ## Manifests -/

/-- `str::split_whitespace`. -/
def splitWhitespace (text : String) : List String :=
  ((text.toList.splitOnP isWhitespace).filter (· ≠ [])).map String.ofList

inductive BuildTemplate where
  | bun
  | npm
  | pnpm
  | yarn
  deriving DecidableEq, Repr

/-- The words of a command that is built from a template. -/
def BuildTemplate.command : BuildTemplate → List String
  | bun => ["bun", "run", "build"]
  | npm => ["npm", "run", "build"]
  | pnpm => ["pnpm", "run", "build"]
  | yarn => ["yarn", "build"]

def BuildTemplate.parse (command : String) : Except String BuildTemplate :=
  let words := splitWhitespace command
  if words = bun.command then .ok .bun
  else if words = npm.command then .ok .npm
  else if words = pnpm.command then .ok .pnpm
  else if words = yarn.command then .ok .yarn
  else .error "manifest buildCommand is not an allow-listed static template"

inductive DependencyPolicy where
  | locked
  | latest
  deriving DecidableEq, Repr

def DependencyPolicy.parse (value : Option String) (template : BuildTemplate) :
    Except String DependencyPolicy :=
  match value.getD "locked" with
  | "locked" => .ok .locked
  | "latest" =>
      if template ≠ .bun then
        .error
          "manifest.assets.dependencyPolicy latest currently requires the Bun build template"
      else .ok .latest
  | other => .error
      ("manifest.assets.dependencyPolicy must be locked or latest, got " ++ other)

/-- Every segment that is left is a normal component of the path. -/
def safeRelativePath (path : String) : Except String String :=
  if path = "" ∨ path.toList.head? = some '/' then
    .error "path must be relative and non-empty"
  else if '\\' ∈ path.toList ∨ (path.toList.splitOn '/').any (fun segment =>
      segment = [] ∨ segment = ['.'] ∨ segment = ['.', '.']) then
    .error "path contains traversal or an empty component"
  else .ok path

structure BuildManifest where
  slug : String
  staticDirectory : String
  buildTemplate : BuildTemplate
  dependencyPolicy : DependencyPolicy
  deriving DecidableEq, Repr

def required {α : Type} (message : String) : Option α → Except String α
  | some value => .ok value
  | none => .error message

def asObject : Json → Option Json
  | .object fields => some (.object fields)
  | _ => none

/-- What the assets of a manifest ask for. -/
def readAssets (assets : Json) : Except String (String × BuildTemplate × DependencyPolicy) := do
  let staticDirectory ← required "manifest.assets.staticDirectory is required"
    (assets.text "staticDirectory")
  let buildCommand ← required "manifest.assets.buildCommand is required"
    (assets.text "buildCommand")
  let staticDirectory ← safeRelativePath staticDirectory
  let buildTemplate ← BuildTemplate.parse buildCommand
  let dependencyPolicy ← DependencyPolicy.parse (assets.text "dependencyPolicy") buildTemplate
  .ok (staticDirectory, buildTemplate, dependencyPolicy)

/-- The checks of `read_manifest` on the value of the file; its digest is compared apart. -/
def readManifest (value : Json) (job : RegistrationRequest) : Except String BuildManifest := do
  let object ← required "manifest must be a JSON object" (asObject value)
  let id ← required "manifest.id is required" (object.text "id")
  let slug ← required "manifest.slug is required" (object.text "slug")
  if id ≠ job.packageId ∨ slug ≠ job.slug then
    .error "manifest id/slug does not match the registration"
  else if object.text "apiVersion" ≠ some "matchplane.subplatform/v1" ∨
      object.text "rootApiVersion" ≠ some "v1" then
    .error "unsupported subplatform manifest API"
  else do
    let assets ← required "manifest.assets is required" ((object.get "assets").bind asObject)
    let (staticDirectory, buildTemplate, dependencyPolicy) ← readAssets assets
    .ok ⟨slug, staticDirectory, buildTemplate, dependencyPolicy⟩

end MatchPlane.Platform
