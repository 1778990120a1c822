import Emend.Json.Basic
import Emend.Toml.Reader
import Emend.Tree.Resolve

/-!
# The version of a project

A project states its version in a manifest at its root: in `package.json`, or else in `Cargo.toml`,
for the package itself or for the packages of the workspace.

`projectVersion` takes the first version that is stated. A manifest that is there but cannot be
read is a fault, even if another one would do.
-/

namespace Emend

/-- Why the version of a project is not known. -/
inductive ManifestFault where
  | unreadable (manifest : Path) (fault : SystemFault)
  | malformed (manifest : Path)
  | noVersion
  deriving DecidableEq, Repr, Inhabited

/-- What is said of it. -/
def ManifestFault.reason : ManifestFault → String
  | unreadable manifest fault => manifest ++ ": " ++ fault.message
  | malformed manifest => manifest ++ ": the manifest is malformed"
  | noVersion => "no version in package.json or Cargo.toml"

/-- What is said of a root whose version is not known. -/
def ManifestFault.message (root : Path) (fault : ManifestFault) : String :=
  "cannot determine project version in " ++ root ++ ": " ++ fault.reason

/-- What a manifest states, if it is there. `parse?` reads its text. -/
def manifest? (t : Tree) (path : Path) (parse? : String → Option α) :
    Except ManifestFault (Option α) :=
  if t.isFile path then
    match t.readText path with
    | .error fault => .error (.unreadable path fault)
    | .ok text =>
      match parse? text with
      | none => .error (.malformed path)
      | some value => .ok (some value)
  else .ok none

/-- The version in a `package.json`. -/
def packageVersion? (manifest : Json) : Option String :=
  (manifest.get? "version").bind Json.string?

/-- The version in a `Cargo.toml`: that of the package, or that of the workspace if the package
states none. A version of the package that is no text hides the one of the workspace. -/
def cargoVersion? (manifest : Toml) : Option String :=
  let own := (manifest.get? "package").bind (Toml.get? "version")
  let shared := (manifest.get? "workspace").bind fun workspace =>
    (workspace.get? "package").bind (Toml.get? "version")
  (own <|> shared).bind Toml.string?

/-- The version of the project at a root. -/
def projectVersion (t : Tree) (root : Path) : Except ManifestFault String := do
  let package ← manifest? t (Path.join root "package.json") Json.parse?
  match package.bind packageVersion? with
  | some version => return version
  | none =>
    let cargo ← manifest? t (Path.join root "Cargo.toml") fun text => (Toml.parse text).toOption
    match cargo.bind cargoVersion? with
    | some version => return version
    | none => throw .noVersion

end Emend
