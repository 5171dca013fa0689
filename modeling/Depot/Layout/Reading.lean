import Depot.Layout
import Depot.Text.Quoted

/-!
Reading an artifact off its path. The three last directories and the file name have to agree: the
file name begins with artifact id and version, or with a build of the directory's snapshot.
-/

namespace Depot.Layout

open Text

inductive PathError
  | notAPath (path : String)
  | noGroup (path : String)
  | otherArtifact (file artifact : String)
  | otherVersion (file version : String)
  | otherSnapshot (file version : String)
  | noBuild (file : String)
  | buildNumber (fault : Natural.Fault)
  | invalidClassifier (file : String)
  | afterVersion (file : String)
  | noExtension (file : String)
deriving DecidableEq, Repr

def PathError.message : PathError → String
  | notAPath path => "not a valid Maven artifact path: " ++ Quoted.write path
  | noGroup path => "not a valid Maven artifact path (no group): " ++ Quoted.write path
  | otherArtifact file artifact =>
      file ++ " is not a valid maven file name: expected to start with artifact id " ++ artifact
  | otherVersion file version =>
      file ++ " is not a valid maven file name: expected to have version string " ++ version
  | otherSnapshot file version =>
      file ++ " is not a valid maven file name: expected to have snapshot version " ++ version
  | noBuild file => "snapshot file name has neither '-SNAPSHOT' nor a timestamp: " ++ file
  | buildNumber fault => fault.message
  | invalidClassifier file =>
      "not a valid maven file name - invalid classifier format: " ++ file
  | afterVersion file =>
      "not a valid maven file name - unexpected characters after the version: " ++ file
  | noExtension file => "maven file name without extension: " ++ file

/-- A timestamp, a dash and a number at the beginning, and what follows. -/
def readBuild? (s : List Char) : Option (List Char × List Char × List Char) :=
  match s.drop 15 with
  | '-' :: rest =>
      let digits := rest.takeWhile isDecimalDigit
      if Version.isTimestamp (s.take 15) && !digits.isEmpty then
        some (s.take 15, digits, rest.dropWhile isDecimalDigit)
      else none
  | _ => none

/-- The version at the beginning of what follows artifact id and dash, and the rest. -/
def readVersion (file version : String) (s : List Char) :
    Except PathError (Version × List Char) :=
  match afterLead? version.toList s with
  | some rest => .ok (.ofString version, rest)
  | none =>
      match beforeTail? snapshotTail.toList version.toList with
      | none => .error (.otherVersion file version)
      | some base =>
          match afterLead? (base ++ ['-']) s with
          | none => .error (.otherSnapshot file version)
          | some build =>
              match readBuild? build with
              | none => .error (.noBuild file)
              | some (timestamp, digits, rest) =>
                  match Natural.read UInt32.size digits with
                  | .error fault => .error (.buildNumber fault)
                  | .ok n =>
                      .ok (.build (String.ofList base) (String.ofList timestamp) (UInt32.ofNat n),
                        rest)

/-- Classifier and extension. A classifier has any number of dashes but no dot. -/
def readEnding (file : String) (s : List Char) : Except PathError (Option String × String) :=
  let split : Except PathError (Option (List Char) × List Char) :=
    match s with
    | '-' :: rest =>
        match splitFirst '.' rest with
        | some (c :: classifier, extension) => .ok (some (c :: classifier), extension)
        | _ => .error (.invalidClassifier file)
    | '.' :: extension => .ok (none, extension)
    | _ => .error (.afterVersion file)
  match split with
  | .error e => .error e
  | .ok (_, []) => .error (.noExtension file)
  | .ok (classifier, extension) => .ok (classifier.map String.ofList, String.ofList extension)

/-- Version, classifier and extension of a file in the directory of an artifact's version. -/
def readFileName (file artifact version : String) :
    Except PathError (Version × Option String × String) :=
  match afterLead? (artifact.toList ++ ['-']) file.toList with
  | none => .error (.otherArtifact file artifact)
  | some rest => do
      let (version, rest) ← readVersion file version rest
      let (classifier, extension) ← readEnding file rest
      return (version, classifier, extension)

/-- Group, artifact id, version and file name of a path without slashes before it. -/
def components? (path : List Char) :
    Option (List Char × List Char × List Char × List Char) := do
  let (rest, file) ← splitLast '/' path
  let (rest, version) ← splitLast '/' rest
  let (group, artifact) ← splitLast '/' rest
  return (group, artifact, version, file)

/-- The artifact that lies at a path; slashes before it do not count. -/
def readPath (path : String) : Except PathError Artifact :=
  let path := path.toList.dropWhile (· == '/')
  match components? path with
  | none => .error (.notAPath (String.ofList path))
  | some ([], _, _, _) => .error (.noGroup (String.ofList path))
  | some (group, artifact, version, file) => do
      let artifact := String.ofList artifact
      let (version, classifier, extension) ←
        readFileName (String.ofList file) artifact (String.ofList version)
      return {
        coordinates := {
          group := String.ofList (replaceChar '/' '.' group), artifact, version },
        classifier, extension }

end Depot.Layout
