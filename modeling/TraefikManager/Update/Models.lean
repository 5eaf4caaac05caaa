import TraefikManager.Foundation.Json
import TraefikManager.Foundation.Substring
import TraefikManager.Runtime

/-!
# Data of the Traefik patch update

Versions, images, checks, requests and the configuration of the host runner.
-/

namespace TraefikManager.Update

open Foundation

section Versions

/-- The zeros of the decimal digits; nine more digits follow each. -/
def decimalZeros : List Nat := Text.decimalZeros

/-- The value of a character that `\\d` matches. -/
def decimalValue? (c : Char) : Option Nat :=
  (decimalZeros.find? fun zero => zero ≤ c.toNat ∧ c.toNat < zero + 10).map (c.toNat - ·)

/-- `int` of a text that `\\d+` matches. -/
def decimalNumber? (digits : List Char) : Option Nat :=
  if digits = [] then none
  else (digits.mapM decimalValue?).map fun values =>
    values.foldl (fun value digit => value * 10 + digit) 0

/-- The groups of `VERSION_PATTERN` in a text it matches as a whole. -/
def versionNumbers (version : String) : Option (Nat × Nat × Nat) :=
  match version.toList with
  | 'v' :: rest =>
      match rest.splitOn '.' with
      | [major, minor, patch] => do
          let major ← decimalNumber? major
          let minor ← decimalNumber? minor
          let patch ← decimalNumber? patch
          some (major, minor, patch)
      | _ => none
  | _ => none

/-- `VERSION_PATTERN.fullmatch`. -/
def isVersion (text : String) : Bool := (versionNumbers text).isSome

/-- `image.rsplit(":", 1)`, when there is a colon. -/
def splitImage (image : String) : Option (String × String) :=
  let reversed := image.toList.reverse
  match reversed.dropWhile (· ≠ ':') with
  | [] => none
  | _ :: before =>
      some (String.ofList before.reverse, String.ofList (reversed.takeWhile (· ≠ ':')).reverse)

/-- `is_forward_patch`. -/
def isForwardPatch (current target : String) : Bool :=
  match versionNumbers current, versionNumbers target with
  | some (currentMajor, currentMinor, currentPatch), some (major, minor, patch) =>
      currentMajor = major ∧ currentMinor = minor ∧ currentPatch < patch
  | _, _ => false

end Versions

section Checks

inductive CheckStatus where
  | ok
  | fail
  deriving DecidableEq, Repr

def CheckStatus.text : CheckStatus → String
  | ok => "ok"
  | fail => "fail"

/-- A validation as the history records it. -/
structure Check where
  key : String
  status : CheckStatus
  message : String
  deriving DecidableEq, Repr

/-- `_validation`. -/
def validation (key : String) (passed : Bool) (detail : String) : Check :=
  { key, status := if passed then .ok else .fail, message := detail }

end Checks

section Errors

/-- The exceptions of the runner, as its handlers tell them apart. -/
inductive UpdateError where
  | osError (text : String)
  | valueError (text : String)
  | runtimeError (text : String)
  | rejected (text : String)
  | validationError (text : String) (validations : List Check)
  | timeoutExpired (text : String)
  deriving DecidableEq, Repr

namespace UpdateError

/-- `str(exc)`. -/
def text : UpdateError → String
  | osError text | valueError text | runtimeError text | rejected text => text
  | validationError text _ => text
  | timeoutExpired text => text

/-- What `except (OSError, RuntimeError, ValueError)` lets pass. -/
def isTimeout : UpdateError → Bool
  | timeoutExpired _ => true
  | _ => false

/-- `exc.validations if isinstance(exc, ValidationError) else []`. -/
def validations : UpdateError → List Check
  | validationError _ validations => validations
  | _ => []

end UpdateError

/-- `message`: one line of at most 300 characters. -/
def message (text : String) : String := Text.takeChars 300 (Text.joinWords text)

/-- `version_from_image`. -/
def versionFromImage (image : String) : Except UpdateError String :=
  match splitImage image with
  | none => .error (.rejected "현재 Traefik 이미지 버전을 확인할 수 없습니다")
  | some (_, version) =>
      if isVersion version then .ok version
      else .error (.rejected "현재 Traefik 이미지가 고정된 버전 태그가 아닙니다")

end Errors

section Configuration

/-- The names of an absolute path, from the root. -/
abbrev Path := List String

/-- `str(path)`. -/
def pathText (path : Path) : String := "/" ++ Text.join "/" path

/-- `directory in path.parents`. -/
def isInside (directory path : Path) : Bool := directory.isPrefixOf path ∧ directory ≠ path

/-- `raw.get("schema_version") == 1`. -/
def isSchemaOne : Option Json → Bool
  | some (.int version) => version = 1
  | some (.bool version) => version
  | _ => false

/-- `_validated_name`. -/
def isName (text : String) : Bool :=
  (text.toList.all fun c => Text.isLetter c || Text.isDigit c || c ∈ ['_', '.', '-']) ∧
    0 < text.toList.length ∧ text.toList.length ≤ 100

/-- `RunnerConfig`, as far as an update depends on it. -/
structure RunnerConfig where
  composeDir : Path
  composeFiles : List Path
  acmeFile : Path
  service : String
  network : String
  managerHealthUrl : String
  serviceValid : isName service = true
  networkValid : isName network = true
  composeFilesNodup : composeFiles.Nodup

/-- `UpdateRequest`: what `read_request` has let pass. -/
structure UpdateRequest where
  requestId : Uuid
  targetVersion : String
  actor : String
  requestedAt : String
  targetValid : isVersion targetVersion = true
  actorValid : actor ≠ "" ∧ actor.length ≤ 100 ∧ ∀ c ∈ actor.toList, 32 ≤ c.toNat

/-- `Preflight`. -/
structure Preflight where
  currentImage : String
  currentVersion : String
  targetImage : String
  imageComposeFile : Path
  deriving DecidableEq, Repr

end Configuration

end TraefikManager.Update
