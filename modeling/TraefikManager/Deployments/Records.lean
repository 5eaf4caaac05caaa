import TraefikManager.Foundation.ByteLines
import TraefikManager.Foundation.Substring
import TraefikManager.Monitoring.MonitorState

/-!
# Reading records

The backend keeps its records as files of lines and checks the fields of each that it reads.
-/

namespace TraefikManager.Deployments

open Foundation

section Constants

/-- `ALERT_CHANNELS` -/
def alertChannels : List String := ["anubis", "github"]

end Constants

section Patterns

/-- `[A-Za-z0-9_.-]` -/
def isOwnerChar (c : Char) : Bool := Text.isLetter c || Text.isDigit c || c ∈ ['_', '.', '-']

/-- `[1-9][0-9]*` -/
def isRunId : List Char → Bool
  | [] => false
  | first :: rest => ('1' ≤ first && first ≤ '9') && rest.all Text.isDigit

/-- Whether `build_actions_run_api_url` finds the URL of a run. -/
def isActionsRunUrl (runUrl : String) : Bool :=
  match (Text.strip runUrl).toList.splitOn '/' with
  | scheme :: empty :: host :: owner :: repository :: actions :: runs :: runId :: trailing =>
      [scheme, empty, host, actions, runs] =
        ["https:".toList, [], "github.com".toList, "actions".toList, "runs".toList] &&
      [owner, repository].all (fun name => !name.isEmpty && name.all isOwnerChar) &&
      isRunId runId && (trailing = [] || trailing = [[]])
  | _ => false

/-- `normalize_alert_delivery`. -/
def normalizeAlertDelivery (rawChannel rawRunUrl : Option Json) :
    Option (Option String × Option String) := do
  let runUrl ← match rawRunUrl with
    | none | some .null => some none
    | some (.string url) =>
        if url = "" then some none else if isActionsRunUrl url then some (some url) else none
    | some _ => none
  let channel ← match rawChannel with
    | none | some .null => some (runUrl.map fun _ => "github")
    | some (.string channel) =>
        if channel = "" then some (runUrl.map fun _ => "github")
        else if channel ∈ alertChannels then some (some channel)
        else none
    | some _ => none
  if channel = some "github" ∧ runUrl = none then none
  else if channel = some "anubis" ∧ runUrl ≠ none then none
  else some (channel, runUrl)

end Patterns

section Entries

/-- A text. -/
def stringOf? : Option Json → Option String
  | some (.string text) => some text
  | _ => none

/-- A number that is an `int`. -/
def intOf? : Option Json → Option Int
  | some (.int value) => some value
  | _ => none

end Entries

section Reading

/-- What a file of lines holds. -/
def contentOf (lines : List (List Char)) : Bytes := Bytes.ofLines (lines.map Bytes.encode)

theorem contentOf_eq (lines : List (List Char)) :
    contentOf lines = Bytes.encode (lines.flatMap (· ++ ['\n'])) := by
  have newline : Bytes.encode ['\n'] = [10] := by decide
  induction lines with
  | nil => rfl
  | cons line lines ih =>
      have parts : contentOf (line :: lines) =
          Bytes.encode line ++ ([10] ++ contentOf lines) := by
        simp [contentOf, Bytes.ofLines]
      rw [parts, ih, List.flatMap_cons, Bytes.encode_append, Bytes.encode_append, newline,
        List.append_assoc]

end Reading

end TraefikManager.Deployments
