import TraefikManager.Foundation.Program
import TraefikManager.Update.Models

/-!
# The host of the update runner

The runner reads and writes files, runs docker and curl, and appends to its histories.
A file operation may raise and then has changed nothing, except that an appended line may
already stand in its file. A command may fail to start, time out or return any status and
any text; the commands themselves change no file of the runner.
-/

namespace TraefikManager.Update

open Foundation

section State

/-- A file and its permission bits. -/
structure File where
  content : String
  mode : Nat
  deriving DecidableEq, Repr

/-- The files of the compose directory, and what the runner keeps in its state directory. -/
structure Host where
  files : List (Path × File)
  history : String := ""
  recreateState : Option String := none
  recreateHistory : String := ""
  recovery : Option (String × String) := none
  deriving DecidableEq, Repr

namespace Host

variable (host : Host)

def file? (path : Path) : Option File := host.files.lookup path

/-- The content of a file. -/
def content (path : Path) : Option String := (host.file? path).map (·.content)

/-- `atomic_write`: a file has its old content or its new one. -/
def write (path : Path) (file : File) : Host :=
  { host with files := (path, file) :: host.files.filter (·.1 ≠ path) }

/-- Whether a directory holds a file. -/
def holdsFile (directory : Path) : Bool := host.files.any (directory.isPrefixOf ·.1)

/-- `shutil.rmtree`. -/
def removeTree (directory : Path) : Host :=
  { host with files := host.files.filter (!directory.isPrefixOf ·.1) }

private theorem lookup_filter (keep : Path → Bool) (files : List (Path × File)) (path : Path) :
    (files.filter fun entry => keep entry.1).lookup path =
      if keep path then files.lookup path else none := by
  induction files with
  | nil => simp
  | cons first files ih =>
      obtain ⟨name, file⟩ := first
      rw [List.filter_cons, List.lookup_cons]
      by_cases same : path = name
      · subst same
        by_cases isKept : keep path = true
        · simp [isKept]
        · simp [isKept, ih]
      · have differs : (path == name) = false := beq_false_of_ne same
        by_cases isKept : keep name = true
        · simp only [isKept, if_true, List.lookup_cons, differs, ih]
        · simp only [isKept, if_false, differs, ih, Bool.false_eq_true]

@[simp] theorem file?_write (path other : Path) (file : File) :
    (host.write path file).file? other = if other = path then some file else host.file? other := by
  unfold file? write
  rw [List.lookup_cons]
  by_cases same : other = path
  · simp [same]
  · have kept := lookup_filter (· ≠ path) host.files other
    simp only [ne_eq, same, not_false_eq_true, decide_true, if_true] at kept
    simp only [beq_false_of_ne same, same, if_false]
    exact kept

@[simp] theorem file?_removeTree (directory other : Path) :
    (host.removeTree directory).file? other =
      if directory.isPrefixOf other then none else host.file? other := by
  unfold file? removeTree
  have kept := lookup_filter (!directory.isPrefixOf ·) host.files other
  by_cases inside : directory.isPrefixOf other = true
  · simpa only [inside, Bool.not_true, Bool.false_eq_true, if_false, if_true] using kept
  · rw [Bool.not_eq_true] at inside
    simpa only [inside, Bool.not_false, Bool.false_eq_true, if_false, if_true] using kept

end Host

end State

section Environment

/-- What an update does for its first time and again to roll back. -/
inductive Stage where
  | verification
  | update
  | rollback
  deriving DecidableEq, Repr

/-- When docker is asked. -/
inductive Moment where
  | preflight
  | rejection
  | beforeRecreate (stage : Stage)
  | recreated (stage : Stage)
  | validation (stage : Stage) (round : Nat)
  deriving DecidableEq, Repr

/-- What docker is asked to print of the container. -/
inductive Template where
  | running
  | health
  | versionLabel
  | image
  | networks
  | identity
  deriving DecidableEq, Repr

inductive Command where
  | inspect (moment : Moment) (template : Template)
  | composeServices
  | composePull
  | composeUp (stage : Stage)
  | healthCheck (stage : Stage) (round : Nat)
  deriving DecidableEq, Repr

/-- How a command ends. Its output is text: one that cannot be decoded is left out. -/
inductive Completed where
  | exited (returncode : Int) (stdout stderr : String)
  | osError (text : String)
  | timeoutExpired (text : String)
  deriving DecidableEq, Repr

/-- The file operations that may raise. -/
inductive Step where
  | checkFiles
  | statAcme
  | readComposeFile (index : Nat)
  | makeBackupDir
  | copyComposeFile (index : Nat)
  | copyAcme
  | readReplaced
  | writeReplaced
  | heartbeatApplying
  | heartbeatWaiting (round : Nat)
  | readBackup (index : Nat)
  | writeRestored (index : Nat)
  | readRecreateState (stage : Stage)
  | writeRecreateState (stage : Stage)
  | writeRecoveryResult
  deriving DecidableEq, Repr

/-- What a file operation raises. -/
inductive FileError where
  | osError (text : String)
  | valueError (text : String)
  deriving DecidableEq, Repr

def FileError.toUpdateError : FileError → UpdateError
  | osError text => .osError text
  | valueError text => .valueError text

/-- Where `process_request` appends to the history. -/
inductive HistoryPoint where
  | rejected
  | running
  | backupFailed
  | success
  | verified
  | unverified
  | rollback
  deriving DecidableEq, Repr

/-- An append that raises, before or after its line stands in the file. -/
structure AppendFailure where
  error : FileError
  written : Bool
  deriving DecidableEq, Repr

/-- What surrounds one run of the runner: the commands, the file operations that raise,
the clock and the waits for a window in which the container may be recreated. -/
structure UpdateEnvironment where
  runs : Command → Completed
  fails : Step → Option FileError := fun _ => none
  historyFails : HistoryPoint → Option AppendFailure := fun _ => none
  recreateHistoryFails : Stage → Option AppendFailure := fun _ => none
  startedAt : Datetime := .utc 0
  completedAt : Datetime := .utc 0
  observedAt : Stage → Datetime := fun _ => .utc 0
  backupTimestamp : String := ""
  waits : Nat := 0
  parseDatetime : String → Option Datetime := fun _ => none
  decodeErrorText : String → String := fun _ => "Expecting value: line 1 column 1 (char 0)"

end Environment

section Primitives

abbrev Runner : Type → Type := Program UpdateError Host

variable (environment : UpdateEnvironment)

/-- A file operation that is reached, and may raise. -/
def reached (step : Step) : Except UpdateError PUnit :=
  match environment.fails step with
  | some failure => .error failure.toUpdateError
  | none => .ok ⟨⟩

def reach (step : Step) : Runner PUnit := Program.ofExcept (reached environment step)

/-- `_run`: the text of a command that succeeds. -/
def runCommand (command : Command) : Except UpdateError String :=
  match environment.runs command with
  | .osError text => .error (.osError text)
  | .timeoutExpired text => .error (.timeoutExpired text)
  | .exited returncode stdout stderr =>
      if returncode ≠ 0 then
        let detail :=
          if Text.strip stderr ≠ "" then Text.strip stderr
          else if Text.strip stdout ≠ "" then Text.strip stdout
          else "exit " ++ toString returncode
        .error (.runtimeError (message detail))
      else .ok (Text.strip stdout)

/-- `_docker_inspect`. -/
def dockerInspect (moment : Moment) (template : Template) : Except UpdateError String :=
  runCommand environment (.inspect moment template)

/-- `_safe_inspect`. -/
def safeInspect (moment : Moment) (template : Template) : Option String :=
  (dockerInspect environment moment template).toOption

def maxHistoryLines : Nat := 200

/-- A history after a line is appended; only its last lines are kept. -/
def appendLine (history line : String) : String :=
  let text := history ++ line ++ "\n"
  let lines := Text.splitLines text
  if maxHistoryLines < lines.length then
    Text.join "\n" (lines.drop (lines.length - maxHistoryLines)) ++ "\n"
  else text

/-- Append a line to a history, with the failure the environment chooses. -/
def appendTo (failure : Option AppendFailure) (change : (String → String) → Host → Host)
    (line : String) : Runner PUnit :=
  match failure with
  | none => modify (change (appendLine · line))
  | some failure => do
      if failure.written then
        modify (change (· ++ line ++ "\n"))
      throw failure.error.toUpdateError

end Primitives

end TraefikManager.Update
