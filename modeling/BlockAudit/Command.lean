import BlockAudit.Audit
import BlockAudit.Schema
import BlockAudit.Settings.Load
import BlockAudit.Store

/-!
# Commands

The command line: a command with its arguments is run on the standard input and a file tree, and ends
with an exit code, two texts of output and a file tree.
-/

namespace BlockAudit

/-- What a command is run on. -/
structure Surroundings where
  tree : FileTree
  /-- The absolute path of the working directory. -/
  directory : Text
  input : ByteArray
  now : Timestamp
  /-- The disk that the command writes to. -/
  disk : Disk := {}

/-- What a command leaves. -/
structure Ending where
  failed : Bool := false
  output : Text := []
  /-- What is written on the standard error. -/
  notices : Text := []
  tree : FileTree

namespace Ending

def exitCode (e : Ending) : Nat := if e.failed then 1 else 0

/-- A failure with the given message, after the given notices. -/
def failure (tree : FileTree) (message : Text) (notices : Text := []) : Ending :=
  { failed := true, notices := notices ++ "Error: " ++ message ++ ['\n'], tree }

end Ending

namespace Command

/-- The help text. -/
def usage : Text := "
cmblocks - SSOT compliance for AI-generated WordPress blocks

USAGE:
    cmblocks <COMMAND> [OPTIONS]

COMMANDS:
    process <response.txt|->      Extract, validate and auto-fix a response
        --out <dir>               Write the block files under <dir>
        --strict                  Fail when violations remain after auto-fix
        --no-fix                  Validate only
        --json                    Print the report as JSON
    validate <block-dir>          Validate a block directory
        --fix                     Apply auto-fixes in place
        --strict                  Fail when violations remain
        --json                    Print the report as JSON
    compose <block-dir>           Print a block directory as a response
    schema [report|config]        Print a JSON schema
    init [--force]                Write a default .cmblocks.yaml
    version                       Print version
    help                          Print this message

ENVIRONMENT:
    CMBLOCKS_LOG                  Log filter (default: cmblocks=info)

"

/-- The arguments hold a flag. -/
def hasFlag (args : List Text) (flag : Text) : Bool := args.contains flag

/-- The first argument, unless it is a flag. -/
def target? (args : List Text) : Option Text :=
  args.head?.filter fun arg => !Text.startsWith "--" arg

/-- The argument after the first of the options for a directory that has one after it. -/
def outputRoot? : List Text → Option Text
  | arg :: next :: args =>
    if arg = "--out".toList ∨ arg = "-o".toList then some next else outputRoot? (next :: args)
  | _ => none

/-- The text of a file, or of the standard input if the path is a hyphen. -/
def readInput (s : Surroundings) (path : Text) : Except Error Text :=
  if path = ['-'] then
    match Text.ofUtf8? s.input with
    | some text => .ok text
    | none => .error (.fileFailed .notText)
  else (s.tree.readText path).mapError (.unreadable path)

/-- The audit that the settings of the working directory and the flags ask for. -/
def auditOf (s : Surroundings) (args : List Text) : Except Error Audit := do
  let audit := Audit.ofSettings (← Settings.loadOrDefault s.tree s.directory)
  return { audit with
    policy := if hasFlag args "--strict" then .strict else audit.policy
    applyFixes := !hasFlag args "--no-fix" }

/-- A report as it is printed. -/
def reportText (args : List Text) (report : Report) : Text :=
  if hasFlag args "--json" then report.jsonText ++ ['\n'] else report.text

/-- Runs an audit on a response. -/
def processResponse (s : Surroundings) (args : List Text) (path : Text) : Except Error Outcome := do
  let response ← readInput s path
  let audit ← auditOf s args
  (audit.run s.now response).result

/-- Audits a response, and writes the block if a directory for it is given. -/
def process (s : Surroundings) (args : List Text) : Ending :=
  match target? args with
  | none =>
    .failure s.tree
      "Usage: cmblocks process <response.txt|-> [--out <dir>] [--strict] [--json] [--no-fix]"
  | some path =>
    match processResponse s args path with
    | .error e => .failure s.tree e.message
    | .ok outcome =>
      match outputRoot? args with
      | none => { output := reportText args outcome.report, tree := s.tree }
      | some root =>
        match outcome.bundle.writeBelow root s.tree s.disk with
        | (tree, .error e) => .failure tree e.message
        | (tree, .ok dir) =>
          { output := reportText args outcome.report
            notices := "Written to: " ++ dir ++ ['\n']
            tree }

/-- Runs an audit on the block of a directory; it is fixed only with the flag for it. -/
def validateBlock (s : Surroundings) (args : List Text) (dir : Text) : Except Error Outcome := do
  let bundle ← Bundle.load s.tree dir
  let audit ← auditOf s args
  let audit := { audit with applyFixes := audit.applyFixes && hasFlag args "--fix" }
  (audit.runBundle s.now bundle).result

/-- Audits the block of a directory, and writes it back if steps of the fix were applied. -/
def validate (s : Surroundings) (args : List Text) : Ending :=
  match target? args with
  | none => .failure s.tree "Usage: cmblocks validate <block-dir> [--fix] [--strict] [--json]"
  | some dir =>
    match validateBlock s args dir with
    | .error e => .failure s.tree e.message
    | .ok outcome =>
      let fixes := outcome.report.fixes
      if hasFlag args "--fix" ∧ !fixes.isEmpty then
        match outcome.bundle.writeFiles dir s.tree s.disk with
        | (tree, .error e) => .failure tree e.message
        | (tree, .ok ()) =>
          { output := reportText args outcome.report
            notices := "✓ Applied " ++ Text.ofNat fixes.length ++ " fix(es) to " ++ dir ++ ['\n']
            tree }
      else { output := reportText args outcome.report, tree := s.tree }

/-- Prints the block of a directory as a response. -/
def compose (s : Surroundings) (args : List Text) : Ending :=
  match target? args with
  | none => .failure s.tree "Usage: cmblocks compose <block-dir>"
  | some dir =>
    match Bundle.load s.tree dir with
    | .error e => .failure s.tree e.message
    | .ok bundle => { output := Response.compose bundle, tree := s.tree }

/-- Prints a schema, or the names of the schemas. -/
def schema (s : Surroundings) (args : List Text) : Ending :=
  let name := args.headD "list"
  if name = "list".toList then
    { output := "Available schemas: report, config\n", tree := s.tree }
  else if name = "report".toList then
    { output := Json.print Schema.report ++ ['\n'], tree := s.tree }
  else if name = "config".toList then
    { output := Json.print Schema.settings ++ ['\n'], tree := s.tree }
  else .failure s.tree ("Unknown schema: " ++ name ++ ". Use 'report' or 'config'.")

/-- Writes the default settings into the working directory. -/
def writeDefaults (s : Surroundings) (args : List Text) : Ending :=
  let path := Path.join s.directory settingsFile
  if s.tree.pathExists path ∧ !hasFlag args "--force" then
    .failure s.tree (path ++ " already exists (use --force to overwrite)")
  else
    match s.tree.store s.disk path (Text.toUtf8 (Settings.toYaml {})) with
    | (tree, .error e) => .failure tree (Error.fileFailed e).message
    | (tree, .ok ()) => { output := "✓ Created " ++ path ++ ['\n'], tree }

/-- Runs the command that the first argument names on the other arguments. -/
def run (s : Surroundings) : List Text → Ending
  | [] => { failed := true, output := usage, tree := s.tree }
  | name :: args =>
    if name = "process".toList then process s args
    else if name = "validate".toList then validate s args
    else if name = "compose".toList then compose s args
    else if name = "schema".toList then schema s args
    else if name = "init".toList then writeDefaults s args
    else if ["version", "--version", "-v"].contains (String.ofList name) then
      { output := "cmblocks " ++ programVersion ++ ['\n'], tree := s.tree }
    else if ["help", "--help", "-h"].contains (String.ofList name) then
      { output := usage, tree := s.tree }
    else
      { Ending.failure s.tree "Unknown command" ("Unknown command: " ++ name ++ ['\n']) with
        output := usage }

end Command

end BlockAudit
