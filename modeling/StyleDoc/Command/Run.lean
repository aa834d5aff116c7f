import StyleDoc.Command.Options
import StyleDoc.Command.Path
import StyleDoc.Command.Workspace
import StyleDoc.Document

/-!
# Running the command

Without sources the command reads its input and prints the catalogue. With sources it finds the
files that they name; their catalogues are written to one file each in the output directory, or
printed together as one object with the texts of the paths as keys.
-/

namespace StyleDoc

variable {m : Type → Type} [Monad m]

namespace Workspace

def isPresent (workspace : Workspace m) (path : Path) : m Bool := do
  return (← workspace.isFile path) || (← workspace.isDirectory path)

/-! ## Finding files -/

/-- A directory and its parent under the names that lead to them from inside, as far as a step that
begins with a dot matches these names. No listing of entries has them. -/
def dotEntries : PatternStep → List FileName
  | .wild (.char '.' :: tokens) =>
    [Path.hereName, Path.aboveName].filter (matchesFileName (.char '.' :: tokens))
  | _ => []

/-- The paths that the steps lead to from a directory. -/
def follow (workspace : Workspace m) (start : Path) : List PatternStep → m (List Path)
  | [] => return [start]
  | .literal name :: steps => do
    let next := Path.joinPlain start (Text.bytes name)
    let found ← if name = "." ∨ name = ".." then workspace.isDirectory start
      else workspace.isPresent next
    if found then follow workspace next steps else return []
  | .anyPath :: step :: steps => do
    let below ← workspace.descendants start
    let matching := below.filter fun names => names.getLast?.any step.matchesEntry
    let found ← matching.mapM fun names =>
      follow workspace (names.foldl Path.joinPlain start) steps
    return found.flatten
  | .anyPath :: [] => return []
  | .wild tokens :: steps => do
    if ← workspace.isDirectory start then
      let entries := (← workspace.entries start).toOption.getD []
      let matching := entries.filter (matchesFileName tokens)
      let found ← (matching.map (Path.joinPlain start) ++
        (dotEntries (.wild tokens)).map (Path.join start)).mapM fun next =>
          follow workspace next steps
      return found.flatten
    else return []

/-! ## Making directories -/

/-- Makes the first of the directories, where each of them lies in the next one. Those that are
there already are left alone. -/
def makeDirectories (workspace : Workspace m) : List Path → m (Except FileError Unit)
  | [] => return .ok ()
  | path :: above => do
    let settle (error : FileError) : m (Except FileError Unit) := do
      return if ← workspace.isDirectory path then .ok () else .error error
    match ← workspace.makeDirectory path with
    | .ok _ => return .ok ()
    | .error .notFound =>
      match ← makeDirectories workspace above with
      | .error error => return .error error
      | .ok _ =>
        match ← workspace.makeDirectory path with
        | .ok _ => return .ok ()
        | .error error => settle error
    | .error error => settle error

/-! ## Files of a pattern -/

/-- The files that match a pattern. -/
def filesMatching (workspace : Workspace m) (pattern : PathPattern) : m (List Path) := do
  if pattern.directoriesOnly then return []
  (← workspace.follow pattern.start pattern.steps).filterM workspace.isFile

end Workspace

namespace Options

/-- Reports an event, unless the command is to be quiet. -/
def report (options : Options) (workspace : Workspace m) (event : Event) : m Unit :=
  if options.quiet then return else workspace.report event.message

/-- A failure in place of an error. -/
def orFail {α : Type} (failure : FileError → Failure) (result : m (Except FileError α)) :
    ExceptT Failure m α :=
  ExceptT.mk do return (← result).mapError failure

/-- The files that one source names: the file itself, the style sheets of a directory, or the files
that match it as a pattern. -/
def filesOf (options : Options) (workspace : Workspace m) (source : String) :
    ExceptT Failure m (List Path) := do
  let path := Path.ofText source
  if ← workspace.isFile path then return [path]
  if ← workspace.isDirectory path then
    let entries ← orFail (.directory source) (workspace.entries path)
    return (← ((entries.filter Path.isStyleSheet).map (Path.join path)).filterM
      (workspace.isFile ·))
  match PathPattern.ofText source.toList with
  | .error error => throw (.pattern source error)
  | .ok pattern =>
    let files ← workspace.filesMatching pattern
    if files = [] then (options.report workspace (.nothingMatched source) : m Unit)
    return files

/-- All files that the sources name, sorted and each of them once. -/
def inputFiles (options : Options) (workspace : Workspace m) : ExceptT Failure m (List Path) := do
  let files ← options.sources.mapM (options.filesOf workspace)
  return Path.normalize files.flatten

/-- The catalogue of a text. What is wrong with the text is reported with the name of its source. -/
def readText (options : Options) (workspace : Workspace m) (source content : String) :
    m Catalogue := do
  let document := Document.ofSource options.registry content.toList
  document.warnings.forM fun warning => options.report workspace (.warned warning source)
  return document.catalogue

/-- The text of a value with a line feed behind it, in the layout that the options ask for. -/
def renderLine (options : Options) (value : Json) : String := value.render options.layout ++ "\n"

/-- The catalogue of the input, printed. -/
def runInput (options : Options) (workspace : Workspace m) : ExceptT Failure m Unit := do
  let content ← orFail .input workspace.input
  let catalogue ← (options.readText workspace "<stdin>" content : m Catalogue)
  workspace.print (options.renderLine catalogue.toJson)

def readSource (options : Options) (workspace : Workspace m) (source : Path) :
    ExceptT Failure m Catalogue := do
  let content ← orFail (.source source) (workspace.read source)
  (options.readText workspace source.text content : m Catalogue)

/-- The catalogue of one source, written to its file in a directory. -/
def writeSource (options : Options) (workspace : Workspace m) (directory source : Path) :
    ExceptT Failure m Unit := do
  let catalogue ← options.readSource workspace source
  let file := Path.outputFile directory source
  orFail (.result file) (workspace.write file (options.renderLine catalogue.toJson))
  (options.report workspace (.wrote source.text file.text catalogue.size) : m Unit)

/-- The catalogues of many sources in one object, under the texts of their paths. All its keys are
sorted, at every depth, and of sources that have the same text the last one is kept. -/
def combined (catalogues : List (String × Catalogue)) : Json :=
  (Json.obj (catalogues.map fun entry => (entry.1, entry.2.toJson))).sorted

def runFiles (options : Options) (workspace : Workspace m) : ExceptT Failure m Unit := do
  let sources ← options.inputFiles workspace
  match options.output with
  | some directory =>
    orFail (.output directory) (workspace.makeDirectories (Path.ancestors directory))
    sources.forM (options.writeSource workspace directory)
  | none =>
    let catalogues ← sources.mapM fun source => do
      return (source.text, ← options.readSource workspace source)
    workspace.print (options.renderLine (combined catalogues))

def run (options : Options) (workspace : Workspace m) : ExceptT Failure m Unit :=
  if options.sources = [] then options.runInput workspace else options.runFiles workspace

end Options

/-! ## The whole command -/

/-- What is printed when help is asked for. -/
def helpText : String :=
  "Extract documentation data from annotated SCSS source files\n\n" ++
  "Usage: styledoc [OPTIONS] [FILES]...\n\n" ++
  "Arguments:\n" ++
  "  [FILES]...  Input files, directories or patterns; without any, standard input is read\n\n" ++
  "Options:\n" ++
  "  -o, --output <OUTPUT>  Output directory, one NAME.json per input file\n" ++
  "      --compact          Write compact JSON instead of pretty-printed\n" ++
  "      --no-builtin       Do not register the standard annotations\n" ++
  "  -q, --quiet            Only report errors\n" ++
  "  -h, --help             Print help\n"

/-- How the command ends. -/
inductive ExitCode where
  | success
  | failure
  | usage
deriving DecidableEq, Repr

def ExitCode.number : ExitCode → Nat
  | success => 0
  | failure => 1
  | usage => 2

/-- Runs the command with the words of a command line. -/
def runCommand (workspace : Workspace m) (words : List String) : m ExitCode := do
  match Options.read words with
  | none =>
    workspace.report "error: unknown, repeated or incomplete option, try '--help'"
    return .usage
  | some .help =>
    workspace.print helpText
    return .success
  | some (.run options) =>
    match ← (options.run workspace).run with
    | .ok _ => return .success
    | .error failure =>
      failure.report.forM workspace.report
      return .failure

end StyleDoc
