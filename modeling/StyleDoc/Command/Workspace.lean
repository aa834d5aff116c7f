import StyleDoc.Warning
import StyleDoc.Command.Pattern

/-!
# Workspaces

What the command needs from the world around it: files and directories under their paths, an input,
a place to print and one to report to. A workspace is a record of these actions in any monad, so
that the command can be run on real files as well as on a tree of files in memory.
-/

namespace StyleDoc

/-- Why a file or a directory cannot be used. -/
inductive FileError where
  | notFound
  | alreadyThere
  | notDirectory
  | isDirectory
  | notText
  | other (message : String)
deriving DecidableEq, Repr

def FileError.message : FileError → String
  | notFound => "No such file or directory (os error 2)"
  | alreadyThere => "File exists (os error 17)"
  | notDirectory => "Not a directory (os error 20)"
  | isDirectory => "Is a directory (os error 21)"
  | notText => "stream did not contain valid UTF-8"
  | other message => message

/-- What is reported while the command runs. -/
inductive Event where
  | warned (warning : Warning) (source : String)
  | nothingMatched (pattern : String)
  | wrote (source output : String) (records : Nat)
deriving DecidableEq, Repr

def Event.message : Event → String
  | warned warning source => "WARN " ++ warning.message ++ " file=" ++ source
  | nothingMatched pattern => "WARN no files matched pattern=" ++ pattern
  | wrote source output records =>
    "INFO wrote documentation data file=" ++ source ++ " output=" ++ output ++ " records=" ++
      toString records

/-- What ends a run. -/
inductive Failure where
  | input (cause : FileError)
  | pattern (text : String) (cause : PatternError)
  | directory (path : String) (cause : FileError)
  | output (path : Path) (cause : FileError)
  | source (path : Path) (cause : FileError)
  | result (path : Path) (cause : FileError)
deriving DecidableEq, Repr

namespace Failure

def attempt : Failure → String
  | input _ => "failed to read stdin"
  | pattern text _ => "invalid glob pattern: " ++ text
  | directory path _ => "failed to read directory: " ++ path
  | output path _ => "failed to create output directory: " ++ path.text
  | source path _ => "failed to read " ++ path.text
  | result path _ => "failed to write " ++ path.text

def cause : Failure → String
  | pattern _ cause => cause.message
  | input cause => cause.message
  | directory _ cause => cause.message
  | output _ cause => cause.message
  | source _ cause => cause.message
  | result _ cause => cause.message

/-- The lines that tell of the failure. -/
def report (failure : Failure) : List String :=
  ["Error: " ++ failure.attempt, "", "Caused by:", "    " ++ failure.cause]

end Failure

structure Workspace (m : Type → Type) where
  isFile : Path → m Bool
  isDirectory : Path → m Bool
  /-- The names in a directory. -/
  entries : Path → m (Except FileError (List FileName))
  /-- What is below a directory at any depth, each by the names on the way to it. -/
  descendants : Path → m (List (List FileName))
  read : Path → m (Except FileError String)
  write : Path → String → m (Except FileError Unit)
  /-- Makes one directory inside another one that is there. -/
  makeDirectory : Path → m (Except FileError Unit)
  input : m (Except FileError String)
  print : String → m Unit
  report : String → m Unit

end StyleDoc
