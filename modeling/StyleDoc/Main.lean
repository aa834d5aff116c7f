import StyleDoc.Command.Run

/-!
# The command line

The workspace of real files, and the command run in it. Nothing is decided here.
-/

namespace StyleDoc.CommandLine

/-- The cause of a failed action on files. -/
def fileError : IO.Error → FileError
  | .noFileOrDirectory .. => .notFound
  | .alreadyExists .. => .alreadyThere
  | .inappropriateType _ code _ => if code = 21 then .isDirectory else .notDirectory
  | error => .other (toString error)

/-- The result of an action on files, or the cause of its failure. -/
def attempt {α : Type} (action : IO α) : IO (Except FileError α) := do
  try return .ok (← action)
  catch error => return .error (fileError error)

/-- A test that fails where its action does. -/
def test (action : IO Bool) : IO Bool := do
  try action
  catch _ => return false

/-- The text by which the path is opened. The actions on files here take texts only. -/
def spelling (path : Path) : IO String :=
  match Text.ofBytes? path.bytes with
  | some text => return text
  | none => throw (IO.userError "the path is not a text")

def kindOf (path : Path) : IO IO.FS.FileType := do
  return (← (← IO.FS.realPath (← spelling path)).metadata).type

def decoded (action : IO ByteArray) : IO (Except FileError String) := do
  match ← attempt action with
  | .error error => return .error error
  | .ok content => return (String.fromUTF8? content).elim (.error .notText) .ok

def namesIn (path : Path) : IO (List FileName) := do
  return (← (← IO.FS.realPath (← spelling path)).readDir).toList.map fun entry =>
    Text.bytes entry.fileName

partial def namesBelow (path : Path) : IO (List (List FileName)) := do
  let names ← try namesIn path catch _ => pure []
  let below ← names.mapM fun name => do
    return [name] :: (← namesBelow (Path.join path name)).map (name :: ·)
  return below.flatten

def workspace : Workspace IO where
  isFile path := test do return (← kindOf path) == .file
  isDirectory path := test do return (← kindOf path) == .dir
  entries path := attempt (namesIn path)
  descendants path := namesBelow path
  read path := decoded do IO.FS.readBinFile (← spelling path)
  write path content := attempt do IO.FS.writeFile (← spelling path) content
  makeDirectory path := attempt do IO.FS.createDir (← spelling path)
  input := do decoded ((← IO.getStdin).readBinToEnd)
  print text := IO.print text
  report line := IO.eprintln line

end StyleDoc.CommandLine

def main (words : List String) : IO UInt32 := do
  return (← StyleDoc.runCommand StyleDoc.CommandLine.workspace words).number.toUInt32
