import ContentRouter.Command.Arguments
import ContentRouter.Command.Run

/-!
# The program

Takes the files that a request reaches into a file tree, carries the request out on it, and puts
back what changed.
-/

namespace ContentRouter

/-- Takes the file that a path names into a file tree, if it can be read. -/
def takeIn (files : FileTree) (path : Path) : IO FileTree := do
  try
    let content ← IO.FS.readFile path.text
    return files.withFile (files.place path) content
  catch _ => return files

/-- Writes a file and the directories on the way to it. -/
def putBack (path : Path) (content : String) : IO Unit := do
  match path.parent? with
  | some directory => unless directory.text.isEmpty do IO.FS.createDirAll directory.text
  | none => pure ()
  IO.FS.writeFile path.text content

/-- Writes those files among some paths that a run has changed. -/
def putBackChanges (old new : FileTree) (paths : List Path) : IO Unit :=
  paths.forM fun path =>
    match new.read? path with
    | some content =>
        if old.read? path = some content then pure () else putBack path content
    | none => pure ()

/-- Carries out a request on the files around the program. -/
def Request.perform (request : Request) : IO UInt32 := do
  let directory := Text.pieces '/' ((← IO.getEnv "PWD").getD "/")
  let around := FileTree.ofFiles (directory.filter (!·.isEmpty)) []
  let read ← request.inputs.foldlM takeIn around
  let outputs := request.outputs read
  let files ← outputs.foldlM takeIn read
  let completion := request.run files
  try
    putBackChanges files completion.files outputs
    IO.print completion.text
    match completion.result with
    | .ok outcome => return outcome.exitCode.toUInt32
    | .error failure =>
        IO.eprintln ("❌ " ++ failure.message?.getD "a file could not be written")
        return 1
  catch error =>
    IO.eprintln ("❌ " ++ toString error)
    return 1

end ContentRouter

open ContentRouter in
/-- The program. -/
def main (arguments : List String) : IO UInt32 :=
  match Request.ofArguments arguments with
  | .ok request => request.perform
  | .error usage => do
      let text := Text.ofLines usage.lines
      if usage.exitCode = 0 then IO.print text else IO.eprint text
      return usage.exitCode.toUInt32
