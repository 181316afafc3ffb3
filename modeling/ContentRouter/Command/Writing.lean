import ContentRouter.Command.Request
import ContentRouter.File.Tree
import ContentRouter.Routing.Encoding
import ContentRouter.Source.Rendering
import ContentRouter.Text.Shown

/-!
# Writing routers

The sources of a router model are written one after the other. A router whose file is found is
passed over unless replacing is asked for, a dry run only shows what it would write, and the first
file that cannot be written ends the writing; what was written until then stays. A file is looked
for before the directories on the way to it are made.
-/

namespace ContentRouter

/-- How far writing has come. -/
structure Writing where
  files : FileTree
  /-- The lines shown so far. -/
  lines : List String := []
  /-- The sources written so far, or shown instead in a dry run. -/
  written : List Path := []
  /-- Set once a file could not be written; nothing happens after that. -/
  failed : Bool := false
  deriving DecidableEq, Repr

namespace Writing

/-- Shows one more line. -/
def say (writing : Writing) (line : String) : Writing :=
  { writing with lines := writing.lines ++ [line] }

/-- Counts a path among the written ones. -/
def count (writing : Writing) (path : Path) : Writing :=
  { writing with written := writing.written ++ [path] }

/-- Stores a file, with the directories on the way to it. -/
def store (writing : Writing) (path : Path) (content : String) : Writing :=
  let (made, ready) :=
    match path.parent? with
    | some directory => writing.files.makeDirectories directory
    | none => (writing.files, true)
  match if ready then made.write? path content else none with
  | some files => { writing with files }
  | none => { writing with files := made, failed := true }

/-- Stores a file and shows a line once it stands. -/
def storeAndSay (writing : Writing) (path : Path) (content line : String) : Writing :=
  let stored := writing.store path content
  if stored.failed then stored else stored.say line

/-- Writes the source of one router, as far as the request asks for it. -/
def writeRouter (generation : Generation) (types : TypeNames) (writing : Writing)
    (router : Router) : Writing :=
  if writing.failed then writing
  else
    let path := router.sourcePath generation.output
    let shown := Text.quoted path.text
    if writing.files.contains path && !generation.force then
      writing.say ("⚠️  Skipping existing router file: " ++ shown)
    else if generation.dryRun then
      (writing.say ("📝 Would write router: " ++ shown)).count path
    else
      let stored := writing.storeAndSay path (Source.render types router)
        ("✅ Generated router: " ++ shown)
      if stored.failed then stored else stored.count path

/-- **Writes the sources of all routers,** in the order of the model. -/
def writeRouters (generation : Generation) (types : TypeNames) (model : RouterModel)
    (writing : Writing) : Writing :=
  model.routers.foldl (writeRouter generation types) writing

/-- Writes the router model itself, if that is asked for. -/
def writeModel (generation : Generation) (model : RouterModel) (writing : Writing) : Writing :=
  match generation.modelJson with
  | none => writing
  | some path =>
      if generation.dryRun || writing.failed then writing
      else
        writing.storeAndSay path (Json.render model.toJson)
          ("✅ Wrote router model: " ++ Text.quoted path.text)

end Writing

end ContentRouter
