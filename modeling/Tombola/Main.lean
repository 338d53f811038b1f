import Tombola.Schema

/-!
# Writing the schemas

The command writes the schema files into the folder `schema` of the current directory.
-/

/-- Writes all files of the schema folder. -/
def main : IO Unit := do
  IO.FS.createDirAll ("schema/" ++ Tombola.Schema.rawFolder)
  for (path, contents) in Tombola.Schema.files do
    IO.FS.writeFile ("schema/" ++ path) contents.render
