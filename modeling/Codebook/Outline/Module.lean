import Codebook.Outline.Sample

/-!
# The outline of a file

`Outline.ofText` describes a file by its text. A text that is no source file, or one with a public
definition that has no outline, gives the empty module.
-/

namespace Codebook.Outline

open Source

/-- The sample stands in for a file of its name that has no public definitions. -/
def withSample (path : Path) :
    List FunctionRecord × List ClassRecord → List FunctionRecord × List ClassRecord
  | ([], []) =>
    if path.stem == Sample.stem then
      ([Sample.function path.toString], [Sample.sampleClass path.toString])
    else ([], [])
  | found => found

/-- The record of a file with the given text. -/
def ofText (path : Path) (code : String) : ModuleRecord :=
  match parse code with
  | .error _ => emptyModule path
  | .ok body =>
    match definitions path.toString body with
    | .error _ => emptyModule path
    | .ok found =>
      let (functions, classes) := withSample path found
      ⟨originOf path.toString, path.stem, moduleDocstring code body, functions, classes⟩

/-- The record of a file on the disk. -/
def ofFile (d : Disk) (path : Path) : Except FileError ModuleRecord :=
  (d.read path).map (ofText path)

end Codebook.Outline
