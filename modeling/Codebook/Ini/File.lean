import Codebook.Disk
import Codebook.Ini.Parser
import Codebook.Ini.Reference

/-!
# Settings in files

`Ini.ofFile` reads the settings of a file, and `Ini.values` lists what they come to, with all
references replaced.
-/

namespace Codebook.Ini

/-- The settings in a file. A file that cannot be opened holds none, unless its path can name
nothing. -/
def ofFile (d : Disk) (file : Path) : Except Error Ini :=
  match d.bytes file with
  | .ok bytes => ofBytes file.toString bytes
  | .error .nullByte => .error (.file .nullByte)
  | .error _ => .ok .empty

/-- The values of the named options of a section. -/
def valuesOf (ini : Ini) (name : String) : List String → Except Error (List (String × String))
  | [] => .ok []
  | o :: os => do
    let value ← ini.get? name o
    let rest ← valuesOf ini name os
    return (o, value.getD "") :: rest

/-- All sections with the values of their options, in order. -/
def values (ini : Ini) : Except Error (List (String × List (String × String))) :=
  ini.sections.mapM fun s => do return (s.1, ← ini.valuesOf s.1 (ini.optionNames s.1))

end Codebook.Ini
