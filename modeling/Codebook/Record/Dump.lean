import Codebook.Record.Basic

/-!
# Records as plain data

A record as an object of named values: first where it comes from, then what it says, in a fixed
order. A dump names the capability of the record itself by its text; the records inside it keep
theirs as they are.
-/

namespace Codebook

/-- The fields that every record starts with. -/
def Origin.fields (o : Origin) : List (String × Datum) :=
  [("file_path", .text o.file), ("extractor_name", .text o.extractor),
    ("capability", .capability o.capability)]

/-- The fields of a function record. -/
def FunctionRecord.fields (f : FunctionRecord) : List (String × Datum) :=
  f.origin.fields ++ [
    ("name", .text f.name),
    ("docstring", .text? f.docstring),
    ("signature", .text f.signature),
    ("parameters", .object (f.parameters.map fun p => (p.1, .object p.2))),
    ("return_type", .text? f.returnType),
    ("return_description", .text? f.returnDescription),
    ("module_path", .text f.modulePath)]

/-- The fields of a class record. -/
def ClassRecord.fields (c : ClassRecord) : List (String × Datum) :=
  c.origin.fields ++ [
    ("name", .text c.name),
    ("docstring", .text? c.docstring),
    ("methods", .list (c.methods.map fun f => .object f.fields)),
    ("module_path", .text c.modulePath)]

/-- The fields of a module record. -/
def ModuleRecord.fields (m : ModuleRecord) : List (String × Datum) :=
  m.origin.fields ++ [
    ("name", .text m.name),
    ("docstring", .text? m.docstring),
    ("functions", .list (m.functions.map fun f => .object f.fields)),
    ("classes", .list (m.classes.map fun c => .object c.fields))]

/-- A capability by its written name. -/
def Datum.named : Datum → Datum
  | .capability c => .text c.value
  | d => d

/-- The object of a record's fields, with its own capability by name. -/
def dumpOf (fields : List (String × Datum)) : Datum :=
  .object (fields.map fun f => if f.1 == "capability" then (f.1, f.2.named) else f)

/-- A module record as an object. -/
def ModuleRecord.dump (m : ModuleRecord) : Datum :=
  dumpOf m.fields

/-- An item as an object. -/
def Item.dump : Item → Datum
  | .module m => m.dump
  | .class c => dumpOf c.fields
  | .function f => dumpOf f.fields
  | .plain o => dumpOf o.fields

end Codebook
