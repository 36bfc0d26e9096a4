import Codebook.Record.Datum

/-!
# Records

What is known about functions, classes and modules after they have been examined. Every record
carries the file it comes from, the extractor that made it and the capability it belongs to.
-/

namespace Codebook

/-- Where a record comes from. -/
structure Origin where
  file : String
  extractor : String
  capability : Capability
  deriving DecidableEq, Repr

/-- The record of a function. -/
structure FunctionRecord where
  origin : Origin
  name : String
  docstring : Option String
  signature : String
  parameters : List (String × Info)
  returnType : Option String
  returnDescription : Option String
  modulePath : String
  deriving Repr

/-- The record of a class. -/
structure ClassRecord where
  origin : Origin
  name : String
  docstring : Option String
  methods : List FunctionRecord
  modulePath : String
  deriving Repr

/-- The record of a module. -/
structure ModuleRecord where
  origin : Origin
  name : String
  docstring : Option String
  functions : List FunctionRecord
  classes : List ClassRecord
  deriving Repr

/-- Anything an extractor finds. -/
inductive Item
  | module (m : ModuleRecord)
  | class (c : ClassRecord)
  | function (f : FunctionRecord)
  | plain (o : Origin)
  deriving Repr

namespace Item

/-- Where an item comes from. -/
def origin : Item → Origin
  | .module m => m.origin
  | .class c => c.origin
  | .function f => f.origin
  | .plain o => o

/-- The module record that an item is. -/
def module? : Item → Option ModuleRecord
  | .module m => some m
  | _ => none

end Item

/-- What was found in a number of files, and by which extractors. -/
structure Extraction where
  fileCount : Nat
  extractors : List String
  items : List Item
  deriving Repr

namespace Extraction

/-- The modules that were found, in order. -/
def modules (e : Extraction) : List ModuleRecord :=
  e.items.filterMap Item.module?

/-- The items of one capability, in order. -/
def withCapability (e : Extraction) (c : Capability) : List Item :=
  e.items.filter fun i => i.origin.capability == c

end Extraction

/-! ## The parameters that an extractor describes -/

/-- What an extractor says about a parameter. -/
def parameterInfo (kind : String) (default hint description : Option String) : Info :=
  [("kind", .text kind), ("default", .text? default), ("annotation", .text? hint),
    ("description", .text? description)]

end Codebook
