import Codebook.Live.Evaluate
import Codebook.Text.Lines

/-!
# Imports

A module can be imported if it was loaded before or comes with the language. Files are not looked
for.
-/

namespace Codebook.Live

open Source

/-- The modules that come with the language under two names. -/
def moduleSynonyms : List (String × String) :=
  [("os.path", "posixpath")]

/-- The module of the given name. -/
def findModule (name : String) : Run ModuleRef := do
  let s ← get
  let top := (Text.dottedParts name).headD ""
  match s.module? name, moduleSynonyms.lookup name with
  | some f, _ => return .loaded f
  | none, some k =>
    if (s.module? top).isSome then Run.fail (.notPackage name top) else return .known k
  | none, none =>
    if (s.module? top).isSome then Run.fail (.notPackage name top)
    else if (moduleTable.lookup name).isSome || standardModules.contains name then
      return .known name
    else if top != name && (standardModules.contains top || (moduleTable.lookup top).isSome) then
      if ["os", "typing", "textwrap", "functools", "sys"].contains top then
        Run.fail (.notPackage name top)
      else return .known name
    else Run.fail (.noModule top)

/-- The module that an import without another name binds: the one at the top. -/
def topModule (name : String) : Run ModuleRef :=
  findModule ((Text.dottedParts name).headD "")

/-- The names that an import of everything binds. -/
def exported (vars : Table) : Run (List String) :=
  match vars.get? "__all__" with
  | none => return (vars.map (·.1)).filter fun n => !n.startsWith "_"
  | some v => do
    let items ← iterate v
    items.mapM fun
      | .text t => pure t
      | _ => Run.beyond

/-- One name out of a module. -/
def importedName (r : ModuleRef) (moduleName name : String) : Run Value := do
  let s ← get
  match r with
  | .loaded f =>
    match (s.frame f).vars.get? name with
    | some v => return v
    | none =>
      let place := match (s.frame f).vars.get? "__file__" with
        | some (.text file) => file
        | _ => "unknown location"
      let own := (s.moduleName? f).getD moduleName
      Run.fail (.cannotImport name own place)
  | .known k =>
    match ((moduleTable.lookup k).getD []).get? name with
    | some v => return v
    | none => if k == "typing" then Run.beyond else return .native (.named name)

/-- Runs `import a, b as c`. -/
def importNames (frame : Nat) (names : List Alias) : Run Unit :=
  names.forM fun a => do
    let r ← findModule a.name
    match a.asName with
    | some n => bindName frame n (.module r)
    | none => do
      let t ← topModule a.name
      bindName frame a.bound (.module t)

/-- Runs `from m import a, b as c`. -/
def importFrom (frame level : Nat) (module : Option String) (names : List Alias) : Run Unit := do
  if level != 0 then
    Run.raiseWith "ImportError" [.text "attempted relative import with no known parent package"]
  let name := module.getD ""
  let r ← findModule name
  names.forM fun a => do
    if a.name == "*" then
      match r with
      | .known _ => Run.beyond
      | .loaded f =>
        let vars := ((← get).frame f).vars
        (← exported vars).forM fun n => do bindName frame n (← importedName r name n)
    else bindName frame (a.asName.getD a.name) (← importedName r name a.name)

end Codebook.Live
