import Codebook.Decimal.Shortest
import Codebook.Live.Class
import Codebook.Text.Integer
import Codebook.Text.Quoted

/-!
# The text of values

`repr` writes a value the way it is written in a source file, as far as it can be; `str` writes it
for a reader. They differ on texts and exceptions.
-/

namespace Codebook.Live

open Text

/-! ## Parts of texts -/

/-- Items in brackets; a tuple of one item has a comma. -/
def tupleText : List String → String
  | [x] => "(" ++ x ++ ",)"
  | xs => "(" ++ ", ".intercalate xs ++ ")"

/-- The name of a native function. -/
def Native.text : Native → String
  | .print => "print"
  | .repr => "repr"
  | .len => "len"
  | .isinstance => "isinstance"
  | .issubclass => "issubclass"
  | .callable => "callable"
  | .getattr => "getattr"
  | .setattr => "setattr"
  | .hasattr => "hasattr"
  | .exit => "exit"
  | .wraps => "wraps"
  | .wrapWith => "update_wrapper"
  | .propertyPart => "setter"
  | .strip => "strip"
  | .lower => "lower"
  | .upper => "upper"
  | .join => "join"
  | .startsWith => "startswith"
  | .endsWith => "endswith"
  | .objectMethod name => name
  | .named name => name

/-- The name of a loaded module. -/
def Store.moduleName? (s : Store) (frame : Nat) : Option String :=
  match (s.frame frame).vars.get? "__name__" with
  | some (.text name) => some name
  | _ => none

/-- A module. -/
def Store.moduleText (s : Store) : ModuleRef → String
  | .known name => s!"<module '{name}' (frozen)>"
  | .loaded frame =>
    let name := (s.moduleName? frame).getD "?"
    match (s.frame frame).vars.get? "__file__" with
    | some (.text file) => s!"<module '{name}' from " ++ quoted file ++ ">"
    | _ => s!"<module '{name}'>"

/-- The module and the full name of a value that has both. -/
def Store.named? (s : Store) (v : Value) : Option (Value × String) :=
  let found := match v with
    | .cls c => some (s.classHome c, s.classPath c)
    | .function id => some ((s.function id).home, (s.function id).path)
    | .bound _ id => some ((s.function id).home, (s.function id).path)
    | .native (.objectMethod _) => none
    | .native f => some (.text "builtins", f.text)
    | _ => none
  match found with
  | some (.none, _) => none
  | found => found

/-- A form with its arguments; two alternatives of which one is nothing have a form of their own. -/
def formText (name : String) (args : List Value) (texts : List String) : String :=
  match name, args, texts with
  | "Union", [_, .cls (.known "NoneType")], [a, _] => "Optional[" ++ a ++ "]"
  | "Union", [.cls (.known "NoneType"), _], [_, b] => "Optional[" ++ b ++ "]"
  | _, [], _ => name ++ "[()]"
  | _, _, _ => name ++ "[" ++ ", ".intercalate texts ++ "]"

/-! ## Values in a source's own notation -/

/-- How the parts of a text are written that are not parts of the value itself: objects of the store,
and what stands for the module of a class or function. -/
structure Outside where
  object : Nat → String
  home : Value → String

/-- The full name of something with its module, which is left out if it is the one that needs no
import. -/
def titleIn (outside : Outside) (home : Value) (path : String) : String :=
  match home with
  | .text "builtins" => path
  | home => outside.home home ++ "." ++ path

mutual

/-- The text of a value. -/
def reprWith (s : Store) (outside : Outside) : Value → String
  | .none => "None"
  | .ellipsis => "Ellipsis"
  | .notImplemented => "NotImplemented"
  | .bool b => if b then "True" else "False"
  | .int n => toString n
  | .float x => Decimal.text x
  | .complex z => z.text
  | .text t => quoted t
  | .bytes b => quotedBytes b
  | .tuple items => tupleText (reprAll s outside items)
  | .list items => "[" ++ ", ".intercalate (reprAll s outside items) ++ "]"
  | .set [] => "set()"
  | .set items => "\x7b" ++ ", ".intercalate (reprAll s outside items) ++ "\x7d"
  | .dict items => "\x7b" ++ ", ".intercalate (reprItems s outside items) ++ "\x7d"
  | .cls c => "<class '" ++ s.classTitle c ++ "'>"
  | .function id => "<function " ++ (s.function id).path ++ ">"
  | .bound self id =>
    "<bound method " ++ (s.function id).path ++ " of " ++ reprWith s outside self ++ ">"
  | .object id => outside.object id
  | .staticMethod f => "<staticmethod(" ++ reprWith s outside f ++ ")>"
  | .classMethod f => "<classmethod(" ++ reprWith s outside f ++ ")>"
  | .property _ => "<property object>"
  | .native (.objectMethod name) => s!"<slot wrapper '{name}' of 'object' objects>"
  | .native f => "<built-in function " ++ f.text ++ ">"
  | .given f _ => "<built-in method " ++ f.text ++ ">"
  | .module m => s.moduleText m
  | .form name none => "typing." ++ name
  | .form name (some args) => "typing." ++ formText name args (argumentReprs s outside args)
  | .generic origin args =>
    let title := match s.classHome origin with
      | .none => "<class '" ++ s.classTitle origin ++ "'>"
      | home => titleIn outside home (s.classPath origin)
    let items := memberReprs s outside args
    title ++ "[" ++ (if items.isEmpty then "()" else ", ".intercalate items) ++ "]"
  | .union members => " | ".intercalate (alternativeReprs s outside members)
  | .forward t => "ForwardRef(" ++ quoted t ++ ")"
  | .unpacked type => "*" ++ reprWith s outside type

/-- The texts of values. -/
def reprAll (s : Store) (outside : Outside) : List Value → List String
  | [] => []
  | v :: vs => reprWith s outside v :: reprAll s outside vs

/-- The texts of the items of a dictionary. -/
def reprItems (s : Store) (outside : Outside) : List (Value × Value) → List String
  | [] => []
  | (k, v) :: rest =>
    (reprWith s outside k ++ ": " ++ reprWith s outside v) :: reprItems s outside rest

/-- The texts of the arguments of a form: a class by its full name, three dots, a function by its
name, else the value. -/
def argumentReprs (s : Store) (outside : Outside) : List Value → List String
  | [] => []
  | .cls c :: vs =>
    titleIn outside (s.classHome c) (s.classPath c) :: argumentReprs s outside vs
  | .ellipsis :: vs => "..." :: argumentReprs s outside vs
  | .function id :: vs => (s.function id).name :: argumentReprs s outside vs
  | v :: vs => reprWith s outside v :: argumentReprs s outside vs

/-- The texts of the arguments of a class: classes and functions that have a module by their full
names, three dots, else the value. -/
def memberReprs (s : Store) (outside : Outside) : List Value → List String
  | [] => []
  | .ellipsis :: vs => "..." :: memberReprs s outside vs
  | v :: vs =>
    (match s.named? v with
    | some (home, path) => titleIn outside home path
    | none => reprWith s outside v) :: memberReprs s outside vs

/-- The texts of alternatives: like arguments of a class, but nothing stands for its class. -/
def alternativeReprs (s : Store) (outside : Outside) : List Value → List String
  | [] => []
  | .cls (.known "NoneType") :: vs => "None" :: alternativeReprs s outside vs
  | v :: vs =>
    (match s.named? v with
    | some (home, path) => titleIn outside home path
    | none => reprWith s outside v) :: alternativeReprs s outside vs

end

/-- An exception: its class, and in brackets what it was made with. -/
def exceptionText (s : Store) (outside : Outside) (o : Object) : String :=
  s.className o.cls ++
    match o.args with
    | [a] => "(" ++ reprWith s outside a ++ ")"
    | args => tupleText (reprAll s outside args)

/-- A value for a reader, given how it is written in a source. -/
def strWith (repr : Value → String) : Value → String
  | .text t => t
  | v => repr v

/-- The parts outside of values. The arguments of an exception were there before it, so at most `fuel`
objects have to be followed. -/
def outsideTo (s : Store) : (fuel : Nat) → Outside
  | 0 => ⟨fun _ => "...", fun _ => "..."⟩
  | n + 1 => {
      object := fun id =>
        let o := s.object id
        if s.isException o.cls then exceptionText s (outsideTo s n) o
        else "<" ++ s.classTitle o.cls ++ " object>"
      home := strWith (reprWith s (outsideTo s n)) }

/-- A value in a source's own notation. -/
def Store.repr (s : Store) (v : Value) : String :=
  reprWith s (outsideTo s (s.objects.size + 2)) v

/-- What an exception says: its only argument, or all of them. A missing key is shown as it is
written. -/
def Store.message (s : Store) (o : Object) : String :=
  match o.args with
  | [] => ""
  | [.text t] => if s.isDerived o.cls (.known "KeyError") then quoted t else t
  | [a] => s.repr a
  | args => s.repr (.tuple args)

/-- A value for a reader. -/
def Store.str (s : Store) : Value → String
  | .text t => t
  | .object id =>
    if s.isException (s.object id).cls then s.message (s.object id) else s.repr (.object id)
  | v => s.repr v

/-! ## What a text shows -/

mutual

/-- The values whose own texts stand in the text of a value. -/
def Value.shown : Value → List Value
  | .tuple items => shownIn items
  | .list items => shownIn items
  | .set items => shownIn items
  | .dict items => shownInItems items
  | .form _ (some args) => shownInArguments args
  | .generic _ args => shownInArguments args
  | .union members => shownInArguments members
  | .unpacked type => type.shown
  | v => [v]

/-- The values shown in the texts of values. -/
def shownIn : List Value → List Value
  | [] => []
  | v :: vs => v.shown ++ shownIn vs

/-- The values shown in the texts of the items of a dictionary. -/
def shownInItems : List (Value × Value) → List Value
  | [] => []
  | (k, v) :: rest => k.shown ++ v.shown ++ shownInItems rest

/-- The values shown in the texts of the arguments of a type, of which functions are named. -/
def shownInArguments : List Value → List Value
  | [] => []
  | .function _ :: vs => shownInArguments vs
  | v :: vs => v.shown ++ shownInArguments vs

end

/-- The value is no whole number that is too long to be written. -/
def Value.isShort : Value → Bool
  | .int n => n.natAbs < Nat.pow 10 digitLimit
  | _ => true

/-- The text of the value does not tell where it is kept. -/
def Value.hasFixedText : Value → Bool
  | .function _ => false
  | .bound _ _ => false
  | .property _ => false
  | .staticMethod _ => false
  | .classMethod _ => false
  | .given _ _ => false
  | _ => true

end Codebook.Live
