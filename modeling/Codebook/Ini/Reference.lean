import Codebook.Ini.Basic
import Codebook.Text.Lower

/-!
# References in settings

In a value, `%(name)s` stands for the value of another option and `%%` for a percent sign. Values
that are referred to may refer to others in turn, down to a fixed depth.
-/

namespace Codebook.Ini

open Text

/-- The name in a reference that starts after `%(`. -/
def reference? (cs : List Char) : Option (List Char) :=
  let name := cs.takeWhile (· != ')')
  match cs.dropWhile (· != ')') with
  | ')' :: 's' :: _ => if name.isEmpty then none else some name
  | _ => none

/-- A value with its references replaced, after the first `skip` characters, which belong to a
reference already read. `value?` gives the value of an option, and `inner` replaces the references
in it. -/
def expandFrom (value? : String → Except Error String)
    (inner : List Char → Except Error (List Char)) (skip : Nat) : List Char → Except Error (List Char)
  | [] => .ok []
  | c :: cs =>
    match skip with
    | skip + 1 => expandFrom value? inner skip cs
    | 0 =>
      if c != '%' then return c :: (← expandFrom value? inner 0 cs)
      else
        match cs with
        | '%' :: _ => return '%' :: (← expandFrom value? inner 1 cs)
        | '(' :: rest =>
          match reference? rest with
          | none => .error (.badReference (String.ofList (c :: cs)))
          | some name => do
            let value := (← value? (lower (String.ofList name))).toList
            let value ← if value.contains '%' then inner value else pure value
            return value ++ (← expandFrom value? inner (name.length + 3) cs)
        | _ => .error (.lonePercent (String.ofList (c :: cs)))

/-- A value with its references replaced down to the given depth. -/
def expand (value? : String → Except Error String) (tooDeep : Error) :
    Nat → List Char → Except Error (List Char)
  | 0, _ => .error tooDeep
  | depth + 1, cs => expandFrom value? (expand value? tooDeep depth) 0 cs

/-- The value of an option with its references replaced, if the option is set. -/
def get? (ini : Ini) (name option : String) : Except Error (Option String) :=
  match ini.raw? name option with
  | none => .ok none
  | some raw =>
    let value? := fun reference =>
      match ini.raw? name reference with
      | some v => Except.ok v
      | none => .error (.unknownReference name option reference raw)
    (expand value? (.tooDeep name option raw) maxDepth raw.toList).map (some <| String.ofList ·)

end Codebook.Ini
