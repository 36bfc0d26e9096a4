import Codebook.Record.Dump
import Codebook.Text.Integer

/-!
# JSON documents

The modules as a JSON text of ASCII characters only, indented by two blanks for each level. There is
no document if values are nested deeper than the stack has room for, or if one of them cannot be
written: it has no written form, or is an integer of too many digits.
-/

namespace Codebook.Document

open Text

/-! ## Strings -/

/-- A code unit as an escape of four hexadecimal digits. -/
def unitEscape (n : Nat) : List Char :=
  '\\' :: 'u' :: hex 4 n

/-- A character in a JSON string. What is not printable ASCII is written by its code, beyond the
first plane by two code units. -/
def jsonChar (rd : Reading) (c : Char) : List Char :=
  match c with
  | '"' => ['\\', '"']
  | '\\' => ['\\', '\\']
  | '\n' => ['\\', 'n']
  | '\r' => ['\\', 'r']
  | '\t' => ['\\', 't']
  | '\x0c' => ['\\', 'f']
  | '\x08' => ['\\', 'b']
  | c =>
    let n := c.toNat
    if 32 ≤ n && n ≤ 126 then [c]
    else if let some h := rd.half? c then unitEscape h
    else if n < 0x10000 then unitEscape n
    else
      let m := n - 0x10000
      unitEscape (0xd800 + m / 1024) ++ unitEscape (0xdc00 + m % 1024)

/-- A JSON string. -/
def jsonString (rd : Reading) (s : String) : String :=
  String.ofList ('"' :: s.toList.flatMap (jsonChar rd) ++ ['"'])

/-! ## Values -/

/-- The line end and the indentation of a level. -/
def newLine (level : Nat) : String :=
  String.ofList ('\n' :: List.replicate (2 * level) ' ')

/-- Parts in brackets, one per line; brackets that hold nothing stand together. -/
def bracketed (first last : String) (level : Nat) (parts : List String) : String :=
  if parts.isEmpty then first ++ last
  else
    first ++ newLine (level + 1) ++ ("," ++ newLine (level + 1)).intercalate parts ++
      newLine level ++ last

/-- A double; what is no number, and the infinities, are written by names. -/
def jsonFloat (x : Float) : String :=
  if x.isNaN then "NaN"
  else if x.isInf then if x < 0 then "-Infinity" else "Infinity"
  else Decimal.text x

mutual

/-- A value as JSON text at a level of indentation. -/
def jsonText (rd : Reading) (level : Nat) : Datum → String
  | .null => "null"
  | .bool b => if b then "true" else "false"
  | .int n => toString n
  | .float x => jsonFloat x
  | .text s => jsonString rd s
  | .list items => bracketed "[" "]" level (jsonTexts rd (level + 1) items)
  | .object fields => bracketed "\x7b" "\x7d" level (jsonFields rd (level + 1) fields)
  | .capability c => jsonString rd c.value
  | .unwritable _ => "null"

/-- Values as JSON texts. -/
def jsonTexts (rd : Reading) (level : Nat) : List Datum → List String
  | [] => []
  | d :: ds => jsonText rd level d :: jsonTexts rd level ds

/-- Named values as JSON texts. -/
def jsonFields (rd : Reading) (level : Nat) : List (String × Datum) → List String
  | [] => []
  | (k, d) :: fs => (jsonString rd k ++ ": " ++ jsonText rd level d) :: jsonFields rd level fs

end

/-! ## Failures -/

/-- Why a document cannot be written: it holds something of a type without written form, or an
integer of too many digits, or its values are nested too deep. -/
inductive Error
  | unwritable (type : String)
  | tooLong
  | tooDeep
  deriving DecidableEq, Repr

/-- The wording of an error. -/
def Error.message : Error → String
  | .unwritable type => "Object of type " ++ type ++ " is not JSON serializable"
  | .tooLong => "Exceeds the limit (" ++ toString digitLimit ++ " digits) for integer string " ++
      "conversion; use sys.set_int_max_str_digits() to increase the limit"
  | .tooDeep => "maximum recursion depth exceeded"

/-- Why a value by itself cannot be written, apart from what is in it. -/
def fault? : Datum → Option Error
  | .unwritable type => some (.unwritable type)
  | .int n => if Nat.pow 10 digitLimit ≤ n.natAbs then some .tooLong else none
  | _ => none

mutual

/-- Why a value cannot be written, for each part of it that cannot, in the order of writing. -/
def faults : Datum → List Error
  | .list items => faultsIn items
  | .object fields => faultsInFields fields
  | d => (fault? d).toList

/-- Why some values cannot be written. -/
def faultsIn : List Datum → List Error
  | [] => []
  | d :: ds => faults d ++ faultsIn ds

/-- Why some named values cannot be written. -/
def faultsInFields : List (String × Datum) → List Error
  | [] => []
  | (_, d) :: fs => faults d ++ faultsInFields fs

end

mutual

/-- How many lists and objects stand in each other at the deepest place of a value. -/
def depth : Datum → Nat
  | .list items => depthIn items + 1
  | .object fields => depthInFields fields + 1
  | _ => 0

/-- The depth of the deepest of some values. -/
def depthIn : List Datum → Nat
  | [] => 0
  | d :: ds => max (depth d) (depthIn ds)

/-- The depth of the deepest of some named values. -/
def depthInFields : List (String × Datum) → Nat
  | [] => 0
  | (_, d) :: fs => max (depth d) (depthInFields fs)

end

/-! ## Documents -/

/-- The depth of values that the stack has room for, about, when the program writes a document. -/
def usualRoom : Nat := 490

/-- The JSON document of some modules, whose texts are read in the given way, where the stack has
room for values of the given depth. The values are gone through once before anything is written. -/
def json (rd : Reading) (room : Nat) (modules : List ModuleRecord) : Except Error String :=
  let data := Datum.list (modules.map ModuleRecord.dump)
  if room < depth data then .error .tooDeep
  else
    match faults data with
    | e :: _ => .error e
    | [] => .ok (jsonText rd 0 data)

end Codebook.Document
