import Contactless.Bytes

/-!
One-line text of structured values: `Name { field: value }`, `Name(value)` and `[value, value]`.
-/
namespace Contactless.Text

def commas (parts : List String) : String := String.intercalate ", " parts

def listing (parts : List String) : String := "[" ++ commas parts ++ "]"

/-- A named value with named parts. -/
def record (name : String) (fields : List (String × String)) : String :=
  name ++ " \x7b " ++ commas (fields.map fun f => f.1 ++ ": " ++ f.2) ++ " \x7d"

/-- A named value with parts by position. -/
def tuple (name : String) (parts : List String) : String := name ++ "(" ++ commas parts ++ ")"

/-- Bytes as decimal numbers. -/
def decimals (bs : Bytes) : String := listing (bs.map fun b => toString b.toNat)

def truth (b : Bool) : String := if b then "true" else "false"

def optional : Option String → String
  | some t => tuple "Some" [t]
  | none => "None"

end Contactless.Text
