import FolderSieve.Json.Number

/-!
# JSON — values

The values a configuration is decoded from.  The members of an object keep their order, and a
number is an integer exactly if it is written without a fraction and without an exponent.
-/

namespace FolderSieve.Json

inductive Value where
  | null
  | bool (b : Bool)
  | int (n : Int)
  | real (x : Real)
  | string (s : String)
  | array (items : List Value)
  | object (members : List (String × Value))

/-- The members of an object, in order. -/
abbrev Members := List (String × Value)

namespace Members

/-- The value at a key. -/
def get? (ms : Members) (key : String) : Option Value :=
  (ms.find? fun m => m.1 == key).map (·.2)

/-- Some member has the key. -/
def has (ms : Members) (key : String) : Bool :=
  ms.any fun m => m.1 == key

/-- The members without those at a key. -/
def without (ms : Members) (key : String) : Members :=
  ms.filter fun m => m.1 != key

/-- Sets a key; a key that is there keeps its place. -/
def put (ms : Members) (key : String) (v : Value) : Members :=
  if has ms key then ms.map fun m => if m.1 == key then (key, v) else m
  else ms ++ [(key, v)]

end Members

namespace Value

/-- The name of a value's kind in messages. -/
def kindName : Value → String
  | .null => "NoneType"
  | .bool _ => "bool"
  | .int _ => "int"
  | .real _ => "float"
  | .string _ => "str"
  | .array _ => "list"
  | .object _ => "dict"

/-- The value counts as the given truth value: true is one and false is zero, also among the
numbers. -/
def isTruth (b : Bool) : Value → Bool
  | .bool c => b == c
  | .int n => n == (if b then 1 else 0)
  | .real x => if b then x.isOne else x.isZero
  | .null | .string _ | .array _ | .object _ => false

end Value

end FolderSieve.Json
