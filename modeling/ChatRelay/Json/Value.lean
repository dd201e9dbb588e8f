import ChatRelay.Decimal.Double
import ChatRelay.Text.Integer

/-!
JSON values. A number is a whole number of 64 bits, signed or unsigned, or else a floating-point number.
The members of an object are a list of names and values. Objects that are read hold every name once, in
the order of the names, which `Fields.insert` keeps.
-/

namespace ChatRelay.Json

open ChatRelay.Decimal (Double)

inductive Number where
  | integer (n : Int)
  | double (d : Double)
deriving DecidableEq

inductive Value where
  | null
  | bool (b : Bool)
  | number (n : Number)
  | string (s : String)
  | array (items : List Value)
  | object (fields : List (String × Value))

/-- The members of an object. -/
abbrev Fields := List (String × Value)

instance : Inhabited Value := ⟨.null⟩

instance : Inhabited Number := ⟨.integer 0⟩

namespace Fields

/-- Put a member at its place in the order of names. A member of the same name is replaced. -/
def insert (key : String) (value : Value) : Fields → Fields
  | [] => [(key, value)]
  | (k, v) :: rest =>
      if key = k then (key, value) :: rest
      else if key < k then (key, value) :: (k, v) :: rest
      else (k, v) :: insert key value rest

/-- The members of a list in the order of their names, the last one of every name. -/
def ofList (members : List (String × Value)) : Fields :=
  members.foldl (fun fields member => insert member.1 member.2 fields) []

def get? (fields : Fields) (key : String) : Option Value :=
  (fields.find? fun member => member.1 == key).map Prod.snd

end Fields

namespace Value

def int (n : Int) : Value := .number (.integer n)

def nat (n : Nat) : Value := .number (.integer n)

def ofOption (f : α → Value) : Option α → Value
  | none => .null
  | some a => f a

def object? : Value → Option Fields
  | .object fields => some fields
  | _ => none

def array? : Value → Option (List Value)
  | .array items => some items
  | _ => none

def string? : Value → Option String
  | .string s => some s
  | _ => none

def bool? : Value → Option Bool
  | .bool b => some b
  | _ => none

/-- A whole number in the signed range of 64 bits. -/
def signed? : Value → Option Int
  | .number (.integer n) => if Text.fitsSigned n then some n else none
  | _ => none

/-- A whole number in the unsigned range of 64 bits. -/
def unsigned? : Value → Option Nat
  | .number (.integer n) => if 0 ≤ n && n ≤ Text.maxUnsigned then some n.toNat else none
  | _ => none

/-- A signed whole number, or a text that is one once it is trimmed. -/
def lenientSigned? : Value → Option Int
  | .string s => Text.signed? (Text.trim s)
  | v => v.signed?

/-- A member of an object. Other values have none. -/
def field? (key : String) : Value → Option Value
  | .object fields => Fields.get? fields key
  | _ => none

end Value

end ChatRelay.Json
