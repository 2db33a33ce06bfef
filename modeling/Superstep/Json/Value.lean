import Superstep.Binary64.Basic
import Superstep.KeyMap

/-! # JSON values

The values that metadata, contexts and expressions are made of. Integers and
floats are kept apart, also when they are numerically equal, because they are
written differently. The fields of an object are a list in the order in which
they are written; objects that were read or computed are in key order.
-/

namespace Superstep.Json

/-- A JSON number. -/
inductive Number where
  /-- A number written without fraction and exponent. -/
  | integer (value : Int)
  | float (value : Binary64)
  deriving DecidableEq

namespace Number

/-- The nearest binary64 number. -/
def toBinary64 : Number → Binary64
  | .integer i => .ofInt i
  | .float x => x

/-- A computed number: an integer if it is one and lies strictly between -2^63
    and 2^63. -/
def ofBinary64 (x : Binary64) : Number :=
  match x.toInt? with
  | some i => if i.natAbs < twoTo 63 then .integer i else .float x
  | none => .float x

def same : Number → Number → Bool
  | .integer i, .integer j => i == j
  | .float x, .float y => x.sameValue y
  | _, _ => false

/-- Equality of values, whatever the form. -/
def sameValue (m n : Number) : Bool :=
  m.toBinary64.sameValue n.toBinary64

/-- The number as a position in a list: an integer that is not negative. -/
def index? : Number → Option Nat
  | .integer i => if 0 ≤ i then some i.toNat else none
  | .float _ => none

end Number

/-- A JSON value. -/
inductive Value where
  | null
  | bool (value : Bool)
  | number (value : Number)
  | string (value : String)
  | array (items : List Value)
  | object (fields : List (String × Value))

instance : Inhabited Value := ⟨.null⟩

namespace Value

def ofInt (i : Int) : Value :=
  .number (.integer i)

def ofNat (n : Nat) : Value :=
  .ofInt n

def ofMap (m : KeyMap Value) : Value :=
  .object m.entries

/-- A text, or null for none. -/
def ofOption : Option String → Value
  | some s => .string s
  | none => .null

def kindName : Value → String
  | .null => "null"
  | .bool _ => "boolean"
  | .number _ => "number"
  | .string _ => "string"
  | .array _ => "array"
  | .object _ => "object"

mutual
/-- Structural equality, in which an integer never equals a float. -/
def same : Value → Value → Bool
  | .null, .null => true
  | .bool a, .bool b => a == b
  | .number m, .number n => m.same n
  | .string s, .string t => s == t
  | .array xs, .array ys => sameItems xs ys
  | .object fs, .object gs => sameFields fs gs
  | _, _ => false

def sameItems : List Value → List Value → Bool
  | [], [] => true
  | x :: xs, y :: ys => x.same y && sameItems xs ys
  | _, _ => false

def sameFields : List (String × Value) → List (String × Value) → Bool
  | [], [] => true
  | (k, x) :: fs, (l, y) :: gs => k == l && x.same y && sameFields fs gs
  | _, _ => false
end

end Value

end Superstep.Json
