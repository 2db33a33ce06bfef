import Superstep.Binary64.Decimal

/-! # TOML values

The values of a TOML document. A table has its fields in the order in which they
were written, and no key twice.
-/

namespace Superstep.Toml

/-- A TOML value. -/
inductive Value where
  | string (value : String)
  /-- An integer of 64 bits. -/
  | integer (value : Int)
  /-- A float, which may be infinite or no number. -/
  | float (value : Except NonFinite Binary64)
  | bool (value : Bool)
  /-- A date, a time or both, in their usual form. -/
  | moment (text : String)
  | array (items : List Value)
  | table (fields : List (String × Value))

instance : Inhabited Value := ⟨.bool false⟩

end Superstep.Toml
