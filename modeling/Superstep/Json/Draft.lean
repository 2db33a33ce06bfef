import Superstep.Json.Value

/-! # What can be read of a JSON text

Reading a text gives a draft: the values it spells, up to the place where it
stops being JSON. Decoding then walks the draft in the order of the text, so
the first problem wins, be it a break in the text or a value of the wrong kind.

Values that nobody asks for are skipped. Skipping looks less closely than
reading does: it accepts numbers out of range, escapes of unpaired surrogates
and any depth of nesting. A draft keeps a place for such values.
-/

namespace Superstep.Json

/-- How a text fails to be JSON. -/
inductive Flaw where
  | malformed
  | truncated
  deriving DecidableEq, Repr

/-- A place where a text stops being JSON, as seen by one who reads the value
    and by one who skips it. -/
structure Break where
  read : Flaw
  skip : Flaw
  deriving DecidableEq, Repr

/-- A break that looks the same to readers and skippers. -/
def Break.both (flaw : Flaw) : Break := ⟨flaw, flaw⟩

mutual
/-- A value as far as it can be read. -/
inductive Draft where
  | null
  | bool (value : Bool)
  /-- A number, unless it is out of range. -/
  | number (value : Option Number)
  /-- A text, unless it has an escape of an unpaired surrogate. -/
  | string (value : Option String)
  | array (items : Items)
  | object (members : Members)
  | deep (inner : Draft)
  | broken (place : Break)

/-- The items of an array up to its end or to a break. -/
inductive Items where
  | close
  | item (value : Draft) (rest : Items)
  | stop (place : Break)
  /-- A comma without an item after it. -/
  | dangling (place : Break)

/-- The members of an object up to its end or to a break. -/
inductive Members where
  | close
  | member (key : Option String) (value : Draft) (rest : Members)
  | stop (place : Break)
end

mutual
def Draft.ofValue : Value → Draft
  | .null => .null
  | .bool b => .bool b
  | .number n => .number (some n)
  | .string s => .string (some s)
  | .array items => .array (Items.ofValues items)
  | .object fields => .object (Members.ofFields fields)

def Items.ofValues : List Value → Items
  | [] => .close
  | v :: rest => .item (Draft.ofValue v) (Items.ofValues rest)

def Members.ofFields : List (String × Value) → Members
  | [] => .close
  | (key, v) :: rest => .member (some key) (Draft.ofValue v) (Members.ofFields rest)
end

end Superstep.Json
