import Superstep.Json.Reader

/-! # Decoding drafts

Decoders walk a draft in the order of the text and fail at the first problem. A
record may be written as an object, or as the array of its fields in the order
of their declaration, the last ones left out if they have defaults.
-/

namespace Superstep.Json

/-- Why a text or value does not decode. -/
inductive DecodeError where
  | text (flaw : Flaw)
  /-- A value has the wrong kind, or a field is missing or given twice. -/
  | mismatch
  deriving DecidableEq, Repr

/-- A decoder of drafts. -/
abbrev Decoder (α : Type) := Draft → Except DecodeError α

/-- What is there, or the complaint of one who reads what can only be skipped. -/
def readable {α : Type} : Option α → Except DecodeError α
  | some a => .ok a
  | none => .error (.text .malformed)

mutual
/-- Skip a value: only its spelling has to be right. -/
def Draft.skip : Draft → Except DecodeError Unit
  | .null | .bool _ | .number _ | .string _ => .ok ()
  | .array items => items.skip
  | .object members => members.skip
  | .deep inner => inner.skip
  | .broken b => .error (.text b.skip)

def Items.skip : Items → Except DecodeError Unit
  | .close => .ok ()
  | .item d rest => do
      d.skip
      rest.skip
  | .stop b => .error (.text b.skip)
  | .dangling b => .error (.text b.skip)

def Members.skip : Members → Except DecodeError Unit
  | .close => .ok ()
  | .member _ d rest => do
      d.skip
      rest.skip
  | .stop b => .error (.text b.skip)
end

mutual
def Draft.asValue : Draft → Except DecodeError Value
  | .null => .ok .null
  | .bool b => .ok (.bool b)
  | .number n => (readable n).map .number
  | .string s => (readable s).map .string
  | .array items => items.values.map .array
  | .object members => (members.fields .empty).map .ofMap
  | .deep _ => .error (.text .malformed)
  | .broken b => .error (.text b.read)

def Items.values : Items → Except DecodeError (List Value)
  | .close => .ok []
  | .item d rest => do
      let v ← d.asValue
      let vs ← rest.values
      .ok (v :: vs)
  | .stop b => .error (.text b.read)
  | .dangling b => .error (.text b.read)

/-- The fields of an object after those read before; of equal keys the last one
    wins. -/
def Members.fields (before : KeyMap Value) : Members → Except DecodeError (KeyMap Value)
  | .close => .ok before
  | .member key d rest => do
      let key ← readable key
      let v ← d.asValue
      rest.fields (before.insert key v)
  | .stop b => .error (.text b.read)
end

namespace Draft

/-- What to report of a value of a wrong kind. Scalars are read before they are
    rejected, containers are not. -/
def wrongKind : Draft → DecodeError
  | .number none | .string none => .text .malformed
  | .broken b => .text b.read
  | _ => .mismatch

def asString : Decoder String
  | .string s => readable s
  | d => .error d.wrongKind

def asBool : Decoder Bool
  | .bool b => .ok b
  | d => .error d.wrongKind

/-- An integer between two bounds, both included. -/
def asInteger (low high : Int) : Decoder Int
  | .number (some (.integer i)) => if low ≤ i ∧ i ≤ high then .ok i else .error .mismatch
  | d => .error d.wrongKind

/-- A natural number of at most so many bits. -/
def asNatural (bits : Nat) : Decoder Nat := fun d =>
  (asInteger 0 ((twoTo bits : Int) - 1) d).map Int.toNat

def asOptional {α : Type} (decoder : Decoder α) : Decoder (Option α)
  | .null => .ok none
  | d => (decoder d).map some

end Draft

/-- The items of an array, each decoded alike. -/
def Items.each {α : Type} (decoder : Decoder α) : Items → Except DecodeError (List α)
  | .close => .ok []
  | .item d rest => do
      let a ← decoder d
      let as ← rest.each decoder
      .ok (a :: as)
  | .stop b => .error (.text b.read)
  | .dangling b => .error (.text b.read)

/-- The members of an object, each decoded alike; of equal keys the last one
    wins. -/
def Members.each {α : Type} (decoder : Decoder α) (before : KeyMap α) :
    Members → Except DecodeError (KeyMap α)
  | .close => .ok before
  | .member key d rest => do
      let key ← readable key
      let a ← decoder d
      rest.each decoder (before.insert key a)
  | .stop b => .error (.text b.read)

def Draft.asList {α : Type} (decoder : Decoder α) : Decoder (List α)
  | .array items => items.each decoder
  | .deep _ => .error (.text .malformed)
  | d => .error d.wrongKind

def Draft.asMap {α : Type} (decoder : Decoder α) : Decoder (KeyMap α)
  | .object members => members.each decoder .empty
  | .deep _ => .error (.text .malformed)
  | d => .error d.wrongKind

def Draft.asFields : Decoder (KeyMap Value)
  | .object members => members.fields .empty
  | .deep _ => .error (.text .malformed)
  | d => .error d.wrongKind

/-- A field of a record that is being read into a `σ`. -/
structure RecordField (σ : Type) where
  /-- Its name, and other names for it. -/
  names : List String
  isSet : σ → Bool
  set : σ → Draft → Except DecodeError σ

/-- A field that is kept as an option until the record is complete. -/
def RecordField.of {σ : Type} {α : Type} (names : List String) (get : σ → Option α)
    (put : σ → α → σ) (decoder : Decoder α) : RecordField σ where
  names := names
  isSet partly := (get partly).isSome
  set partly d := (decoder d).map (put partly)

/-- Read the members of a record. A field may be given once; members that are
    no fields are skipped. -/
def Members.record {σ : Type} (fields : List (RecordField σ)) (partly : σ) :
    Members → Except DecodeError σ
  | .close => .ok partly
  | .member key d rest => do
      let key ← readable key
      match fields.find? (·.names.contains key) with
      | some field =>
          if field.isSet partly then .error .mismatch
          else rest.record fields (← field.set partly d)
      | none =>
          d.skip
          rest.record fields partly
  | .stop b => .error (.text b.read)

/-- Read the fields of a record from the items of an array. More items than
    fields make the text malformed, unless a surplus is allowed and ignored. -/
def Items.record {σ : Type} (surplus : Bool) :
    List (RecordField σ) → σ → Items → Except DecodeError σ
  | _, partly, .close => .ok partly
  | _, _, .stop b => .error (.text b.read)
  | [], partly, .item _ _ => if surplus then .ok partly else .error (.text .malformed)
  | [], _, .dangling _ => .error (.text .malformed)
  | field :: fields, partly, .item d rest => do
      Items.record surplus fields (← field.set partly d) rest
  | _ :: _, _, .dangling b => .error (.text b.read)

/-- A record, in either of its forms. -/
def Draft.asRecordWith {σ : Type} {α : Type} (surplus : Bool) (fields : List (RecordField σ))
    (start : σ) (finish : σ → Except DecodeError α) : Decoder α
  | .object members => do finish (← members.record fields start)
  | .array items => do finish (← items.record surplus fields start)
  | .deep _ => .error (.text .malformed)
  | d => .error d.wrongKind

/-- A record without surplus items. -/
def Draft.asRecord {σ : Type} {α : Type} (fields : List (RecordField σ)) (start : σ)
    (finish : σ → Except DecodeError α) : Decoder α :=
  Draft.asRecordWith false fields start finish

/-- A field without a default. -/
def required {α : Type} : Option α → Except DecodeError α
  | some a => .ok a
  | none => .error .mismatch

/-- Decode a whole text. After the value only blanks may follow. -/
def decodeText {α : Type} (decoder : Decoder α) (text : String) : Except DecodeError α := do
  let (draft, rest) := Reader.document text
  let a ← decoder draft
  match rest with
  | some rest => if (Reader.skipSpace rest).isEmpty then .ok a else .error (.text .malformed)
  | none => .error (.text .malformed)

/-- Decode a value. Without a text there is only one kind of failure. -/
def decodeValue {α : Type} (decoder : Decoder α) (v : Value) : Except DecodeError α :=
  match decoder (.ofValue v) with
  | .ok a => .ok a
  | .error _ => .error .mismatch

def parse (text : String) : Except DecodeError Value :=
  decodeText Draft.asValue text

end Superstep.Json
