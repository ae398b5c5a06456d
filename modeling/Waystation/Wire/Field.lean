import Waystation.Wire.Varint
/-!
Fields of a wire message. A message is a run of fields, each a key (a number and a wire type in one
varint) and a value whose extent the wire type tells. Readers give what they read and the bytes
behind it. Nested messages and groups may be at most a hundred deep.
-/
namespace Waystation.Wire

/-- How the extent of a field's value is told. -/
inductive WireType
  | varint | fixed64 | delimited | startGroup | endGroup | fixed32
  deriving DecidableEq, Repr

namespace WireType

def ofNat? : Nat → Option WireType
  | 0 => some varint
  | 1 => some fixed64
  | 2 => some delimited
  | 3 => some startGroup
  | 4 => some endGroup
  | 5 => some fixed32
  | _ => none

def toNat : WireType → Nat
  | varint => 0
  | fixed64 => 1
  | delimited => 2
  | startGroup => 3
  | endGroup => 4
  | fixed32 => 5

theorem ofNat?_toNat (t : WireType) : ofNat? t.toNat = some t := by cases t <;> rfl

def name : WireType → String
  | varint => "Varint"
  | fixed64 => "SixtyFourBit"
  | delimited => "LengthDelimited"
  | startGroup => "StartGroup"
  | endGroup => "EndGroup"
  | fixed32 => "ThirtyTwoBit"

end WireType

/-- Why bytes are not a message. -/
inductive Fault
  | varint
  | key (value : Nat)
  | wireType (value : Nat)
  | zeroNumber
  | underflow
  | lengthExceeded
  | tooDeep
  | endGroup
  | unexpectedType (actual expected : WireType)
  | notText
  | typeUrl (expected actual : String)
  deriving DecidableEq, Repr

def Fault.message : Fault → String
  | varint => "invalid varint"
  | key n => s!"invalid key value: {n}"
  | wireType n => s!"invalid wire type value: {n}"
  | zeroNumber => "invalid tag value: 0"
  | underflow => "buffer underflow"
  | lengthExceeded => "delimited length exceeded"
  | tooDeep => "recursion limit reached"
  | endGroup => "unexpected end group tag"
  | unexpectedType a e => s!"invalid wire type: {a.name} (expected {e.name})"
  | notText => "invalid string value: data is not UTF-8 encoded"
  | typeUrl e a => s!"expected type URL: \"{e}\" (got: \"{a}\")"

/-- A fault and the fields around it, innermost first, each with its message. -/
structure DecodeError where
  fault : Fault
  path : List (String × String) := []
  deriving DecidableEq, Repr

namespace DecodeError

def message (e : DecodeError) : String :=
  "failed to decode Protobuf message: "
    ++ String.join (e.path.map fun (m, f) => s!"{m}.{f}: ") ++ e.fault.message

/-- The same fault, met inside a field of a message. -/
def within (e : DecodeError) (message field : String) : DecodeError :=
  { e with path := e.path ++ [(message, field)] }

end DecodeError

/-- A fault outside of all fields. -/
def fail {α : Type} (f : Fault) : Except DecodeError α := .error { fault := f }

/-- Places the fault of a reader in a field. -/
def inField {α : Type} (message field : String) (r : Except DecodeError α) : Except DecodeError α :=
  r.mapError (·.within message field)

def readNat (bs : Bytes) : Except DecodeError (Nat × Bytes) :=
  match readVarint bs with
  | some r => .ok r
  | none => fail .varint

/-- A field's number and wire type. Of several faults the size of the key comes first, then the
wire type, then the number. -/
def readKey (bs : Bytes) : Except DecodeError ((Nat × WireType) × Bytes) :=
  match readVarint bs with
  | none => fail .varint
  | some (key, rest) =>
    if UInt32.size ≤ key then fail (.key key)
    else match WireType.ofNat? (key % 8) with
      | none => fail (.wireType (key % 8))
      | some t => if key / 8 = 0 then fail .zeroNumber else .ok ((key / 8, t), rest)

/-- The key of a field: its number and its wire type in one number. -/
def writeKey (number : Nat) (t : WireType) : Bytes := writeVarint (8 * number + t.toNat)

/-- Passes over `n` bytes. -/
def dropBytes (n : Nat) (bs : Bytes) : Except DecodeError Bytes :=
  if bs.length < n then fail .underflow else .ok (bs.drop n)

/-- Runs over the fields of a group up to its end, skipping each with `skip`. -/
def skipFields (skip : Nat → WireType → Bytes → Except DecodeError Bytes) (number : Nat) :
    Nat → Bytes → Except DecodeError Bytes
  | 0, _ => fail .varint
  | fuel + 1, bs => do
    let ((inner, t), rest) ← readKey bs
    if t = .endGroup then
      if inner = number then .ok rest else fail .endGroup
    else skipFields skip number fuel (← skip inner t rest)

/-- Passes over the value of a field nobody knows, within `depth` levels of groups. -/
def skipValue : (depth : Nat) → (number : Nat) → WireType → Bytes → Except DecodeError Bytes
  | 0, _, _, _ => fail .tooDeep
  | depth + 1, number, t, bs =>
    match t with
    | .varint => do return (← readNat bs).2
    | .fixed32 => dropBytes 4 bs
    | .fixed64 => dropBytes 8 bs
    | .delimited => do
      let (n, rest) ← readNat bs
      dropBytes n rest
    | .startGroup => skipFields (skipValue depth) number (bs.length + 1) bs
    | .endGroup => fail .endGroup

/-- Fails if a field has another wire type than its message says. -/
def expectType (actual expected : WireType) : Except DecodeError Unit :=
  if actual = expected then .ok () else fail (.unexpectedType actual expected)

/-- A value of declared length. -/
def readDelimited (t : WireType) (bs : Bytes) : Except DecodeError (Bytes × Bytes) := do
  expectType t .delimited
  let (n, rest) ← readNat bs
  if rest.length < n then fail .underflow else .ok (rest.take n, rest.drop n)

/-- A text: bytes that must be well formed. -/
def readText (t : WireType) (bs : Bytes) : Except DecodeError (String × Bytes) := do
  let (value, rest) ← readDelimited t bs
  match value.toText? with
  | some s => .ok (s, rest)
  | none => fail .notText

/-- Merges fields into a value with `step` while more than `limit` bytes are left. Every field has
at least one byte, so the length of the input bounds the number of rounds. -/
def mergeFields {α : Type} (step : α → Bytes → Except DecodeError (α × Bytes)) (limit : Nat) :
    (fuel : Nat) → α → Bytes → Except DecodeError (α × Bytes)
  | 0, a, bs => .ok (a, bs)
  | fuel + 1, a, bs =>
    if bs.length ≤ limit then .ok (a, bs)
    else do
      let (a, rest) ← step a bs
      mergeFields step limit fuel a rest

/-- A whole message: fields to the end of the input. -/
def readMessage {α : Type} (step : α → Bytes → Except DecodeError (α × Bytes)) (start : α)
    (bs : Bytes) : Except DecodeError α := do
  return (← mergeFields step 0 bs.length start bs).1

/-- A nested message of declared length. Its last field may reach past the declared end; that is
noticed only after the field. -/
def readNested {α : Type} (step : α → Bytes → Except DecodeError (α × Bytes)) (start : α)
    (t : WireType) (bs : Bytes) : Except DecodeError (α × Bytes) := do
  expectType t .delimited
  let (n, rest) ← readNat bs
  if rest.length < n then fail .underflow
  let limit := rest.length - n
  let (a, tail) ← mergeFields step limit rest.length start rest
  if tail.length = limit then .ok (a, tail) else fail .lengthExceeded

/-- A varint field; zero is left out. -/
def writeNatField (number n : Nat) : Bytes :=
  if n = 0 then [] else writeKey number .varint ++ writeVarint n

/-- A field of declared length. -/
def writeDelimited (number : Nat) (value : Bytes) : Bytes :=
  writeKey number .delimited ++ writeVarint value.length ++ value

/-- A byte field; the empty value is left out. -/
def writeBytesField (number : Nat) (value : Bytes) : Bytes :=
  if value = [] then [] else writeDelimited number value

/-- A text field; the empty text is left out. -/
def writeTextField (number : Nat) (s : String) : Bytes :=
  if s = "" then [] else writeDelimited number (Bytes.ofText s)

end Waystation.Wire
