import AttributeStore.Json.Fault

/-! Types with a JSON shape: a way to write and a way to read in one value. Records are given field by field; what a
field does when it is absent, and when it is left out, stands beside its name, so that a record is read and written
by the same list. -/
namespace AttributeStore.Json

/-- Where a value comes from: a text under the reader's eye, a value in memory, or a part of either that was set aside
to be read later. They differ in what stands after too long a list and in the shapes they offer a choice. -/
inductive Source
  | text
  | memory
  | aside
  deriving DecidableEq

abbrev Decoder (α : Type) := Source → Reading → Except Fault α

structure Codec (α : Type) where
  encode : α → Json
  decode : Decoder α

def Reading.found : Reading → Found
  | .bool b => .bool b
  | .int n => .int n
  | .float x => .float x
  | .str s => .str s
  | .arr _ => .list
  | .obj _ => .object
  | _ => .null

/-- A value of another type than the expected one. -/
def mismatch (expected : String) (r : Reading) : Except Fault α :=
  match r with
  | .broken why => .error (.stopped why)
  | .unreadable _ => .error (.stopped .malformed)
  | r => .error (.wrongType r.found expected)

def readable (r : Reading) : Except Fault Json := r.toJson.mapError .stopped

namespace Codec

def string : Codec String where
  encode := .str
  decode _
    | .str s => .ok s
    | r => mismatch "a string" r

def bool : Codec Bool where
  encode := .bool
  decode _
    | .bool b => .ok b
    | r => mismatch "a boolean" r

/-- A whole number of a bounded type. -/
def whole (type : String) (low high : Int) : Decoder Int := fun _ r =>
  match r with
  | .int n => if low ≤ n ∧ n < high then .ok n else .error (.wrongValue (.int n) type)
  | r => mismatch type r

/-- A number with 32 bits and no sign. -/
def u32 : Codec UInt32 where
  encode n := .int n.toNat
  decode source r := (whole "u32" 0 UInt32.size source r).map fun n => UInt32.ofNat n.toNat

def i64 : Codec Int64 where
  encode n := .int n.toInt
  decode source r := (whole "i64" Int64.minValue.toInt (Int64.maxValue.toInt + 1) source r).map Int64.ofInt

def f64 : Codec Float where
  encode := .float
  decode _
    | .int n => .ok (if n < 0 then -(n.natAbs.toUInt64.toFloat) else n.toNat.toUInt64.toFloat)
    | .float x => .ok x
    | r => mismatch "f64" r

/-- Any value, as it is. -/
def json : Codec Json where
  encode := id
  decode _ r := readable r

def option (c : Codec α) : Codec (Option α) where
  encode
    | none => .null
    | some a => c.encode a
  decode source
    | .null => .ok none
    | r => (c.decode source r).map some

def decodeItems (c : Decoder α) (source : Source) : List Reading → Except Fault (List α)
  | [] => .ok []
  | r :: rest => do
    let a ← c source r
    let more ← decodeItems c source rest
    return a :: more

def list (c : Codec α) : Codec (List α) where
  encode as := .arr (as.map c.encode)
  decode source
    | .arr items => decodeItems c.decode source items
    | r => mismatch "a sequence" r

def decodeFields (c : Decoder α) (source : Source) : List (String × Reading) → Except Fault (List (String × α))
  | [] => .ok []
  | (name, r) :: rest => do
    let a ← c source r
    let more ← decodeFields c source rest
    return (name, a) :: more

/-- Values under any names, in the order of the names; the last of equal names counts. -/
def map (c : Codec α) : Codec (List (String × α)) where
  encode fields := .obj (fields.map fun (name, a) => (name, c.encode a))
  decode source
    | .obj fields => (decodeFields c.decode source fields).map sortFields
    | r => mismatch "a map" r

/-- The nothing of a choice whose cases carry nothing. -/
def nothing : Decoder Unit := fun _ r =>
  match r with
  | .null => .ok ()
  | r => mismatch "unit" r

def pick (name : α → String) (all : List α) (s : String) : Except Fault α :=
  match all.find? (name · == s) with
  | some a => .ok a
  | none => .error (.unknownVariant s (all.map name))

/-- One of several names. A name may also be written as the only field of an object. -/
def choice (name : α → String) (all : List α) : Codec α where
  encode a := .str (name a)
  decode source
    | .str s => pick name all s
    | .obj [(s, value)] =>
      match value, s with
      | .broken why, "" => .error (.stopped why)
      | value, s => do
        let a ← pick name all s
        nothing source value
        return a
    | .obj fields =>
      match source, fields with
      | .text, (s, value) :: (_, next) :: _ => do
        let _ ← pick name all s
        nothing source value
        .error (.stopped (match next with | .broken why => why | _ => .malformed))
      | .text, _ => .error (.stopped .malformed)
      | _, _ => .error (.wrongValue .object "map with a single key")
    | .broken why => .error (.stopped why)
    | r => if source = .text then .error (.stopped .malformed) else mismatch "string or map" r

/-- A shape whose values are checked further. -/
def refine (c : Codec α) (read : α → Except String β) (write : β → α) : Codec β where
  encode b := c.encode (write b)
  decode source r := do
    let a ← c.decode source r
    (read a).mapError .refused

end Codec

/-- A field of a record. `absent` is its value in an object without it, `unlisted` its value in a list that ends
before it, and a value that `omits` accepts is not written. -/
structure Field (α : Type) where
  name : String
  codec : Codec α
  absent : Option α
  unlisted : Option α
  omits : α → Bool

def required (name : String) (c : Codec α) : Field α := ⟨name, c, none, none, fun _ => false⟩

def defaulted (name : String) (c : Codec α) (value : α) : Field α := ⟨name, c, some value, some value, fun _ => false⟩

/-- `null` or nothing for an absent value, written as `null`; a list must hold it. -/
def nullable (name : String) (c : Codec α) : Field (Option α) := ⟨name, .option c, some none, none, fun _ => false⟩

/-- `null` or nothing for an absent value, which is written as `null`. -/
def optional (name : String) (c : Codec α) : Field (Option α) :=
  ⟨name, .option c, some none, some none, fun _ => false⟩

/-- `null` or nothing for an absent value, which is not written. -/
def skipped (name : String) (c : Codec α) : Field (Option α) :=
  ⟨name, .option c, some none, some none, Option.isNone⟩

/-- The fields of a record in their order; the record is the nested pair of their values. -/
inductive Fields : Type → Type 1
  | nil : Fields Unit
  | cons {α β : Type} (field : Field α) (rest : Fields β) : Fields (α × β)

namespace Fields

def size : Fields τ → Nat
  | nil => 0
  | cons _ rest => rest.size + 1

/-- The values read so far. -/
def Slots : {τ : Type} → Fields τ → Type
  | _, nil => Unit
  | _, @cons α _ _ rest => Option α × Slots rest

def empty : (fs : Fields τ) → Slots fs
  | nil => ()
  | cons _ rest => (none, empty rest)

/-- Reads a field if the record has it. -/
def put (source : Source) (key : String) (r : Reading) :
    (fs : Fields τ) → Slots fs → Option (Except Fault (Slots fs))
  | nil, _ => none
  | @cons α _ f rest, slots =>
    let this : Option α × Slots rest := slots
    if f.name = key then
      some <| match this.1 with
        | some _ => .error (.duplicateField key)
        | none => (f.codec.decode source r).map fun a => (some a, this.2)
    else (put source key r rest this.2).map fun done => done.map fun others => (this.1, others)

/-- Fields in their order in the text; an unknown one is passed over. -/
def fill (source : Source) (fs : Fields τ) (slots : Slots fs) :
    List (String × Reading) → Except Fault (Slots fs)
  | [] => .ok slots
  | (key, r) :: rest =>
    match put source key r fs slots with
    | some done => do
      let slots ← done
      fill source fs slots rest
    | none => do
      r.skip.mapError .stopped
      fill source fs slots rest

/-- Absent fields, looked for in the order of the record. -/
def complete : (fs : Fields τ) → Slots fs → Except Fault τ
  | nil, _ => .ok ()
  | @cons α _ f rest, slots => do
    let this : Option α × Slots rest := slots
    let a ← match this.1.or f.absent with
      | some a => .ok a
      | none => .error (.missingField f.name)
    let more ← complete rest this.2
    return (a, more)

/-- A record written as the list of its fields; the items behind the last field are returned. -/
def ofItems (source : Source) (tooShort : Nat → Fault) (index : Nat) :
    (fs : Fields τ) → List Reading → Except Fault (τ × List Reading)
  | nil, items => .ok ((), items)
  | cons f rest, [] =>
    match f.unlisted with
    | none => .error (tooShort index)
    | some a => do
      let (more, items) ← ofItems source tooShort (index + 1) rest []
      return ((a, more), items)
  | cons f rest, item :: items => do
    let a ← f.codec.decode source item
    let (more, items) ← ofItems source tooShort (index + 1) rest items
    return ((a, more), items)

def toFields : (fs : Fields τ) → τ → List (String × Json)
  | nil, _ => []
  | cons f rest, (a, more) =>
    if f.omits a then toFields rest more else (f.name, f.codec.encode a) :: toFields rest more

/-- What is wrong with items that no field takes. -/
def excess (source : Source) (size total : Nat) : List Reading → Except Fault Unit
  | [] => .ok ()
  | item :: _ =>
    match source, item with
    | .text, .broken why => .error (.stopped why)
    | .text, _ => .error (.stopped .malformed)
    | .memory, _ => .error (.wrongLength total "fewer elements in array")
    | .aside, _ =>
      .error (.wrongLength total (if size = 1 then "1 element in sequence" else s!"{size} elements in sequence"))

def ofObject (fs : Fields τ) (source : Source) (fields : List (String × Reading)) : Except Fault τ := do
  let slots ← fs.fill source fs.empty fields
  fs.complete slots

def ofList (type : String) (fs : Fields τ) (source : Source) (items : List Reading) : Except Fault τ := do
  let size := fs.size
  let elements := if size = 1 then "1 element" else s!"{size} elements"
  let (a, more) ← fs.ofItems source (fun index => .wrongLength index s!"struct {type} with {elements}") 0 items
  excess source size items.length more
  return a

end Fields

/-- A record type: its name in messages, its fields, and how it is made of them. -/
def Codec.record (type : String) (fs : Fields τ) (make : τ → α) (parts : α → τ) : Codec α where
  encode a := .obj (fs.toFields (parts a))
  decode source
    | .obj fields => (fs.ofObject source fields).map make
    | .arr items => (fs.ofList type source items).map make
    | r => mismatch ("struct " ++ type) r

/-- Reads a value in memory. -/
def Codec.ofJson (c : Codec α) (value : Json) : Except Fault α := c.decode .memory value.reading

/-- Reads a whole text. -/
def Codec.ofText (c : Codec α) (s : String) : Except Fault α := do
  let (r, more) := read s
  let a ← c.decode .text r
  match more with
  | none => return a
  | some why => .error (.stopped why)

end AttributeStore.Json
