import AttributeStore.Text.Blank
import AttributeStore.Text.Utf8

/-! Server-sent events, read from bytes as they arrive. A line is read when its line feed arrives, and an event when
its blank line does, so it does not matter how the bytes are cut into chunks. -/
namespace AttributeStore.EventStream

structure Event where
  name : Option String
  data : String
  id : Option String
  deriving DecidableEq

/-- The unfinished line, its last byte first, and the fields of the unfinished event. -/
structure Parser where
  line : List UInt8 := []
  name : Option String := none
  data : List String := []
  id : Option String := none
  deriving DecidableEq

namespace Parser

/-- A blank line ends the event. Without data there is none, and its name and id are dropped. -/
def dispatch (p : Parser) : Parser × Option Event :=
  let rest := { p with name := none, data := [], id := none }
  if p.data.isEmpty then (rest, none) else (rest, some ⟨p.name, "\n".intercalate p.data, p.id⟩)

/-- The last name and the last id count, and every line of data. -/
def setField (p : Parser) (field value : String) : Parser :=
  match field with
  | "event" => { p with name := some value }
  | "data" => { p with data := p.data ++ [value] }
  | "id" => { p with id := some value }
  | _ => p

/-- The field of a line and its value, which one space may precede. -/
def splitField (line : List Char) : List Char × List Char :=
  match Text.splitFirst ':' line with
  | some (field, ' ' :: value) => (field, value)
  | some (field, value) => (field, value)
  | none => (line, [])

/-- A line without its end. One that starts with a colon is a comment. -/
def readLine (p : Parser) (line : List Char) : Parser × Option Event :=
  match line with
  | [] => p.dispatch
  | ':' :: _ => (p, none)
  | line =>
    let (field, value) := splitField line
    (p.setField (String.ofList field) (String.ofList value), none)

/-- Carriage returns before the line feed belong to the end of the line. -/
def lineText (bytes : List UInt8) : List Char := Text.trimEnd (· == '\r') (Text.fromUtf8 bytes)

def feedByte (p : Parser) (b : UInt8) : Parser × Option Event :=
  if b = 10 then ({ p with line := [] } : Parser).readLine (lineText p.line.reverse)
  else ({ p with line := b :: p.line }, none)

/-- The events that some bytes complete. -/
def feed (p : Parser) : List UInt8 → Parser × List Event
  | [] => (p, [])
  | b :: rest =>
    let (next, event) := p.feedByte b
    let (last, events) := next.feed rest
    (last, event.toList ++ events)

end Parser

end AttributeStore.EventStream
