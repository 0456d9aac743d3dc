import AttributeStore.Json.Token

/-! What a reader sees of a JSON text: the value as far as the text goes, with the place marked where it stops being
JSON. A reader that walks this tree in order meets a wrong shape or the mark, whichever stands first in the text. -/
namespace AttributeStore.Json

inductive Reading
  | null
  | bool (b : Bool)
  | int (n : Int)
  | float (x : Float)
  | str (s : String)
  | arr (items : List Reading)
  | obj (fields : List (String × Reading))
  /-- The text ends or goes wrong here; nothing stands after it. -/
  | broken (why : Stop)
  /-- Well-formed text that can be passed over but not read: a number above all doubles, a string with half a
  surrogate pair, or a list or object on level 128. -/
  | unreadable (inner : Reading)
  deriving Inhabited

/-- A list or object still open around the place of reading. -/
inductive Frame
  | arr (done : List Reading)
  | obj (done : List (String × Reading)) (name : String)

/-- What may stand at the place of reading. -/
inductive Place
  | value
  | valueOrClose
  | nameOrClose
  | name
  | colon (name : String)
  | commaOrClose

/-- Levels of lists and objects that can be read. -/
def maxDepth : Nat := 127

def sealed (depth : Nat) (r : Reading) : Reading := if depth < maxDepth then r else .unreadable r

/-- Closes all open lists and objects behind a last value. -/
def abandon (r : Reading) : List Frame → Reading
  | [] => r
  | .arr done :: outer => abandon (sealed outer.length (.arr (done.reverse ++ [r]))) outer
  | .obj done name :: outer => abandon (sealed outer.length (.obj (done.reverse ++ [(name, r)]))) outer

def Token.scalar? : Token → Option Reading
  | .word (.bool b) => some (.bool b)
  | .word _ => some .null
  | .number n =>
    match n.value? with
    | some (.int n) => some (.int n)
    | some (.float x) => some (.float x)
    | none => some (.unreadable .null)
  | .text s => some (.str s)
  | .badText => some (.unreadable .null)
  | _ => none

def Token.why : Token → Stop
  | .stop why => why
  | _ => .malformed

/-- What a token does: reading goes on, the value is complete, or the text is broken. -/
inductive Next
  | go (place : Place) (frames : List Frame)
  | done (r : Reading)
  | cut (r : Reading)

/-- A complete value takes its place in the innermost open list or object. -/
def settle (r : Reading) : List Frame → Next
  | [] => .done r
  | .arr done :: outer => .go .commaOrClose (.arr (r :: done) :: outer)
  | .obj done name :: outer => .go .commaOrClose (.obj ((name, r) :: done) "" :: outer)

def breakOff (t : Token) (frames : List Frame) : Next := .cut (abandon (.broken t.why) frames)

def scalar (t : Token) (frames : List Frame) : Next :=
  match t.scalar? with
  | some r => settle r frames
  | none => breakOff t frames

/-- An object is entered with the empty name, which its first field replaces. -/
def next : Place → Token → List Frame → Next
  | .value, .openArr, frames => .go .valueOrClose (.arr [] :: frames)
  | .value, .openObj, frames => .go .nameOrClose (.obj [] "" :: frames)
  | .value, t, frames => scalar t frames
  | .valueOrClose, .openArr, frames => .go .valueOrClose (.arr [] :: frames)
  | .valueOrClose, .openObj, frames => .go .nameOrClose (.obj [] "" :: frames)
  | .valueOrClose, .closeArr, .arr done :: outer => settle (sealed outer.length (.arr done.reverse)) outer
  | .valueOrClose, t, frames => scalar t frames
  | .commaOrClose, .comma, .arr done :: outer => .go .value (.arr done :: outer)
  | .commaOrClose, .comma, .obj done name :: outer => .go .name (.obj done name :: outer)
  | .commaOrClose, .closeArr, .arr done :: outer => settle (sealed outer.length (.arr done.reverse)) outer
  | .commaOrClose, .closeObj, .obj done _ :: outer => settle (sealed outer.length (.obj done.reverse)) outer
  | .nameOrClose, .closeObj, .obj done _ :: outer => settle (sealed outer.length (.obj done.reverse)) outer
  | .nameOrClose, .text name, frames => .go (.colon name) frames
  | .name, .text name, frames => .go (.colon name) frames
  | .colon name, .colon, .obj done _ :: outer => .go .value (.obj done name :: outer)
  | .colon name, t, .obj done _ :: outer => breakOff t (.obj done name :: outer)
  | _, t, frames => breakOff t frames

/-- The frames as the end of the text finds them: a name without its colon counts as the open field's. -/
def pending : Place → List Frame → List Frame
  | .colon name, .obj done _ :: outer => .obj done name :: outer
  | _, frames => frames

/-- The reading of a text, and how the text goes on after its value if it does. -/
def build (place : Place) (frames : List Frame) : List Token → Reading × Option Stop
  | [] => (abandon (.broken .ended) (pending place frames), none)
  | t :: rest =>
    match next place t frames with
    | .go place frames => build place frames rest
    | .done r => (r, if rest.isEmpty then none else some .malformed)
    | .cut r => (r, none)

/-- A whole text: its value, and how it goes wrong after the value if it does. -/
def read (s : String) : Reading × Option Stop := build .value [] (scan s.toList)

namespace Reading

mutual

/-- Passing over a value: only broken text stops it. -/
def skip : Reading → Except Stop Unit
  | .broken why => .error why
  | .unreadable inner => inner.skip
  | .arr items => skipItems items
  | .obj fields => skipFields fields
  | _ => .ok ()

def skipItems : List Reading → Except Stop Unit
  | [] => .ok ()
  | item :: rest =>
    match item.skip with
    | .ok _ => skipItems rest
    | .error why => .error why

def skipFields : List (String × Reading) → Except Stop Unit
  | [] => .ok ()
  | (_, value) :: rest =>
    match value.skip with
    | .ok _ => skipFields rest
    | .error why => .error why

end

mutual

/-- The value itself, its fields in ascending order; of two equal names the last counts. -/
def toJson : Reading → Except Stop Json
  | .null => .ok .null
  | .bool b => .ok (.bool b)
  | .int n => .ok (.int n)
  | .float x => .ok (.float x)
  | .str s => .ok (.str s)
  | .arr items => (itemsToJson items).map .arr
  | .obj fields => (fieldsToJson fields).map fun fields => .obj (sortFields fields)
  | .broken why => .error why
  | .unreadable _ => .error .malformed

def itemsToJson : List Reading → Except Stop (List Json)
  | [] => .ok []
  | item :: rest =>
    match item.toJson with
    | .ok value => (itemsToJson rest).map (value :: ·)
    | .error why => .error why

def fieldsToJson : List (String × Reading) → Except Stop (List (String × Json))
  | [] => .ok []
  | (name, value) :: rest =>
    match value.toJson with
    | .ok value => (fieldsToJson rest).map ((name, value) :: ·)
    | .error why => .error why

end

end Reading

mutual

/-- A value in memory, as a reader sees it. -/
def reading : Json → Reading
  | .null => .null
  | .bool b => .bool b
  | .int n => .int n
  | .float x => .float x
  | .str s => .str s
  | .arr items => .arr (readings items)
  | .obj fields => .obj (fieldReadings fields)

def readings : List Json → List Reading
  | [] => []
  | item :: rest => item.reading :: readings rest

def fieldReadings : List (String × Json) → List (String × Reading)
  | [] => []
  | (name, value) :: rest => (name, value.reading) :: fieldReadings rest

end

/-- The value of a text that is JSON from end to end. -/
def parse (s : String) : Except Stop Json :=
  match read s with
  | (r, none) => r.toJson
  | (_, some why) => .error why

end AttributeStore.Json
