import AttributeStore.Plan.Basic

/-! What the attributes of one view share, gathered while they are compiled one after another. -/
namespace AttributeStore

structure Ledger where
  events : List String := []
  /-- Bindings as cleaned, their collisions not yet resolved. -/
  bindings : List Column.Binding := []
  periods : List String := []

namespace Ledger

/-- Puts a text at its place in an ascending list without repetitions. -/
def insertSorted (s : String) : List String → List String
  | [] => [s]
  | t :: rest =>
    if s < t then s :: t :: rest
    else if s = t then t :: rest
    else t :: insertSorted s rest

/-- Records an event by its address, which is returned. -/
def addEvent (e : Event) (l : Ledger) : Ledger × String :=
  let reference := e.reference
  (if reference ∈ l.events then l else { l with events := l.events ++ [reference] }, reference)

def addPeriod (p : Period) (l : Ledger) : Ledger := { l with periods := insertSorted p.iso l.periods }

/-- The column of a registered path. -/
def column? (path : String) (l : Ledger) : Option String := Column.column? path l.bindings

/-- Registers a path and returns its column; a path that cannot be registered has its cleaned name. -/
def register (path : String) (l : Ledger) : Ledger × String :=
  let name := Column.ofPath path
  let l := { l with bindings := (Column.add path name l.bindings).1 }
  (l, (l.column? path).getD name)

/-- The bindings with their collisions resolved. -/
def resolved (l : Ledger) : List Column.Binding := Column.resolve l.bindings

end Ledger

end AttributeStore
