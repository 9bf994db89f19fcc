/-!
# TOML documents

A table remembers how it came to be, since that decides whether it may be opened, or extended by
dotted keys, later: `define` and `openTable` give nothing where a document would define something
twice.
-/

namespace AdaptiveShaper
namespace Toml

/-- How a table came to be. -/
inductive Origin where
  /-- By a header of its own, by braces, or as the document itself. -/
  | defined
  /-- As a part of the path of a header. -/
  | implied
  /-- As a part of a dotted key. -/
  | dotted
  deriving DecidableEq

mutual

/-- A value on the right of an equals sign. A date or time is kept as it was written. -/
inductive Value where
  | string (s : String)
  | integer (n : Int)
  | float (x : Float)
  | boolean (b : Bool)
  | moment (text : String)
  | array (items : List Value)
  | table (t : Table)

/-- What a name stands for in a table. -/
inductive Item where
  | value (v : Value)
  | table (t : Table)
  /-- Tables opened one after the other, the newest apart. -/
  | tables (newest : Table) (older : List Table)

/-- Named entries. -/
inductive Table where
  | mk (origin : Origin) (entries : List (String × Item))

end

namespace Table

def origin : Table → Origin
  | mk origin _ => origin

def entries : Table → List (String × Item)
  | mk _ entries => entries

def empty (origin : Origin) : Table := mk origin []

def find? (t : Table) (name : String) : Option Item := t.entries.lookup name

def put (t : Table) (name : String) (item : Item) : Table :=
  mk t.origin ((name, item) :: t.entries.filter fun e => e.1 != name)

/-- Changes the table at the end of a path, creating the tables on the way that are missing. A path
of `dotted` keys does not lead into tables that were defined otherwise. -/
def modify (dotted : Bool) (f : Table → Option Table) : (path : List String) → Table → Option Table
  | [], t => f t
  | name :: path, t =>
    match t.find? name with
    | none => do
      let child ← modify dotted f path (empty (if dotted then .dotted else .implied))
      return t.put name (.table child)
    | some (.value _) => none
    | some (.tables newest older) => do
      let child ← modify dotted f path newest
      return t.put name (.tables child older)
    | some (.table child) =>
      if dotted && child.origin = .defined then none
      else do
        let child ← modify dotted f path child
        return t.put name (.table child)

/-- Gives a new name a value. Behind a dotted key comes a table made by dotted keys. -/
def add (name : String) (v : Value) (isDotted : Bool) (t : Table) : Option Table :=
  if decide (t.origin = .dotted) != isDotted || (t.find? name).isSome then none
  else some (t.put name (.value v))

def define (key : List String) (v : Value) (t : Table) : Option Table :=
  match key.getLast? with
  | none => none
  | some name => modify true (add name v (1 < key.length)) key.dropLast t

/-- Makes a named table a defined one, unless it is already. -/
def claim (name : String) (t : Table) : Option Table :=
  match t.find? name with
  | none => some (t.put name (.table (empty .defined)))
  | some (.table child) =>
    if child.origin = .implied then some (t.put name (.table (mk .defined child.entries))) else none
  | _ => none

def append (name : String) (t : Table) : Option Table :=
  match t.find? name with
  | none => some (t.put name (.tables (empty .defined) []))
  | some (.tables newest older) =>
    some (t.put name (.tables (empty .defined) (newest :: older)))
  | _ => none

def openTable (path : List String) (t : Table) : Option Table :=
  match path.getLast? with
  | none => none
  | some name => modify false (claim name) path.dropLast t

/-- Opens a new table at the end of a path to a list of tables. -/
def openElement (path : List String) (t : Table) : Option Table :=
  match path.getLast? with
  | none => none
  | some name => modify false (append name) path.dropLast t

end Table
end Toml
end AdaptiveShaper
