/-! TOML values and the tables they stand in. A table remembers how it came to be, because that
decides who may add to it later. -/
namespace SessionBridge

inductive TableOrigin where
  /-- A header names it. -/
  | header
  /-- A longer header runs through it. -/
  | implied
  /-- A dotted key runs through it. -/
  | dotted
  deriving DecidableEq

inductive Toml where
  | string (s : String)
  | integer (i : Int)
  /-- A floating-point number, as it is written. -/
  | float (lexeme : String)
  | boolean (b : Bool)
  /-- A date, a time, or both, as it is written. -/
  | datetime (lexeme : String)
  | array (items : List Toml)
  /-- A table written in one line, which nothing can be added to. -/
  | inline (entries : List (String × Toml))
  | table (origin : TableOrigin) (entries : List (String × Toml))
  /-- The tables under a header in double brackets, in order. -/
  | tables (rows : List (List (String × Toml)))
  deriving Inhabited

namespace Toml

abbrev Entries := List (String × Toml)

def Entries.set (es : Entries) (key : String) (v : Toml) : Entries :=
  match es with
  | [] => [(key, v)]
  | (k, w) :: rest => if k = key then (key, v) :: rest else (k, w) :: Entries.set rest key v

/-- Changes the table at the end of a path that headers may take: it runs through tables of any
origin and through the newest row of several, and makes the tables that are missing. -/
def Entries.through (f : Entries → Option Entries) : List String → Entries → Option Entries
  | [], es => f es
  | key :: path, es =>
    match es.lookup key with
    | none => do
      let inner ← Entries.through f path []
      some (es.set key (.table .implied inner))
    | some (.table origin inner) => do
      let inner ← Entries.through f path inner
      some (es.set key (.table origin inner))
    | some (.tables rows) => do
      let row ← rows.getLast?
      let row ← Entries.through f path row
      some (es.set key (.tables (rows.dropLast ++ [row])))
    | some _ => none

/-- Opens the table of a header. Only one that longer headers have run through may be there. -/
def Entries.openTable (es : Entries) (key : String) : Option Entries :=
  match es.lookup key with
  | none => some (es.set key (.table .header []))
  | some (.table .implied inner) => some (es.set key (.table .header inner))
  | some _ => none

def Entries.openRow (es : Entries) (key : String) : Option Entries :=
  match es.lookup key with
  | none => some (es.set key (.tables [[]]))
  | some (.tables rows) => some (es.set key (.tables (rows ++ [[]])))
  | some _ => none

def Entries.add (es : Entries) (key : String) (v : Toml) : Option Entries :=
  match es.lookup key with
  | none => some (es ++ [(key, v)])
  | some _ => none

/-- Adds a value under a dotted key. Its tables are missing or came from dotted keys; on the way it
may also run through tables that no header names and through newest rows, but it ends in none. -/
def Entries.addDotted (mayEnd : Bool) (key : String) (v : Toml) :
    List String → Entries → Option Entries
  | [], es => if mayEnd then es.add key v else none
  | step :: path, es =>
    match es.lookup step with
    | none => do
      let inner ← Entries.addDotted true key v path []
      some (es.set step (.table .dotted inner))
    | some (.table .header _) => none
    | some (.table origin inner) => do
      let inner ← Entries.addDotted (origin = .dotted) key v path inner
      some (es.set step (.table origin inner))
    | some (.tables rows) => do
      let row ← rows.getLast?
      let row ← Entries.addDotted false key v path row
      some (es.set step (.tables (rows.dropLast ++ [row])))
    | some _ => none

def Entries.addPath (es : Entries) (path : List String) (v : Toml) : Option Entries := do
  let key ← path.getLast?
  Entries.addDotted true key v path.dropLast es

end Toml

end SessionBridge
