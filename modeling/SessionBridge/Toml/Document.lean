import SessionBridge.Toml.Lexeme

/-! A TOML document: a sequence of lines, each of which opens a table, adds a value to the table that
is open, or is blank. A document that says something twice is refused. -/
namespace SessionBridge.Toml

open Text (Reader)

/-! ### Arrays and inline tables -/

def arrayItems (value : Reader Toml) : Nat → Reader (List Toml)
  | 0, _ => none
  | fuel + 1, cs =>
    match skipTrivia false cs with
    | ']' :: rest => some ([], rest)
    | cs => do
      let (v, rest) ← value cs
      match skipTrivia false rest with
      | ']' :: rest => some ([v], rest)
      | ',' :: rest =>
        let (vs, rest) ← arrayItems value fuel rest
        some (v :: vs, rest)
      | _ => none

def keyValue (value : Reader Toml) : Reader (List String × Toml) := fun cs => do
  let (path, rest) ← keyPath cs
  let '=' :: rest := rest | none
  let (v, rest) ← value (skipSpaces rest)
  some ((path, v), skipSpaces rest)

def inlinePairs (value : Reader Toml) : Nat → Reader (List (List String × Toml))
  | 0, _ => none
  | fuel + 1, cs => do
    let (pair, rest) ← keyValue value cs
    match rest with
    | '\x7d' :: rest => some ([pair], rest)
    | ',' :: rest =>
      let (pairs, rest) ← inlinePairs value fuel rest
      some (pair :: pairs, rest)
    | _ => none

def inlineTable (value : Reader Toml) : Reader Toml := fun cs =>
  match skipSpaces cs with
  | '\x7d' :: rest => some (.inline [], rest)
  | cs => do
    let (pairs, rest) ← inlinePairs value cs.length cs
    let entries ← pairs.foldlM (fun es (path, v) => Entries.addPath es path v) []
    some (.inline entries, rest)

/-- A value with at most `depth` arrays and inline tables inside one another. -/
def value : Nat → Reader Toml
  | 0 => scalar
  | depth + 1 => fun cs =>
    match cs with
    | '[' :: rest => (arrayItems (value depth) rest.length rest).map fun (vs, rest) =>
        (.array vs, rest)
    | '\x7b' :: rest => inlineTable (value depth) rest
    | cs => scalar cs

/-! ### Lines -/

structure Document where
  entries : Entries
  openPath : List String

namespace Document

def empty : Document := ⟨[], []⟩

def openTable (d : Document) (path : List String) : Option Document := do
  let key ← path.getLast?
  let entries ← d.entries.through (·.openTable key) path.dropLast
  some ⟨entries, path⟩

def openRow (d : Document) (path : List String) : Option Document := do
  let key ← path.getLast?
  let entries ← d.entries.through (·.openRow key) path.dropLast
  some ⟨entries, path⟩

def add (d : Document) (path : List String) (v : Toml) : Option Document := do
  let entries ← d.entries.through (·.addPath path v) d.openPath
  some { d with entries }

end Document

def line (d : Document) (cs : List Char) : Option (Document × List Char) :=
  match skipSpaces cs with
  | '[' :: '[' :: rest => do
    let (path, rest) ← keyPath rest
    let ']' :: ']' :: rest := rest | none
    some (← d.openRow path, ← endLine? rest)
  | '[' :: rest => do
    let (path, rest) ← keyPath rest
    let ']' :: rest := rest | none
    some (← d.openTable path, ← endLine? rest)
  | cs =>
    match endLine? cs with
    | some rest => some (d, rest)
    | none => do
      let ((path, v), rest) ← keyValue (value (depthLimit - 1)) cs
      some (← d.add path v, ← endLine? rest)

def lines : Nat → Document → List Char → Option Document
  | _, d, [] => some d
  | 0, _, _ => none
  | fuel + 1, d, cs => do
    let (d, rest) ← line d cs
    lines fuel d rest

/-- The top-level entries of a document. A byte order mark in front of it is skipped. -/
def parse (cs : List Char) : Option Entries :=
  let cs := match cs with
    | '\uFEFF' :: rest => rest
    | cs => cs
  (lines cs.length .empty cs).map (·.entries)

end SessionBridge.Toml
