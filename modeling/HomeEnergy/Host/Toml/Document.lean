import HomeEnergy.Config.Scenario
import HomeEnergy.Host.Toml.Number
import HomeEnergy.Host.Toml.Table

/-!
# TOML documents

A document is read line by line into one table.  The table under the header last seen
is kept apart and takes its place when the next header or the end comes; a table that
was only implied by headers inside it and now gets its own header moves to that place.

This reader stands where a library of TOML 1.0 would stand.  The rest takes whatever reader of
scenarios it is given, and nothing is proved of this one.
-/

namespace HomeEnergy.Toml

/-- A value that holds no others. -/
def scalar : Scan Value := fun cs =>
  match cs with
  | '"' :: _ | '\'' :: _ => (anyText cs).map fun (t, cs) => (.text (String.ofList t), cs)
  | 't' :: 'r' :: 'u' :: 'e' :: cs => some (.boolean true, cs)
  | 'f' :: 'a' :: 'l' :: 's' :: 'e' :: cs => some (.boolean false, cs)
  | _ =>
    match moment cs with
    | some ((), cs) => some (.moment, cs)
    | none =>
      match real cs with
      | some (x, cs) => some (.real x, cs)
      | none => (integer cs).map fun (n, cs) => (.integer n, cs)

/-- The rest of a list: items with commas between them, perhaps one at the end, and
blanks, comments and line endings anywhere. -/
def listBody (item : Scan Value) : (fuel : Nat) → Scan (List Value)
  | 0, _ => none
  | fuel + 1, cs =>
    match skipLines (cs.length + 1) cs with
    | ']' :: cs => some ([], cs)
    | cs => do
      let (v, cs) ← item cs
      match skipLines (cs.length + 1) cs with
      | ',' :: cs =>
        let (vs, cs) ← listBody item fuel cs
        some (v :: vs, cs)
      | ']' :: cs => some ([v], cs)
      | _ => none

/-- A key, an equals sign and a value. -/
def keyValue (item : Scan Value) : Scan ((List String × String) × Value) := fun cs => do
  let (key, cs) ← keyPath cs
  let (v, cs) ← item (skipBlanks (← expect '=' cs))
  some ((key, v), cs)

/-- The rest of a table in braces, after the entries read so far. -/
def braceBody (item : Scan Value) : (fuel : Nat) → Entries → Scan Entries
  | 0, _, _ => none
  | fuel + 1, es, cs => do
    let (((path, key), v), cs) ← keyValue item cs
    let es ← es.addDotted path key v
    match skipBlanks cs with
    | ',' :: cs => braceBody item fuel es cs
    | '}' :: cs => some (es, cs)
    | _ => none

/-- A value whose nesting is no deeper than this. -/
def value : (depth : Nat) → Scan Value
  | 0, cs => scalar cs
  | depth + 1, cs =>
    match cs with
    | '[' :: cs => (listBody (value depth) (cs.length + 1) cs).map fun (vs, cs) => (.list vs, cs)
    | '{' :: cs =>
      match skipBlanks cs with
      | '}' :: cs => some (.table .inline [], cs)
      | _ =>
        (braceBody (value depth) (cs.length + 1) [] cs).map fun (es, cs) =>
          (.table .inline es, cs)
    | _ => scalar cs

/-- A document being read: all closed tables, and the open one with its place. -/
structure Draft where
  root : Entries := []
  openTable : Entries := []
  /-- The path and the name of the open table; none before the first header. -/
  place : Option (List String × String) := none
  /-- The open table was opened by double brackets. -/
  repeated : Bool := false

namespace Draft

/-- Puts the open table in its place: the whole document. -/
def close (d : Draft) : Option Entries :=
  match d.place with
  | none => some d.openTable
  | some (path, key) =>
    let edit (_ : Form) (es : Entries) : Option (Entries × Unit) :=
      match es.get? key, d.repeated with
      | none, false => some (es.put key (.table .header d.openTable), ())
      | none, true => some (es.put key (.tables [d.openTable]), ())
      | some (.tables elements), true =>
        some (es.put key (.tables (elements ++ [d.openTable])), ())
      | _, _ => none
    (Entries.editAt .implied edit path .header d.root).map (·.1)

/-- Opens the table of a header.  It must be new, or have been implied by headers. -/
def openHeader (d : Draft) (path : List String) (key : String) : Option Draft := do
  let edit (_ : Form) (es : Entries) : Option (Entries × Entries) :=
    match es.get? key with
    | none => some (es, [])
    | some (.table .implied inner) => some (es.erase key, inner)
    | some _ => none
  let (root, inner) ← Entries.editAt .implied edit path .header (← d.close)
  some { root, openTable := inner, place := some (path, key) }

/-- Opens one more table of a double-bracketed header. -/
def openRepeated (d : Draft) (path : List String) (key : String) : Option Draft := do
  let edit (_ : Form) (es : Entries) : Option (Entries × Unit) :=
    match es.get? key with
    | none => some (es.put key (.tables []), ())
    | some (.tables _) => some (es, ())
    | some _ => none
  let (root, _) ← Entries.editAt .implied edit path .header (← d.close)
  some { root, place := some (path, key), repeated := true }

/-- Adds an entry to the open table. -/
def add (d : Draft) (path : List String) (key : String) (v : Value) : Option Draft :=
  return { d with openTable := ← d.openTable.addDotted path key v }

/-- Reads the remaining lines; `fuel` bounds their number. -/
def readLines : (fuel : Nat) → Draft → List Char → Option Draft
  | 0, _, _ => none
  | fuel + 1, d, cs =>
    match skipBlanks cs with
    | [] => some d
    | '[' :: '[' :: cs => do
      let ((path, key), cs) ← keyPath cs
      let cs ← endLine? (← expect ']' (← expect ']' cs))
      readLines fuel (← d.openRepeated path key) cs
    | '[' :: cs => do
      let ((path, key), cs) ← keyPath cs
      let cs ← endLine? (← expect ']' cs)
      readLines fuel (← d.openHeader path key) cs
    | c :: cs =>
      if c = '#' ∨ c = '\n' ∨ c = '\r' then do
        readLines fuel d (← endLine? (c :: cs))
      else do
        let (((path, key), v), cs) ← keyValue (value depthLimit) (c :: cs)
        let cs ← endLine? cs
        readLines fuel (← d.add path key v) cs

end Draft

/-- Reads a document; `none` if it is malformed.  A byte order mark before it is
skipped. -/
def parse (text : String) : Option Entries := do
  let cs := match text.toList with
    | '\uFEFF' :: cs => cs
    | cs => cs
  (← Draft.readLines (cs.length + 1) {} cs).close

end HomeEnergy.Toml

/-- Reads a scenario. -/
def HomeEnergy.Config.ofToml (source : String) : Except ScenarioError Config :=
  ofDocument (Toml.parse source)
