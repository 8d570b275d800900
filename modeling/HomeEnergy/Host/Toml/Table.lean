import HomeEnergy.Config.Document

/-!
# TOML tables

How the tables of a document grow while its text is read.  Keys and headers may add to a table
that they find there, or may not, depending on how it came to be.
-/

namespace HomeEnergy.Toml

namespace Entries

/-- The value of a key. -/
def get? (es : Entries) (key : String) : Option Value := List.lookup key es

/-- Gives a key a value: in its place if it has one, otherwise at the end. -/
def put (es : Entries) (key : String) (v : Value) : Entries :=
  if (es.get? key).isSome then es.map fun e => if e.1 = key then (key, v) else e
  else es ++ [(key, v)]

/-- Takes a key away. -/
def erase (es : Entries) (key : String) : Entries := es.filter fun e => e.1 ≠ key

/-- Edits the table at the end of a path.  Tables missing on the way are made in the
given form.  A value that is no table ends the way; so does, for a dotted key, a table
that has a header of its own.  Of tables opened by double brackets the last is meant. -/
def editAt {α : Type} (making : Form) (edit : Form → Entries → Option (Entries × α)) :
    List String → Form → Entries → Option (Entries × α)
  | [], form, es => edit form es
  | key :: path, _, es =>
    match es.get? key with
    | none => do
      let (inner, a) ← editAt making edit path making []
      some (es.put key (.table making inner), a)
    | some (.table form inner) =>
      if form = .inline ∨ (making = .dotted ∧ form = .header) then none
      else do
        let (inner, a) ← editAt making edit path form inner
        some (es.put key (.table form inner), a)
    | some (.tables elements) =>
      match elements.reverse with
      | [] => none
      | last :: earlier => do
        let (last, a) ← editAt making edit path .header last
        some (es.put key (.tables (last :: earlier).reverse), a)
    | some _ => none

/-- Adds a value under a dotted key.  The key must be new, and a table on the way must
have been made by dotted keys as well. -/
def addDotted (es : Entries) (path : List String) (key : String) (v : Value) : Option Entries :=
  let edit (form : Form) (inner : Entries) : Option (Entries × Unit) :=
    if (path ≠ [] ∧ form ≠ .dotted) ∨ (inner.get? key).isSome then none
    else some (inner.put key v, ())
  (editAt .dotted edit path .header es).map (·.1)

end Entries

end HomeEnergy.Toml
