/-!
# Scanning TOML text: blanks, comments, keys' characters and strings

Each scanner takes something from the front of a text and gives it with the rest;
`none` means that the text is malformed.
-/

namespace HomeEnergy.Toml

/-- Takes something from the front of a text. -/
abbrev Scan (α : Type) := List Char → Option (α × List Char)

/-- Takes one given character away. -/
def expect (c : Char) : List Char → Option (List Char)
  | d :: cs => if d = c then some cs else none
  | [] => none

/-- Skips spaces and tabs. -/
def skipBlanks (cs : List Char) : List Char := cs.dropWhile fun c => c == ' ' || c == '\t'

/-- Skips one line ending. -/
def newline? : List Char → Option (List Char)
  | '\n' :: cs => some cs
  | '\r' :: '\n' :: cs => some cs
  | _ => none

/-- A character that may stand in text: a tab, or anything but control characters. -/
def isPlain (c : Char) : Bool := c == '\t' || (0x20 ≤ c.val && c.val != 0x7F)

/-- Skips a comment, if one begins here. -/
def skipComment : List Char → List Char
  | '#' :: cs => cs.dropWhile isPlain
  | cs => cs

/-- Skips to the next line: blanks and a comment may come before it. -/
def endLine? (cs : List Char) : Option (List Char) :=
  match skipComment (skipBlanks cs) with
  | [] => some []
  | rest => newline? rest

/-- Skips blanks and line endings; `fuel` bounds the number of lines. -/
def skipGap : (fuel : Nat) → List Char → List Char
  | 0, cs => cs
  | fuel + 1, cs =>
    match newline? (skipBlanks cs) with
    | some rest => skipGap fuel rest
    | none => skipBlanks cs

/-- Skips blanks, comments and line endings; `fuel` bounds the number of lines. -/
def skipLines : (fuel : Nat) → List Char → List Char
  | 0, cs => cs
  | fuel + 1, cs =>
    let cs := skipBlanks cs
    match newline? (skipComment cs) with
    | some rest => skipLines fuel rest
    | none => cs

/-- The value of a hexadecimal digit. -/
def hexValue? (c : Char) : Option Nat :=
  if '0' ≤ c ∧ c ≤ '9' then some (c.toNat - '0'.toNat)
  else if 'a' ≤ c ∧ c ≤ 'f' then some (c.toNat - 'a'.toNat + 10)
  else if 'A' ≤ c ∧ c ≤ 'F' then some (c.toNat - 'A'.toNat + 10)
  else none

/-- The character whose number has this many hexadecimal digits at the front. -/
def codePoint (digits : Nat) : Scan Char := fun cs => do
  let ds ← (cs.take digits).mapM hexValue?
  let n := ds.foldl (fun n d => 16 * n + d) 0
  if ds.length = digits ∧ n.isValidChar then some (Char.ofNat n, cs.drop digits) else none

/-- What stands behind a backslash. -/
def escape : Scan Char
  | 'b' :: cs => some ('\x08', cs)
  | 't' :: cs => some ('\t', cs)
  | 'n' :: cs => some ('\n', cs)
  | 'f' :: cs => some ('\x0C', cs)
  | 'r' :: cs => some ('\r', cs)
  | '"' :: cs => some ('"', cs)
  | '\\' :: cs => some ('\\', cs)
  | 'u' :: cs => codePoint 4 cs
  | 'U' :: cs => codePoint 8 cs
  | _ => none

/-- The rest of a string on one line, up to its quote. -/
def shortBody (quote : Char) (escapes : Bool) : (fuel : Nat) → Scan (List Char)
  | 0, _ => none
  | _, [] => none
  | fuel + 1, c :: cs =>
    if c = quote then some ([], cs)
    else if c = '\\' ∧ escapes then do
      let (d, cs) ← escape cs
      let (text, cs) ← shortBody quote escapes fuel cs
      some (d :: text, cs)
    else if isPlain c then do
      let (text, cs) ← shortBody quote escapes fuel cs
      some (c :: text, cs)
    else none

/-- The rest of a string over several lines, up to its three quotes.  One or two quotes
are text, also right before the three that end the string.  Every line ending is a line
feed.  A backslash at the end of a line takes all blanks and line endings after it away. -/
def longBody (quote : Char) (escapes : Bool) : (fuel : Nat) → Scan (List Char)
  | 0, _ => none
  | _, [] => none
  | fuel + 1, c :: cs =>
    if c = quote then
      let others := (cs.takeWhile (· == quote)).length
      if others < 2 then do
        let (text, cs) ← longBody quote escapes fuel cs
        some (c :: text, cs)
      else if others < 5 then some (List.replicate (others - 2) quote, cs.drop others)
      else none
    else if c = '\\' ∧ escapes then
      match newline? (skipBlanks cs) with
      | some rest => longBody quote escapes fuel (skipGap (rest.length + 1) rest)
      | none => do
        let (d, cs) ← escape cs
        let (text, cs) ← longBody quote escapes fuel cs
        some (d :: text, cs)
    else
      match newline? (c :: cs) with
      | some rest => do
        let (text, cs) ← longBody quote escapes fuel rest
        some ('\n' :: text, cs)
      | none =>
        if isPlain c then do
          let (text, cs) ← longBody quote escapes fuel cs
          some (c :: text, cs)
        else none

/-- A string on one line, in double or single quotes. -/
def shortText : Scan (List Char)
  | '"' :: cs => shortBody '"' true (cs.length + 1) cs
  | '\'' :: cs => shortBody '\'' false (cs.length + 1) cs
  | _ => none

/-- Any string.  A line ending right after three opening quotes is no text. -/
def anyText : Scan (List Char)
  | '"' :: '"' :: '"' :: cs =>
    let cs := (newline? cs).getD cs
    longBody '"' true (cs.length + 1) cs
  | '\'' :: '\'' :: '\'' :: cs =>
    let cs := (newline? cs).getD cs
    longBody '\'' false (cs.length + 1) cs
  | cs => shortText cs

/-- A character of a key without quotes. -/
def isBare (c : Char) : Bool := c.isAlphanum || c == '_' || c == '-'

/-- A key without dots. -/
def simpleKey (cs : List Char) : Option (List Char × List Char) :=
  match cs with
  | '"' :: _ | '\'' :: _ => shortText cs
  | _ =>
    let key := cs.takeWhile isBare
    if key.isEmpty then none else some (key, cs.drop key.length)

/-- A dotted key, with blanks around it and around its dots; `fuel` bounds the number
of its parts. -/
def dottedKey : (fuel : Nat) → Scan (List String)
  | 0, _ => none
  | fuel + 1, cs => do
    let (key, cs) ← simpleKey (skipBlanks cs)
    match skipBlanks cs with
    | '.' :: cs =>
      let (keys, cs) ← dottedKey fuel cs
      some (String.ofList key :: keys, cs)
    | cs => some ([String.ofList key], cs)

/-- How deep values may be nested in one another, and how many parts a key may have. -/
def depthLimit : Nat := 79

/-- A key as the path to its table and its last part. -/
def keyPath : Scan (List String × String) := fun cs => do
  let (keys, cs) ← dottedKey depthLimit cs
  match keys.reverse with
  | last :: path => some ((path.reverse, last), cs)
  | [] => none

end HomeEnergy.Toml
