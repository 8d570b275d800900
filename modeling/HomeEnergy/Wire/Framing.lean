/-!
# Line framing

Bytes from the serial line become lines.  A line ends at a line feed; carriage
returns are dropped wherever they stand; a line that has more than 64 bytes left is
dropped as a whole, up to and including its line feed.

* `feed_append` — chunks may be cut anywhere: feeding two pieces in turn is feeding
  them as one;
* `feedChunks_flatten` — hence all chunks together give the lines of all their bytes.
-/

namespace HomeEnergy.Wire

/-- A received line, without its terminator. -/
abbrev Line := List UInt8

/-- The part of a line received so far.  While an overlong line passes, nothing is held. -/
structure Framer where
  held : Line := []
  skipping : Bool := false
  deriving Repr, DecidableEq, Inhabited

namespace Framer

/-- The greatest number of bytes in a line. -/
def capacity : Nat := 64

/-- Takes one byte, and gives the line that it completes, if it completes one. -/
def push (f : Framer) (b : UInt8) : Option Line × Framer :=
  if b = 0x0A then
    if f.skipping then (none, { f with skipping := false })
    else (some f.held, { f with held := [] })
  else if b = 0x0D ∨ f.skipping then (none, f)
  else if f.held.length < capacity then (none, { f with held := f.held ++ [b] })
  else (none, { held := [], skipping := true })

/-- Takes a chunk of bytes, and gives the lines that it completes. -/
def feed (f : Framer) : List UInt8 → List Line × Framer
  | [] => ([], f)
  | b :: bs =>
    let (line, f) := f.push b
    let (lines, f) := f.feed bs
    (line.toList ++ lines, f)

/-- Takes chunk after chunk, and gives the lines that each completes. -/
def feedChunks (f : Framer) : List (List UInt8) → List (List Line) × Framer
  | [] => ([], f)
  | chunk :: chunks =>
    let (lines, f) := f.feed chunk
    let (rest, f) := f.feedChunks chunks
    (lines :: rest, f)

/-- Feeding two pieces in turn is feeding them as one. -/
theorem feed_append (f : Framer) (xs ys : List UInt8) :
    f.feed (xs ++ ys) =
      ((f.feed xs).1 ++ ((f.feed xs).2.feed ys).1, ((f.feed xs).2.feed ys).2) := by
  induction xs generalizing f with
  | nil => simp [feed]
  | cons b bs ih => simp [feed, ih]

/-- However a stream is cut into chunks, the lines are those of the whole stream. -/
theorem feedChunks_flatten (f : Framer) (chunks : List (List UInt8)) :
    (f.feedChunks chunks).1.flatten = (f.feed chunks.flatten).1 ∧
      (f.feedChunks chunks).2 = (f.feed chunks.flatten).2 := by
  induction chunks generalizing f with
  | nil => exact ⟨rfl, rfl⟩
  | cons chunk chunks ih =>
    obtain ⟨hlines, hframer⟩ := ih (f.feed chunk).2
    simp [feedChunks, feed_append, hlines, hframer]

end Framer

end HomeEnergy.Wire
