/-!
# The marquee

A text that scrolls through a window, one character further each time it has been
shown, round and round.

* `length_window` — the window has its width, whatever the text;
* `getElem_window` — column `i` shows the character `i` places after the offset,
  counted round the text.
-/

namespace HomeEnergy.Panel

/-- A scrolling text, and where its window begins. -/
structure Marquee where
  text : List Char
  offset : Nat := 0
  deriving Repr, DecidableEq, Inhabited

namespace Marquee

/-- A text at its beginning. -/
def ofString (text : String) : Marquee := { text := text.toList }

/-- The window of a given width; the text repeats as often as it takes, and an empty
text shows blanks. -/
def window (marquee : Marquee) (width : Nat) : List Char :=
  (List.range width).map fun i =>
    marquee.text.getD ((marquee.offset + i) % marquee.text.length) ' '

/-- Moves the window on by one character; an empty text has nothing to move. -/
def advance (marquee : Marquee) : Marquee :=
  if marquee.text.isEmpty then marquee
  else { marquee with offset := (marquee.offset + 1) % marquee.text.length }

@[simp] theorem length_window (marquee : Marquee) (width : Nat) :
    (marquee.window width).length = width := by
  simp [window]

theorem getElem_window (marquee : Marquee) (width i : Nat)
    (h : i < (marquee.window width).length) :
    (marquee.window width)[i] =
      marquee.text.getD ((marquee.offset + i) % marquee.text.length) ' ' := by
  simp [window]

/-- Advancing changes only where the window begins. -/
@[simp] theorem text_advance (marquee : Marquee) : marquee.advance.text = marquee.text := by
  unfold advance
  split <;> rfl

end Marquee

end HomeEnergy.Panel
