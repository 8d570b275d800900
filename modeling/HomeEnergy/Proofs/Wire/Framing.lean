import HomeEnergy.Wire.Framing

/-!
# The lines of a stream

The framer works byte by byte on a bounded buffer.  Here the lines of a stream are
said as a whole: the stream is cut at its line feeds, what no line feed ends is left
out, carriage returns are taken out of each piece, and the pieces that are not too long
are kept.

* `feed_ofPartial` — the framer on any stream: what it holds is told by the bytes since
  the last line feed alone, and the lines it gives are those of the stream;
* `feedChunks_eq_linesOf` — hence, **however a stream is cut into chunks**, the framer
  gives the lines of the stream, each from the chunk in which its line feed stands.
-/

namespace HomeEnergy.Wire.Framer

/-- The pieces of a stream that a line feed ends. -/
def terminated (bytes : List UInt8) : List (List UInt8) := (bytes.splitOn 0x0A).dropLast

/-- What comes after the last line feed. -/
def remainder (bytes : List UInt8) : List UInt8 := (bytes.splitOn 0x0A).getLastD []

/-- A piece without its carriage returns. -/
def bare (piece : List UInt8) : Line := piece.filter (· ≠ 0x0D)

/-- The lines that are kept of some pieces. -/
def kept (pieces : List (List UInt8)) : List Line :=
  (pieces.map bare).filter (·.length ≤ capacity)

/-- The lines of a stream. -/
def linesOf (bytes : List UInt8) : List Line := kept (terminated bytes)

/-- The pieces that end in a chunk after some other bytes: one for each of its line feeds. -/
def endedIn (before chunk : List UInt8) : List (List UInt8) :=
  (terminated (before ++ chunk)).drop (before.count 0x0A)

/-- The framer after the bytes of a piece that has not ended yet. -/
def ofPartial (piece : List UInt8) : Framer :=
  if (bare piece).length ≤ capacity then { held := bare piece } else { skipping := true }

variable {piece : List UInt8}

theorem terminated_open (h : 0x0A ∉ piece) : terminated piece = [] := by
  rw [terminated, List.splitOn_eq_singleton h]
  rfl

theorem remainder_open (h : 0x0A ∉ piece) : remainder piece = piece := by
  rw [remainder, List.splitOn_eq_singleton h]
  rfl

theorem terminated_line (h : 0x0A ∉ piece) (bytes : List UInt8) :
    terminated (piece ++ 0x0A :: bytes) = piece :: terminated bytes := by
  rw [terminated, List.splitOn_append_cons_self_of_not_mem h,
    List.dropLast_cons_of_ne_nil (List.splitOn_ne_nil _ _)]
  rfl

theorem remainder_line (h : 0x0A ∉ piece) (bytes : List UInt8) :
    remainder (piece ++ 0x0A :: bytes) = remainder bytes := by
  have hne := List.splitOn_ne_nil (0x0A : UInt8) bytes
  rw [remainder, List.splitOn_append_cons_self_of_not_mem h]
  simp [remainder, List.getLastD_eq_getLast?, List.getLast?_cons, List.getLast?_eq_some_getLast hne]

/-- The pieces of two streams in turn: those of the first, then those that the second
ends, the first of them begun in the first stream. -/
theorem terminated_append (h : 0x0A ∉ piece) (xs ys : List UInt8) :
    terminated (piece ++ xs ++ ys) =
      terminated (piece ++ xs) ++ terminated (remainder (piece ++ xs) ++ ys) := by
  induction xs generalizing piece with
  | nil => simp [terminated_open h, remainder_open h]
  | cons b bs ih =>
    by_cases hb : b = 0x0A
    · subst hb
      have hrest := @ih [] List.not_mem_nil
      simp only [List.nil_append] at hrest
      rw [terminated_line h, remainder_line h, List.append_assoc, List.cons_append,
        terminated_line h, hrest, List.cons_append]
    · have hopen : 0x0A ∉ piece ++ [b] := by simp [h, Ne.symm hb]
      simpa using ih hopen

theorem length_terminated (h : 0x0A ∉ piece) (xs : List UInt8) :
    (terminated (piece ++ xs)).length = xs.count 0x0A := by
  induction xs generalizing piece with
  | nil => simp [terminated_open h]
  | cons b bs ih =>
    by_cases hb : b = 0x0A
    · subst hb
      have hrest := @ih [] List.not_mem_nil
      simp only [List.nil_append] at hrest
      rw [terminated_line h, List.length_cons, hrest, List.count_cons_self]
    · have hopen : 0x0A ∉ piece ++ [b] := by simp [h, Ne.symm hb]
      rw [List.count_cons_of_ne hb, ← ih hopen]
      simp

/-- What ends in a chunk is what the unfinished piece before it and the chunk make up. -/
theorem endedIn_eq (before chunk : List UInt8) :
    endedIn before chunk = terminated (remainder before ++ chunk) := by
  have happend := @terminated_append [] List.not_mem_nil before chunk
  have hlength := @length_terminated [] List.not_mem_nil before
  simp only [List.nil_append] at happend hlength
  rw [endedIn, happend, ← hlength, List.drop_left]

/-- The remainder holds no line feed. -/
theorem not_mem_remainder (h : 0x0A ∉ piece) (xs : List UInt8) :
    0x0A ∉ remainder (piece ++ xs) := by
  induction xs generalizing piece with
  | nil => simpa [remainder_open h] using h
  | cons b bs ih =>
    by_cases hb : b = 0x0A
    · subst hb
      rw [remainder_line h]
      exact @ih [] List.not_mem_nil
    · have hopen : 0x0A ∉ piece ++ [b] := by simp [h, Ne.symm hb]
      simpa using ih hopen

theorem kept_singleton_of_fits (h : (bare piece).length ≤ capacity) :
    kept [piece] = [bare piece] := by
  simp [kept, h]

theorem kept_singleton_of_long (h : ¬ (bare piece).length ≤ capacity) : kept [piece] = [] := by
  simp [kept, h]

theorem kept_cons (piece : List UInt8) (pieces : List (List UInt8)) :
    kept (piece :: pieces) = kept [piece] ++ kept pieces := by
  by_cases hlen : (bare piece).length ≤ capacity <;> simp [kept, hlen]

theorem ofPartial_of_fits (h : (bare piece).length ≤ capacity) :
    ofPartial piece = { held := bare piece } := if_pos h

theorem ofPartial_of_long (h : ¬ (bare piece).length ≤ capacity) :
    ofPartial piece = { skipping := true } := if_neg h

/-- A line feed ends the piece: the framer gives it if it is not too long, and starts
afresh. -/
theorem push_lineFeed (piece : List UInt8) :
    ∃ line, (ofPartial piece).push 0x0A = (line, ofPartial []) ∧ line.toList = kept [piece] := by
  by_cases hlen : (bare piece).length ≤ capacity
  · refine ⟨some (bare piece), ?_, (kept_singleton_of_fits hlen).symm⟩
    rw [ofPartial_of_fits hlen]
    rfl
  · refine ⟨none, ?_, (kept_singleton_of_long hlen).symm⟩
    rw [ofPartial_of_long hlen]
    rfl

/-- Any other byte belongs to the piece. -/
theorem push_other {b : UInt8} (hb : b ≠ 0x0A) (piece : List UInt8) :
    (ofPartial piece).push b = (none, ofPartial (piece ++ [b])) := by
  by_cases hcr : b = 0x0D
  · have hbare : bare (piece ++ [b]) = bare piece := by simp [bare, hcr]
    rw [push, if_neg hb, if_pos (Or.inl hcr), ofPartial, ofPartial, hbare]
  · have hbare : bare (piece ++ [b]) = bare piece ++ [b] := by simp [bare, hcr]
    have hgrown : (bare (piece ++ [b])).length = (bare piece).length + 1 := by simp [hbare]
    by_cases hlen : (bare piece).length ≤ capacity
    · rw [ofPartial_of_fits hlen]
      by_cases hroom : (bare piece).length < capacity
      · rw [ofPartial_of_fits (by omega), hbare]
        simp [push, hb, hcr, hroom]
      · rw [ofPartial_of_long (by omega)]
        simp [push, hb, hcr, hroom]
    · rw [ofPartial_of_long hlen, ofPartial_of_long (by omega)]
      simp [push, hb]

/-- **The framer on any stream.**  The invariant is `ofPartial`: the state is told by
the bytes since the last line feed. -/
theorem feed_ofPartial (h : 0x0A ∉ piece) (bytes : List UInt8) :
    (ofPartial piece).feed bytes =
      (linesOf (piece ++ bytes), ofPartial (remainder (piece ++ bytes))) := by
  induction bytes generalizing piece with
  | nil => simp [feed, linesOf, kept, terminated_open h, remainder_open h]
  | cons b bs ih =>
    by_cases hb : b = 0x0A
    · subst hb
      obtain ⟨line, hpush, hline⟩ := push_lineFeed piece
      have hrest := @ih [] List.not_mem_nil
      simp only [List.nil_append] at hrest
      simp only [feed, hpush, hrest, hline, linesOf, terminated_line h, remainder_line h]
      rw [← kept_cons]
    · have hopen : 0x0A ∉ piece ++ [b] := by simp [h, Ne.symm hb]
      have hrest := ih hopen
      rw [List.append_assoc, List.singleton_append] at hrest
      simp [feed, push_other hb, hrest]

/-- A fresh framer has nothing before its stream. -/
theorem feed_fresh (bytes : List UInt8) :
    ({} : Framer).feed bytes = (linesOf bytes, ofPartial (remainder bytes)) :=
  @feed_ofPartial [] List.not_mem_nil bytes

/-- What a chunk gives depends on the chunks before it only through their bytes. -/
theorem getElem?_feedChunks (f : Framer) (chunks : List (List UInt8)) (i : Nat) :
    (f.feedChunks chunks).1[i]? =
      chunks[i]?.map fun chunk => ((f.feed (chunks.take i).flatten).2.feed chunk).1 := by
  induction chunks generalizing f i with
  | nil => simp [feedChunks]
  | cons chunk chunks ih =>
    cases i with
    | zero => simp [feedChunks, feed]
    | succ i => simp [feedChunks, ih, feed_append]

/-- **Framing is cutting at line feeds.**  All chunks together give the lines of the
stream; and each gives, whatever came before it, the kept ones of the pieces that end in
it. -/
theorem feedChunks_eq_linesOf (chunks : List (List UInt8)) :
    (({} : Framer).feedChunks chunks).1.flatten = linesOf chunks.flatten ∧
      ∀ i, (({} : Framer).feedChunks chunks).1[i]? =
        chunks[i]?.map fun chunk => kept (endedIn (chunks.take i).flatten chunk) := by
  constructor
  · rw [(feedChunks_flatten {} chunks).1, feed_fresh]
  · intro i
    have hopen (before : List UInt8) : 0x0A ∉ remainder before :=
      @not_mem_remainder [] List.not_mem_nil before
    rw [getElem?_feedChunks]
    congr 1
    funext chunk
    rw [feed_fresh, feed_ofPartial (hopen _), linesOf, endedIn_eq]

end HomeEnergy.Wire.Framer
