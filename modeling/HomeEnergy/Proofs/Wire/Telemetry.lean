import HomeEnergy.Proofs.Text.Literals
import HomeEnergy.Proofs.Wire.Framing
import HomeEnergy.Wire.Telemetry

/-!
# Telemetry over the line

Net flows are sent as lines of telemetry, each ended by a line feed or by a carriage return and a
line feed.  The bytes arrive in chunks that are cut anywhere, also within a line or a character.
Who makes lines of them, and reads each line, has the flows.

* `Framer.linesOf_encode` — one text at the front of a stream: the line it gives is the text
  without its carriage returns;
* `total?_padded` — blanks around a telemetry line make no difference to its reader;
* `Sent.plain_fits` — a telemetry line with nothing around it is never too long;
* `feedChunks_reads_back` — **every flow that is sent is read back**, whatever the chunks.
-/

namespace HomeEnergy.Wire

open Text

/-! ## Texts as lines of a stream -/

/-- What ends a line that is sent. -/
inductive LineEnd
  | lineFeed
  /-- A carriage return, and then the line feed. -/
  | carriageReturn
  deriving Repr, DecidableEq

/-- The bytes that end a line. -/
def LineEnd.bytes : LineEnd → List UInt8
  | .lineFeed => [0x0A]
  | .carriageReturn => [0x0D, 0x0A]

/-- Before the line feed nothing is left that the framer keeps. -/
theorem LineEnd.bytes_eq (ending : LineEnd) :
    ∃ returns, ending.bytes = returns ++ [0x0A] ∧ 0x0A ∉ returns ∧ Framer.bare returns = [] := by
  cases ending with
  | lineFeed => exact ⟨[], rfl, List.not_mem_nil, rfl⟩
  | carriageReturn => exact ⟨[0x0D], rfl, by decide, by decide⟩

namespace Framer

theorem bare_append (xs ys : List UInt8) : bare (xs ++ ys) = bare xs ++ bare ys :=
  List.filter_append xs ys

theorem bare_encodeChar {c : Char} (h : c ≠ '\r') :
    bare (String.utf8EncodeChar c) = String.utf8EncodeChar c := by
  apply List.filter_eq_self.mpr
  intro b hb
  rw [decide_eq_true_eq]
  rintro rfl
  apply h
  rw [← Char.ofNat_toNat c, Utf8.toNat_of_mem_encodeChar hb (by decide)]
  rfl

/-- The carriage returns of a text are the bytes that are taken out of it. -/
theorem bare_encode (cs : List Char) :
    bare (Utf8.encode cs) = Utf8.encode (cs.filter (· ≠ '\r')) := by
  induction cs with
  | nil => rfl
  | cons c cs ih =>
    rw [Utf8.encode_cons, bare_append, ih]
    by_cases hc : c = '\r'
    · subst hc
      rw [List.filter_cons_of_neg (by decide)]
      rfl
    · rw [List.filter_cons_of_pos (by simpa using hc), Utf8.encode_cons, bare_encodeChar hc]

theorem lineFeed_not_mem_encode {cs : List Char} (h : '\n' ∉ cs) : 0x0A ∉ Utf8.encode cs := by
  intro hmem
  obtain ⟨c, hc, hbyte⟩ := Utf8.exists_of_mem_encode hmem (by decide)
  rw [← Char.ofNat_toNat c, hbyte] at hc
  exact h hc

/-- **A text at the front of a stream.**  If it is no longer than a line may be, the first line of
the stream is the text, without its carriage returns. -/
theorem linesOf_encode {cs : List Char} (hlineFeed : '\n' ∉ cs)
    (hlength : (Utf8.encode cs).length ≤ capacity) (ending : LineEnd) (later : List UInt8) :
    linesOf (Utf8.encode cs ++ ending.bytes ++ later) =
      Utf8.encode (cs.filter (· ≠ '\r')) :: linesOf later := by
  obtain ⟨returns, hbytes, hreturns, hbare⟩ := ending.bytes_eq
  have hopen : 0x0A ∉ Utf8.encode cs ++ returns := by
    rw [List.mem_append, not_or]
    exact ⟨lineFeed_not_mem_encode hlineFeed, hreturns⟩
  have hpiece : bare (Utf8.encode cs ++ returns) = Utf8.encode (cs.filter (· ≠ '\r')) := by
    rw [bare_append, hbare, List.append_nil, bare_encode]
  have hfits : (bare (Utf8.encode cs ++ returns)).length ≤ capacity := by
    rw [hpiece, ← bare_encode]
    exact Nat.le_trans (List.length_filter_le _ _) hlength
  have hstream : Utf8.encode cs ++ ending.bytes ++ later =
      (Utf8.encode cs ++ returns) ++ 0x0A :: later := by
    rw [hbytes]
    simp only [List.append_assoc, List.singleton_append]
  rw [hstream, linesOf, terminated_line hopen, kept_cons, kept_singleton_of_fits hfits, hpiece]
  rfl

end Framer

namespace Telemetry

/-! ## The reader and the blanks around a line -/

/-- The net flow that a received line reports. -/
def reading? (received : Line) : Option Int32 := do
  let text ← Utf8.decode? received
  total? (String.ofList text)

theorem reading?_encode (cs : List Char) :
    reading? (Utf8.encode cs) = total? (String.ofList cs) := by
  rw [reading?, Utf8.decode?_encode]
  rfl

/-- Blanks around a telemetry line make no difference to its reader. -/
theorem total?_padded {before after : List Char} (hbefore : Blank before) (hafter : Blank after)
    (total : Int32) :
    total? (String.ofList (before ++ (line total).toList ++ after)) = some total := by
  rw [← total?_line total, total?, total?, String.toList_ofList, hafter.trim_append_right,
    hbefore.trim_append_left]

/-- What a telemetry line consists of. -/
theorem toList_line (total : Int32) :
    (line total).toList = keyword ++ ' ' :: Decimal.ofInt total.toInt :=
  String.toList_ofList

/-- All of a telemetry line is printed, but for the space in it. -/
theorem printing_or_space {total : Int32} {c : Char} (h : c ∈ (line total).toList) :
    Printing c ∨ c = ' ' := by
  rw [toList_line, List.mem_append, List.mem_cons] at h
  rcases h with hkeyword | hspace | hnumeral
  · left
    have hall : keyword.all (fun c => 0x20 < c.val.toNat ∧ c.val.toNat < 0x7F) = true := by decide
    have hprints : 0x20 < c.val.toNat ∧ c.val.toNat < 0x7F :=
      of_decide_eq_true (List.all_eq_true.mp hall c hkeyword)
    exact hprints
  · exact .inr hspace
  · have hliteral := Decimal.int?_eq_some_iff.mp (Decimal.int?_ofInt total.toInt)
    exact .inl (hliteral.printing c hnumeral)

/-- No telemetry line ends before its end. -/
theorem lineFeed_not_mem_line (total : Int32) : '\n' ∉ (line total).toList := by
  intro hmem
  rcases printing_or_space hmem with hprinting | hspace
  · exact absurd hprinting.1 (by decide)
  · exact absurd hspace (by decide)

theorem carriageReturn_not_mem_line (total : Int32) : '\r' ∉ (line total).toList := by
  intro hmem
  rcases printing_or_space hmem with hprinting | hspace
  · exact absurd hprinting.1 (by decide)
  · exact absurd hspace (by decide)

/-- The keyword, the space, and a sign and ten digits at most. -/
theorem length_line_le (total : Int32) : (line total).toList.length ≤ 23 := by
  have hdigits : (Decimal.ofNat total.toInt.natAbs).length ≤ 10 := by
    apply (Nat.length_toDigits_le_iff (by omega) (by omega)).mpr
    obtain ⟨hge, hlt⟩ := Word.fits_toInt total
    omega
  have hnumeral : (Decimal.ofInt total.toInt).length ≤ 11 := by
    unfold Decimal.ofInt
    split
    · exact Nat.succ_le_succ hdigits
    · exact Nat.le_succ_of_le hdigits
  have hkeyword : keyword.length = 11 := rfl
  rw [toList_line, List.length_append, List.length_cons]
  omega

/-! ## Lines that are sent -/

/-- A telemetry line as it is sent: its flow, what stands before and after the line, and what
ends it. -/
structure Sent where
  total : Int32
  before : List Char := []
  after : List Char := []
  ending : LineEnd := .lineFeed
  deriving Repr, DecidableEq

namespace Sent

/-- The line and what stands around it. -/
def text (sent : Sent) : List Char := sent.before ++ (line sent.total).toList ++ sent.after

def bytes (sent : Sent) : List UInt8 := Utf8.encode sent.text ++ sent.ending.bytes

/-- Only blanks stand around the line, none of them ends it, and the bytes of all this are no
more than a line may have. -/
structure Fits (sent : Sent) : Prop where
  before_blank : Blank sent.before
  after_blank : Blank sent.after
  before_lineFeed : '\n' ∉ sent.before
  after_lineFeed : '\n' ∉ sent.after
  length_le : (Utf8.encode sent.text).length ≤ 64

theorem text_plain (total : Int32) (ending : LineEnd) :
    ({ total, ending } : Sent).text = (line total).toList := by
  rw [text, List.nil_append, List.append_nil]

/-- A telemetry line with nothing around it is never too long. -/
theorem plain_fits (total : Int32) (ending : LineEnd) : ({ total, ending } : Sent).Fits where
  before_blank := nofun
  after_blank := nofun
  before_lineFeed := nofun
  after_lineFeed := nofun
  length_le := by
    have hascii : ∀ c ∈ (line total).toList, c.val.toNat ≤ 127 := by
      intro c hc
      rcases printing_or_space hc with hprinting | rfl
      · exact Nat.le_of_lt hprinting.2
      · decide
    rw [text_plain, Utf8.length_encode hascii]
    exact Nat.le_trans (length_line_le total) (by decide)

variable {sent : Sent}

theorem Fits.lineFeed_not_mem (h : sent.Fits) : '\n' ∉ sent.text := by
  rw [text, List.mem_append, List.mem_append, not_or, not_or]
  exact ⟨⟨h.before_lineFeed, lineFeed_not_mem_line sent.total⟩, h.after_lineFeed⟩

/-- Also without its carriage returns, it is read as its flow. -/
theorem Fits.reading?_eq (h : sent.Fits) :
    reading? (Utf8.encode (sent.text.filter (· ≠ '\r'))) = some sent.total := by
  have hbefore : Blank (sent.before.filter (· ≠ '\r')) :=
    fun c hc => h.before_blank c (List.mem_filter.mp hc).1
  have hafter : Blank (sent.after.filter (· ≠ '\r')) :=
    fun c hc => h.after_blank c (List.mem_filter.mp hc).1
  have hline : (line sent.total).toList.filter (· ≠ '\r') = (line sent.total).toList := by
    apply List.filter_eq_self.mpr
    intro c hc
    rw [decide_eq_true_eq]
    rintro rfl
    exact carriageReturn_not_mem_line sent.total hc
  rw [reading?_encode, text, List.filter_append, List.filter_append, hline,
    total?_padded hbefore hafter]

/-- Lines that are sent one after the other are read one after the other. -/
theorem map_reading?_linesOf {sent : List Sent} (h : ∀ s ∈ sent, s.Fits) :
    (Framer.linesOf (sent.flatMap bytes)).map reading? = sent.map fun s => some s.total := by
  induction sent with
  | nil => rfl
  | cons s later ih =>
    obtain ⟨hs, hlater⟩ := List.forall_mem_cons.mp h
    rw [List.flatMap_cons, bytes, Framer.linesOf_encode hs.lineFeed_not_mem hs.length_le,
      List.map_cons, hs.reading?_eq, ih hlater, List.map_cons]

end Sent

/-- **Every flow that is sent is read back.**  Flows are sent as telemetry lines, each ended in
one way or the other, and the bytes arrive in chunks that may be cut anywhere.  Each of the lines
that are made of them is read as its flow: there is one for each, in order.  So it is also with
lines that have any blanks around them, other than line feeds, if no line has more than 64
bytes with its blanks. -/
theorem feedChunks_reads_back :
    (∀ (flows : List (Int32 × LineEnd)) (chunks : List (List UInt8)),
      chunks.flatten = flows.flatMap (fun (total, ending) =>
        Utf8.encode (line total).toList ++ ending.bytes) →
      (({} : Framer).feedChunks chunks).1.flatten.map reading? =
        flows.map fun (total, _) => some total) ∧
    ∀ (sent : List Sent) (chunks : List (List UInt8)), (∀ s ∈ sent, s.Fits) →
      chunks.flatten = sent.flatMap Sent.bytes →
      (({} : Framer).feedChunks chunks).1.flatten.map reading? =
        sent.map fun s => some s.total := by
  have hpadded (sent : List Sent) (chunks : List (List UInt8)) (hfits : ∀ s ∈ sent, s.Fits)
      (hbytes : chunks.flatten = sent.flatMap Sent.bytes) :
      (({} : Framer).feedChunks chunks).1.flatten.map reading? =
        sent.map fun s => some s.total := by
    rw [(Framer.feedChunks_flatten {} chunks).1, Framer.feed_fresh, hbytes]
    exact Sent.map_reading?_linesOf hfits
  refine ⟨?_, hpadded⟩
  intro flows chunks hbytes
  have hplain := hpadded (flows.map fun (total, ending) => { total, ending }) chunks
  rw [List.flatMap_map, List.map_map] at hplain
  apply hplain
  · intro s hs
    obtain ⟨flow, -, rfl⟩ := List.mem_map.mp hs
    exact Sent.plain_fits flow.1 flow.2
  · simpa only [Sent.bytes, Sent.text_plain] using hbytes

/-- The least flow, behind a blank of three bytes of which the first chunk brings only one. -/
example :
    let before := [[0xE3], [0x80, 0x80] ++ Utf8.encode "powerSample -21474836".toList]
    let after := [Utf8.encode "48\u00A0\r\n".toList]
    (({} : Framer).feedChunks (before ++ after)).1.map (·.map reading?) =
      [[], [], [some (-2147483648)]] := by
  decide +kernel

end Telemetry

end HomeEnergy.Wire
