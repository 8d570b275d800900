import HomeEnergy.Wire.Link

/-!
# Delivery over the serial link

The reader and the poller take their turns in any order.  What the poller has received
by then is told by the reads alone: the lines of the bytes that come before the source
ends or fails, then the failure, if that is how it ended.

* `due_advance`, `due_poll` — what has been received, what waits in the channel, what the
  reader has made and what it has still to read are at every moment **all that was to be
  received, in order**;
* `closed_of_turns` — once the reader has had turns enough, a few polls close the link;
* `drain_settled` — **a link that is drained once its reader has hung up gives everything;**
* `play_uninterrupted`, `play_interrupted` — interrupted reads take turns and do nothing else;
* `play_delivers` — the four of them for every source and every order of turns.
-/

namespace HomeEnergy.Wire

namespace Read

/-- The bytes that come before the source ends or fails. -/
def bytesOf : List Read → List UInt8
  | [] | .bytes [] :: _ | .failed _ :: _ => []
  | .bytes (b :: bs) :: source => b :: bs ++ bytesOf source
  | .interrupted :: source => bytesOf source

/-- The failure with which the source ends, if it does not simply end. -/
def failureOf? : List Read → Option LinkError
  | [] | .bytes [] :: _ => none
  | .bytes (_ :: _) :: source | .interrupted :: source => failureOf? source
  | .failed e :: _ => some e

/-- What a source makes up, given the framer before it: the lines that its bytes
complete, then its failure. -/
def messages (f : Framer) (source : List Read) : List Message :=
  (f.feed (bytesOf source)).1.map .ok ++ (failureOf? source).toList.map .error

/-- A chunk makes up the lines that it completes, before all that comes after it. -/
theorem messages_bytes (f : Framer) (b : UInt8) (bs : List UInt8) (source : List Read) :
    messages f (.bytes (b :: bs) :: source) =
      (f.feed (b :: bs)).1.map .ok ++ messages (f.feed (b :: bs)).2 source := by
  have hbytes : bytesOf (.bytes (b :: bs) :: source) = (b :: bs) ++ bytesOf source := rfl
  have hfailure : failureOf? (.bytes (b :: bs) :: source) = failureOf? source := rfl
  rw [messages, hbytes, hfailure, Framer.feed_append, List.map_append, List.append_assoc,
    messages]

end Read

/-- A byte completes at most one line. -/
theorem Framer.length_feed_le (f : Framer) (bytes : List UInt8) :
    (f.feed bytes).1.length ≤ bytes.length := by
  induction bytes generalizing f with
  | nil => exact Nat.le_refl 0
  | cons b bs ih =>
    have hrest := ih (f.push b).2
    have hline : (f.push b).1.toList.length ≤ 1 := by
      cases (f.push b).1 with
      | none => exact Nat.zero_le 1
      | some line => exact Nat.le_refl 1
    show ((f.push b).1.toList ++ ((f.push b).2.feed bs).1).length ≤ bs.length + 1
    rw [List.length_append]
    omega

/-- Whose turn it is. -/
inductive Party
  | reader
  | poller
  deriving Repr, DecidableEq

namespace Link

/-- The parties take these turns: what the polls among them answer, and the link after
them. -/
def play (link : Link) : List Party → List (Except LinkError (Option Line)) × Link
  | [] => ([], link)
  | .reader :: turns => link.advance.play turns
  | .poller :: turns =>
    let (answer, link) := link.poll
    let (answers, link) := link.play turns
    (answer :: answers, link)

/-- The messages that some polls have received, in order. -/
def received (answers : List (Except LinkError (Option Line))) : List Message :=
  answers.filterMap Channel.received?

/-- What is still to be received: what waits in the channel, what the reader has made, and
what it has not read yet. -/
def due (link : Link) : List Message :=
  link.channel.queue ++ link.reader.outbox ++
    if link.reader.ended then [] else Read.messages link.reader.framer link.source

/-- The link without the reads that are going to be interrupted. -/
def uninterrupted (link : Link) : Link :=
  { link with source := link.source.filter (· ≠ .interrupted) }

/-- Who has hung up has ended and sent all it made, and a closed link is empty. -/
structure Orderly (link : Link) : Prop where
  ended_of_hungUp (h : link.channel.hungUp = true) :
    link.reader.ended = true ∧ link.reader.outbox = []
  empty_of_closed (h : link.channel.closed = true) :
    link.channel.hungUp = true ∧ link.channel.queue = []

@[simp] theorem play_reader (link : Link) (turns : List Party) :
    link.play (.reader :: turns) = link.advance.play turns := rfl

@[simp] theorem play_poller (link : Link) (turns : List Party) :
    link.play (.poller :: turns) =
      (link.poll.1 :: (link.poll.2.play turns).1, (link.poll.2.play turns).2) := rfl

theorem received_cons (answer : Except LinkError (Option Line))
    (answers : List (Except LinkError (Option Line))) :
    received (answer :: answers) = (Channel.received? answer).toList ++ received answers := by
  rw [received, List.filterMap_cons, received]
  cases Channel.received? answer <;> rfl

variable {link : Link}

/-! ## The steps of the reader -/

theorem advance_send {msg : Message} {outbox : List Message}
    (h : link.reader.outbox = msg :: outbox) :
    link.advance = { link with
      reader := { link.reader with outbox }, channel := link.channel.send msg } := by
  rw [advance, h]

theorem advance_hangUp (houtbox : link.reader.outbox = []) (hended : link.reader.ended = true) :
    link.advance = { link with channel := link.channel.hangUp } := by
  rw [advance, houtbox]
  exact if_pos hended

/-- The end of a list of reads is the end of the source. -/
theorem advance_read (houtbox : link.reader.outbox = []) (hended : link.reader.ended = false) :
    link.advance = { link with
      source := link.source.tail, reader := link.reader.take (link.source.headD (.bytes [])) } := by
  obtain ⟨source, reader, channel⟩ := link
  rw [advance, houtbox]
  refine (if_neg (by rw [hended]; exact Bool.false_ne_true)).trans ?_
  cases source <;> rfl

/-! ## The steps of the poller -/

/-- A poll that finds nothing closes the link if the reader has hung up. -/
theorem poll_empty (h : link.channel.queue = []) :
    link.poll = (.ok none, { link with
      channel := { link.channel with closed := link.channel.closed || link.channel.hungUp } }) := by
  obtain ⟨source, reader, queue, hungUp, closed⟩ := link
  obtain rfl : queue = [] := h
  rfl

theorem poll_message {msg : Message} {queue : List Message}
    (h : link.channel.queue = msg :: queue) :
    Channel.received? link.poll.1 = some msg ∧
      link.poll.2 = { link with channel := { link.channel with queue } } := by
  rw [poll, Channel.poll, h]
  cases msg <;> exact ⟨rfl, rfl⟩

/-! ## What is due -/

/-- The reader only moves on what is to be received. -/
theorem due_advance (link : Link) : link.advance.due = link.due := by
  obtain ⟨source, ⟨framer, outbox, ended⟩, channel⟩ := link
  cases outbox with
  | cons msg outbox =>
    rw [advance_send rfl]
    simp [due, Channel.send]
  | nil =>
    cases ended with
    | true => rw [advance_hangUp rfl rfl]; rfl
    | false =>
      rw [advance_read rfl rfl]
      cases source with
      | nil => rfl
      | cons read source =>
        cases read with
        | bytes chunk =>
          cases chunk with
          | nil => rfl
          | cons b bs =>
            simp [due, Reader.take, Read.messages_bytes]
        | interrupted => rfl
        | failed e =>
          simp [due, Reader.take, Read.messages, Read.bytesOf, Read.failureOf?, Framer.feed]

/-- A poll receives what is due first. -/
theorem due_poll (link : Link) :
    link.due = (Channel.received? link.poll.1).toList ++ link.poll.2.due := by
  cases hqueue : link.channel.queue with
  | nil =>
    rw [poll_empty hqueue]
    rfl
  | cons msg queue =>
    obtain ⟨hreceived, hafter⟩ := poll_message hqueue
    rw [hreceived, hafter, due, hqueue]
    rfl

/-- What was due has been received, or is due still. -/
theorem due_play (link : Link) (turns : List Party) :
    link.due = received (link.play turns).1 ++ (link.play turns).2.due := by
  induction turns generalizing link with
  | nil => rfl
  | cons party turns ih =>
    cases party with
    | reader => rw [play_reader, ← due_advance link, ih link.advance]
    | poller =>
      rw [play_poller, received_cons, due_poll link, ih link.poll.2, List.append_assoc]

/-! ## The end of the link -/

theorem orderly_ofReads (source : List Read) : (ofReads source).Orderly :=
  ⟨nofun, nofun⟩

theorem Orderly.advance (h : link.Orderly) : link.advance.Orderly := by
  cases houtbox : link.reader.outbox with
  | cons msg outbox =>
    have hopen : ¬ link.channel.hungUp = true := by
      intro hhungUp
      have hempty := (h.ended_of_hungUp hhungUp).2
      rw [houtbox] at hempty
      cases hempty
    rw [advance_send houtbox]
    exact ⟨fun hhungUp => absurd hhungUp hopen,
      fun hclosed => absurd (h.empty_of_closed hclosed).1 hopen⟩
  | nil =>
    cases hended : link.reader.ended with
    | true =>
      rw [advance_hangUp houtbox hended]
      exact ⟨fun _ => ⟨hended, houtbox⟩, fun hclosed => ⟨rfl, (h.empty_of_closed hclosed).2⟩⟩
    | false =>
      have hopen : ¬ link.channel.hungUp = true := by
        intro hhungUp
        have hdone := (h.ended_of_hungUp hhungUp).1
        rw [hended] at hdone
        cases hdone
      rw [advance_read houtbox hended]
      exact ⟨fun hhungUp => absurd hhungUp hopen,
        fun hclosed => absurd (h.empty_of_closed hclosed).1 hopen⟩

theorem Orderly.poll (h : link.Orderly) : link.poll.2.Orderly := by
  cases hqueue : link.channel.queue with
  | nil =>
    rw [poll_empty hqueue]
    refine ⟨h.ended_of_hungUp, ?_⟩
    intro hclosed
    have hboth : link.channel.closed = true ∨ link.channel.hungUp = true :=
      Bool.or_eq_true_iff.mp hclosed
    exact ⟨hboth.elim (fun hc => (h.empty_of_closed hc).1) id, hqueue⟩
  | cons msg queue =>
    have hopen : ¬ link.channel.closed = true := by
      intro hclosed
      have hempty := (h.empty_of_closed hclosed).2
      rw [hqueue] at hempty
      cases hempty
    rw [(poll_message hqueue).2]
    exact ⟨h.ended_of_hungUp, fun hclosed => absurd hclosed hopen⟩

theorem Orderly.play (h : link.Orderly) (turns : List Party) : (link.play turns).2.Orderly := by
  induction turns generalizing link with
  | nil => exact h
  | cons party turns ih =>
    cases party with
    | reader => exact ih h.advance
    | poller => exact ih h.poll

/-- Nothing is due on a closed link. -/
theorem Orderly.due_eq_nil (h : link.Orderly) (hclosed : link.channel.closed = true) :
    link.due = [] := by
  obtain ⟨hhungUp, hqueue⟩ := h.empty_of_closed hclosed
  obtain ⟨hended, houtbox⟩ := h.ended_of_hungUp hhungUp
  rw [due, hqueue, houtbox, hended]
  rfl

/-- Where nothing is due, polls find nothing. -/
theorem answers_of_due_eq_nil (h : link.due = []) (turns : List Party) :
    ∀ answer ∈ (link.play turns).1, answer = .ok none := by
  have hall := due_play link turns
  rw [h] at hall
  have hnone : received (link.play turns).1 = [] := (List.append_eq_nil_iff.mp hall.symm).1
  intro answer hanswer
  have hreceived := List.filterMap_eq_nil_iff.mp hnone answer hanswer
  match answer, hreceived with
  | .ok none, _ => rfl

/-- What the reader has still to do at most before it has hung up. -/
def toGo (link : Link) : Nat :=
  if link.channel.hungUp then 0
  else if link.reader.ended then link.reader.outbox.length + 1
  else link.work

/-- What the reader has made already adds to the work of the reads. -/
theorem foldr_work (source : List Read) (made : Nat) :
    source.foldr (·.work + ·) made = source.foldr (·.work + ·) 0 + made := by
  induction source with
  | nil => exact (Nat.zero_add made).symm
  | cons read source ih => rw [List.foldr_cons, ih, List.foldr_cons, Nat.add_assoc]

theorem hungUp_of_toGo (h : link.toGo = 0) : link.channel.hungUp = true := by
  unfold toGo at h
  split at h
  case isTrue hhungUp => exact hhungUp
  case isFalse =>
    rw [work, foldr_work] at h
    split at h <;> omega

/-- Who has hung up is done. -/
theorem Orderly.advance_eq (h : link.Orderly) (hhungUp : link.channel.hungUp = true) :
    link.advance = link := by
  obtain ⟨hended, houtbox⟩ := h.ended_of_hungUp hhungUp
  rw [advance_hangUp houtbox hended]
  obtain ⟨source, reader, queue, hungUp, closed⟩ := link
  obtain rfl : hungUp = true := hhungUp
  rfl

/-- Every turn takes the reader nearer to hanging up. -/
theorem toGo_advance (hopen : link.channel.hungUp = false) : link.advance.toGo < link.toGo := by
  obtain ⟨source, ⟨framer, outbox, ended⟩, queue, hungUp, closed⟩ := link
  obtain rfl : hungUp = false := hopen
  cases outbox with
  | cons msg outbox =>
    rw [advance_send rfl]
    cases ended with
    | true => exact Nat.lt_succ_self _
    | false =>
      show source.foldr _ (outbox.length + 2) < source.foldr _ (outbox.length + 1 + 2)
      rw [foldr_work, foldr_work source (outbox.length + 1 + 2)]
      omega
  | nil =>
    cases ended with
    | true => exact Nat.zero_lt_one
    | false =>
      rw [advance_read rfl rfl]
      cases source with
      | nil => exact Nat.one_lt_two
      | cons read source =>
        have hrest : source.foldr (·.work + ·) 2 = _ := foldr_work source 2
        cases read with
        | bytes chunk =>
          cases chunk with
          | nil =>
            show 1 < 1 + source.foldr (·.work + ·) 2
            omega
          | cons b bs =>
            have hlines : (framer.feed (b :: bs)).1.length ≤ bs.length + 1 :=
              framer.length_feed_le (b :: bs)
            show source.foldr (·.work + ·) (((framer.feed (b :: bs)).1.map Except.ok).length + 2) <
              bs.length + 1 + 1 + source.foldr (·.work + ·) 2
            rw [foldr_work, List.length_map]
            omega
        | interrupted =>
          show source.foldr (·.work + ·) 2 < 1 + source.foldr (·.work + ·) 2
          omega
        | failed e =>
          show 2 < 2 + source.foldr (·.work + ·) 2
          omega

theorem toGo_poll (link : Link) : link.poll.2.toGo = link.toGo := by
  cases hqueue : link.channel.queue with
  | nil => rw [poll_empty hqueue]; rfl
  | cons msg queue => rw [(poll_message hqueue).2]; rfl

theorem Orderly.toGo_play (h : link.Orderly) (turns : List Party) :
    (link.play turns).2.toGo ≤ link.toGo - turns.count .reader := by
  induction turns generalizing link with
  | nil => exact Nat.le_refl _
  | cons party turns ih =>
    cases party with
    | reader =>
      have hrest := ih h.advance
      have hfirst : link.advance.toGo ≤ link.toGo - 1 := by
        cases hopen : link.channel.hungUp with
        | true =>
          have hzero : link.advance.toGo = 0 := by
            rw [h.advance_eq hopen]
            exact if_pos hopen
          rw [hzero]
          exact Nat.zero_le _
        | false => exact Nat.le_sub_one_of_lt (toGo_advance hopen)
      rw [play_reader, List.count_cons_self]
      omega
    | poller =>
      have hrest := ih h.poll
      rw [toGo_poll] at hrest
      rw [play_poller, List.count_cons_of_ne (by decide)]
      exact hrest

/-- A link stays closed. -/
theorem Orderly.closed_play (h : link.Orderly) (hclosed : link.channel.closed = true)
    (turns : List Party) : (link.play turns).2.channel.closed = true := by
  induction turns generalizing link with
  | nil => exact hclosed
  | cons party turns ih =>
    obtain ⟨hhungUp, hqueue⟩ := h.empty_of_closed hclosed
    cases party with
    | reader =>
      rw [play_reader, h.advance_eq hhungUp]
      exact ih h hclosed
    | poller =>
      rw [play_poller]
      refine ih h.poll ?_
      rw [poll_empty hqueue]
      exact Bool.or_eq_true_iff.mpr (.inl hclosed)

/-- After the reader has hung up, the polls empty the channel and then close the link. -/
theorem Orderly.closed_of_polls (h : link.Orderly) (hhungUp : link.channel.hungUp = true)
    {turns : List Party} (hpolls : link.channel.queue.length < turns.count .poller) :
    (link.play turns).2.channel.closed = true := by
  induction turns generalizing link with
  | nil => cases hpolls
  | cons party turns ih =>
    cases party with
    | reader =>
      rw [List.count_cons_of_ne (by decide)] at hpolls
      rw [play_reader, h.advance_eq hhungUp]
      exact ih h hhungUp hpolls
    | poller =>
      rw [List.count_cons_self] at hpolls
      rw [play_poller]
      cases hqueue : link.channel.queue with
      | nil =>
        refine h.poll.closed_play ?_ turns
        rw [poll_empty hqueue]
        exact Bool.or_eq_true_iff.mpr (.inr hhungUp)
      | cons msg queue =>
        have hafter := (poll_message hqueue).2
        rw [hqueue, List.length_cons] at hpolls
        refine ih h.poll ?_ ?_
        · rw [hafter]
          exact hhungUp
        · rw [hafter]
          exact Nat.lt_of_succ_lt_succ hpolls

theorem play_append (link : Link) (turns later : List Party) :
    link.play (turns ++ later) =
      ((link.play turns).1 ++ ((link.play turns).2.play later).1,
        ((link.play turns).2.play later).2) := by
  induction turns generalizing link with
  | nil => rfl
  | cons party turns ih =>
    cases party with
    | reader => exact ih link.advance
    | poller => simp [ih link.poll.2]

/-- After turns enough the reader has hung up. -/
theorem hungUp_of_turns {source : List Read} {turns : List Party}
    (hturns : (ofReads source).work ≤ turns.count .reader) :
    ((ofReads source).play turns).2.channel.hungUp = true := by
  have hwork : (ofReads source).toGo = (ofReads source).work := rfl
  have htoGo := (orderly_ofReads source).toGo_play turns
  exact hungUp_of_toGo (by omega)

/-- **A fair order of turns closes the link**: turns enough for the reader to hang up, then
a poll for each message and one more. -/
theorem closed_of_turns {source : List Read} {turns later : List Party}
    (hturns : (ofReads source).work ≤ turns.count .reader)
    (hpolls : (Read.messages {} source).length < later.count .poller) :
    ((ofReads source).play (turns ++ later)).2.channel.closed = true := by
  have horderly := (orderly_ofReads source).play turns
  have hhungUp := hungUp_of_turns hturns
  have hqueue : ((ofReads source).play turns).2.channel.queue.length ≤
      (Read.messages {} source).length := by
    have hdue : Read.messages {} source = _ := due_play (ofReads source) turns
    rw [hdue, due]
    simp only [List.length_append]
    omega
  rw [play_append]
  exact horderly.closed_of_polls hhungUp (by omega)

/-! ## One party after the other -/

/-- The turns of the reader alone. -/
theorem play_readers (link : Link) (n : Nat) :
    link.play (List.replicate n .reader) = ([], Nat.repeat advance n link) := by
  induction n with
  | zero => rfl
  | succ n ih =>
    rw [List.replicate_succ', play_append, ih]
    rfl

/-- The turns of the poller alone. -/
theorem pollTimes_eq (link : Link) (n : Nat) :
    link.channel.pollTimes n =
      (received (link.play (List.replicate n .poller)).1,
        (link.play (List.replicate n .poller)).2.channel) := by
  induction n generalizing link with
  | zero => rfl
  | succ n ih =>
    have hrest := ih link.poll.2
    rw [List.replicate_succ, play_poller, received_cons, Channel.pollTimes]
    change ((Channel.received? link.poll.1).toList ++ (Channel.pollTimes n link.poll.2.channel).1,
      (Channel.pollTimes n link.poll.2.channel).2) = _
    rw [hrest]

/-- **A link that is drained once its reader has hung up gives everything**, in order, and is
closed then. -/
theorem drain_settled (source : List Read) :
    (ofReads source).settled.channel.drain =
      (Read.messages {} source, { queue := [], hungUp := true, closed := true }) := by
  have hsettled : (ofReads source).settled =
      ((ofReads source).play (List.replicate (ofReads source).work .reader)).2 := by
    rw [play_readers]
    rfl
  have horderly : (ofReads source).settled.Orderly := by
    rw [hsettled]
    exact (orderly_ofReads source).play _
  have hhungUp : (ofReads source).settled.channel.hungUp = true := by
    rw [hsettled]
    exact hungUp_of_turns (Nat.le_of_eq List.count_replicate_self.symm)
  have hdue : (ofReads source).settled.due = Read.messages {} source := by
    rw [hsettled]
    have hdue := due_play (ofReads source) (List.replicate (ofReads source).work .reader)
    rw [play_readers] at hdue ⊢
    exact hdue.symm
  generalize (ofReads source).settled = link at horderly hhungUp hdue
  have hpolls : link.channel.queue.length <
      (List.replicate (link.channel.queue.length + 1) Party.poller).count .poller :=
    Nat.lt_of_lt_of_eq (Nat.lt_succ_self _) List.count_replicate_self.symm
  have hclosed := horderly.closed_of_polls hhungUp hpolls
  have hlast := horderly.play (List.replicate (link.channel.queue.length + 1) .poller)
  have hall := due_play link (List.replicate (link.channel.queue.length + 1) .poller)
  rw [hlast.due_eq_nil hclosed, List.append_nil, hdue] at hall
  rw [Channel.drain, pollTimes_eq link, ← hall]
  obtain ⟨hhungUp, hqueue⟩ := hlast.empty_of_closed hclosed
  generalize (link.play _).2.channel = channel at hclosed hhungUp hqueue ⊢
  obtain ⟨queue, hungUp, closed⟩ := channel
  cases hqueue
  cases hhungUp
  cases hclosed
  rfl

/-! ## Interrupted reads -/

/-- A turn of the reader is the same without the reads that are going to be interrupted,
unless it is spent on one of them. -/
theorem advance_uninterrupted (link : Link) :
    link.advance.uninterrupted = link.uninterrupted ∧
        (∃ source, link.source = .interrupted :: source ∧ link.advance = { link with source }) ∨
      link.advance.uninterrupted = link.uninterrupted.advance := by
  obtain ⟨source, ⟨framer, outbox, ended⟩, channel⟩ := link
  cases outbox with
  | cons msg outbox => exact .inr rfl
  | nil =>
    cases ended with
    | true => exact .inr rfl
    | false =>
      cases source with
      | nil => exact .inr rfl
      | cons read source =>
        cases read with
        | bytes chunk => exact .inr (by cases chunk <;> rfl)
        | interrupted => exact .inl ⟨rfl, source, rfl, rfl⟩
        | failed e => exact .inr rfl

theorem poll_uninterrupted (link : Link) :
    link.uninterrupted.poll = (link.poll.1, link.poll.2.uninterrupted) := rfl

/-- What a link does, it can do without its interrupted reads. -/
theorem play_uninterrupted (link : Link) (turns : List Party) :
    ∃ turns', link.uninterrupted.play turns' =
      ((link.play turns).1, (link.play turns).2.uninterrupted) := by
  induction turns generalizing link with
  | nil => exact ⟨[], rfl⟩
  | cons party turns ih =>
    cases party with
    | reader =>
      obtain ⟨turns', hplay⟩ := ih link.advance
      rcases advance_uninterrupted link with ⟨hsame, -⟩ | hstep
      · rw [hsame] at hplay
        exact ⟨turns', hplay⟩
      · rw [hstep] at hplay
        exact ⟨.reader :: turns', hplay⟩
    | poller =>
      obtain ⟨turns', hplay⟩ := ih link.poll.2
      refine ⟨.poller :: turns', ?_⟩
      rw [play_poller, poll_uninterrupted, hplay]
      rfl

/-- A turn of the reader without interrupted reads takes some turns with them. -/
theorem exists_readers (link : Link) :
    ∃ (n : Nat) (later : Link), later.uninterrupted = link.uninterrupted.advance ∧
      ∀ turns, link.play (List.replicate n .reader ++ turns) = later.play turns := by
  induction hsource : link.source generalizing link with
  | nil =>
    rcases advance_uninterrupted link with ⟨-, source, hcons, -⟩ | hstep
    · rw [hsource] at hcons
      cases hcons
    · exact ⟨1, link.advance, hstep, fun turns => rfl⟩
  | cons read rest ih =>
    rcases advance_uninterrupted link with ⟨hsame, source, hcons, hadvance⟩ | hstep
    · obtain ⟨-, rfl⟩ := List.cons.inj (hsource.symm.trans hcons)
      obtain ⟨n, later, hlater, hplay⟩ := ih link.advance (by rw [hadvance])
      rw [hsame] at hlater
      exact ⟨n + 1, later, hlater, hplay⟩
    · exact ⟨1, link.advance, hstep, fun turns => rfl⟩

/-- What a link does without its interrupted reads, it can do with them. -/
theorem play_interrupted (link : Link) (turns : List Party) :
    ∃ turns', link.uninterrupted.play turns =
      ((link.play turns').1, (link.play turns').2.uninterrupted) := by
  induction turns generalizing link with
  | nil => exact ⟨[], rfl⟩
  | cons party turns ih =>
    cases party with
    | reader =>
      obtain ⟨n, later, hlater, hreaders⟩ := exists_readers link
      obtain ⟨turns', hplay⟩ := ih later
      refine ⟨List.replicate n .reader ++ turns', ?_⟩
      rw [play_reader, ← hlater, hplay, hreaders]
    | poller =>
      obtain ⟨turns', hplay⟩ := ih link.poll.2
      refine ⟨.poller :: turns', ?_⟩
      rw [play_poller, poll_uninterrupted, hplay]
      rfl

/-- **The link loses, duplicates and reorders nothing**, whatever the reads and in whatever
order the parties take their turns.  What has been received is the beginning of what the
reads make up, and all of it once the link is closed, after which every poll finds nothing.
If both parties go on taking turns, the link is closed in the end.  And an interrupted read
makes no difference at any place: the same answers, and the same channel, can be had with it
and without it. -/
theorem play_delivers (source : List Read) :
    (∀ turns,
      received ((ofReads source).play turns).1 <+: Read.messages {} source ∧
      (((ofReads source).play turns).2.channel.closed = true →
        received ((ofReads source).play turns).1 = Read.messages {} source ∧
        ∀ later, ((ofReads source).play (turns ++ later)).2.channel.closed = true ∧
          ∀ answer ∈ (((ofReads source).play turns).2.play later).1, answer = .ok none)) ∧
    (∀ turns later, (ofReads source).work ≤ turns.count .reader →
      (Read.messages {} source).length < later.count .poller →
      ((ofReads source).play (turns ++ later)).2.channel.closed = true) ∧
    (∀ answers channel,
      (∃ turns, ((ofReads source).play turns).1 = answers ∧
        ((ofReads source).play turns).2.channel = channel) ↔
      (∃ turns, ((ofReads (source.filter (· ≠ .interrupted))).play turns).1 = answers ∧
        ((ofReads (source.filter (· ≠ .interrupted))).play turns).2.channel = channel)) := by
  refine ⟨?_, fun turns later => closed_of_turns, ?_⟩
  · intro turns
    have hdue : Read.messages {} source = _ := due_play (ofReads source) turns
    have horderly := (orderly_ofReads source).play turns
    refine ⟨⟨_, hdue.symm⟩, ?_⟩
    intro hclosed
    have hnone := horderly.due_eq_nil hclosed
    rw [hnone, List.append_nil] at hdue
    refine ⟨hdue.symm, ?_⟩
    intro later
    refine ⟨?_, answers_of_due_eq_nil hnone later⟩
    rw [play_append]
    exact horderly.closed_play hclosed later
  · intro answers channel
    constructor
    · rintro ⟨turns, rfl, rfl⟩
      obtain ⟨turns', hplay⟩ := play_uninterrupted (ofReads source) turns
      refine ⟨turns', ?_⟩
      change (ofReads (source.filter (· ≠ .interrupted))).play turns' = _ at hplay
      rw [hplay]
      exact ⟨rfl, rfl⟩
    · rintro ⟨turns, rfl, rfl⟩
      obtain ⟨turns', hplay⟩ := play_interrupted (ofReads source) turns
      refine ⟨turns', ?_⟩
      change (ofReads (source.filter (· ≠ .interrupted))).play turns = _ at hplay
      rw [hplay]
      exact ⟨rfl, rfl⟩

end Link

end HomeEnergy.Wire
