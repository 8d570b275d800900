import HomeEnergy.Error
import HomeEnergy.Wire.Framing

/-!
# The serial link

Two parties share a first-in first-out channel.  The **reader** takes bytes from
their source, makes lines of them and sends each line; it retries an interrupted
read, and ends at the end of the source or at any other failure, which it sends on.
The **poller** takes at most one message at a time and never waits.  The link counts
as closed from the poll that finds the channel empty after the reader has hung up.
-/

namespace HomeEnergy.Wire

/-- What the reader sends: a line, or the failure that ended its source. -/
abbrev Message := Except LinkError Line

/-- The channel between the reader and the poller. -/
structure Channel where
  queue : List Message := []
  /-- The sender is gone: no message will be added. -/
  hungUp : Bool := false
  /-- A poll has found the queue empty with the sender gone. -/
  closed : Bool := false
  deriving Inhabited

namespace Channel

/-- Adds a message at the end. -/
def send (ch : Channel) (msg : Message) : Channel := { ch with queue := ch.queue ++ [msg] }

/-- The sender leaves. -/
def hangUp (ch : Channel) : Channel := { ch with hungUp := true }

/-- Takes the oldest message, if there is one. -/
def poll (ch : Channel) : Except LinkError (Option Line) × Channel :=
  match ch.queue with
  | .ok line :: queue => (.ok (some line), { ch with queue })
  | .error e :: queue => (.error e, { ch with queue })
  | [] => (.ok none, { ch with closed := ch.closed || ch.hungUp })

/-- What a poll says, as the message it took; nothing if it found the queue empty. -/
def received? : Except LinkError (Option Line) → Option Message
  | .ok (some line) => some (.ok line)
  | .ok none => none
  | .error e => some (.error e)

/-- Polls this many times and gives the messages received. -/
def pollTimes : Nat → Channel → List Message × Channel
  | 0, ch => ([], ch)
  | n + 1, ch =>
    let (answer, ch) := ch.poll
    let (rest, ch) := pollTimes n ch
    ((received? answer).toList ++ rest, ch)

/-- Polls until the queue has been found empty. -/
def drain (ch : Channel) : List Message × Channel := pollTimes (ch.queue.length + 1) ch

end Channel

/-- What one read from the source of bytes gives. -/
inductive Read
  /-- A chunk of bytes; the empty chunk is the end of the source. -/
  | bytes (chunk : List UInt8)
  /-- The read was interrupted and is to be repeated. -/
  | interrupted
  /-- The source failed for good. -/
  | failed (error : LinkError)
  deriving Repr, DecidableEq

/-- The reader: the part of a line received so far, the messages made but not yet sent,
and whether its source has ended. -/
structure Reader where
  framer : Framer := {}
  outbox : List Message := []
  ended : Bool := false
  deriving Inhabited

/-- The steps that a read asks of the reader at most: the read itself, and one for each
message made of it. -/
def Read.work : Read → Nat
  | .bytes chunk => chunk.length + 1
  | .interrupted => 1
  | .failed _ => 2

/-- Takes what one read gave. -/
def Reader.take (reader : Reader) : Read → Reader
  | .bytes [] => { reader with ended := true }
  | .bytes chunk =>
    let (lines, framer) := reader.framer.feed chunk
    { reader with framer, outbox := reader.outbox ++ lines.map .ok }
  | .interrupted => reader
  | .failed e => { reader with outbox := reader.outbox ++ [.error e], ended := true }

/-- The whole link: the reads still to come, the reader and the channel. -/
structure Link where
  source : List Read := []
  reader : Reader := {}
  channel : Channel := {}
  deriving Inhabited

namespace Link

/-- One step of the reader: it sends a message it has made, or else hangs up if its source
has ended, or else reads once more. -/
def advance (link : Link) : Link :=
  match link.reader.outbox with
  | msg :: outbox =>
    { link with reader := { link.reader with outbox }, channel := link.channel.send msg }
  | [] =>
    if link.reader.ended then { link with channel := link.channel.hangUp }
    else match link.source with
      | [] => { link with reader := link.reader.take (.bytes []) }
      | read :: source => { link with source, reader := link.reader.take read }

/-- One poll. -/
def poll (link : Link) : Except LinkError (Option Line) × Link :=
  let (answer, channel) := link.channel.poll
  (answer, { link with channel })

/-- A number of steps after which the reader has certainly hung up: one for each message
made, the work of each read, one for the end of the source and one for hanging up. -/
def work (link : Link) : Nat :=
  link.source.foldr (·.work + ·) (link.reader.outbox.length + 2)

/-- The link once the reader has hung up, nothing having been polled meanwhile. -/
def settled (link : Link) : Link := Nat.repeat advance link.work link

/-- A link whose reader has these reads before it. -/
def ofReads (source : List Read) : Link := { source }

end Link

end HomeEnergy.Wire
