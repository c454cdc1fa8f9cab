import LogFanout.Calendar.Instant
import LogFanout.Level
import LogFanout.Line.Buffer

/-!
# Rendering a line

A line reads `tag/L [date time.micros] message`. The microseconds are a plain number, so 42 of them
show as `.42`. A line is cut to the capacity and ends in one newline.
-/

namespace LogFanout

/-- What a line is made of. -/
structure Message where
  /-- The number of the level. -/
  rank : UInt8
  tag : String
  text : String
  deriving DecidableEq, Repr

namespace Message

/-- The pieces of a line before the text of the message. -/
def header (message : Message) (offset : Int) (now : Instant) : List String :=
  [message.tag, "/", String.singleton (Level.letterOfRank message.rank), "  [",
    now.stamp offset, ".", Text.decimal now.micros, "]  "]

/-- The line of a message in a zone `offset` seconds ahead, of at most `capacity` bytes. -/
def render (message : Message) (capacity : Nat) (offset : Int) (now : Instant) : Bytes :=
  ((LineBuffer.ofCapacity capacity).writeAll (message.header offset now ++ [message.text])).finish

end Message

end LogFanout
