import LogFanout.Text.Utf8

/-!
# Line buffers

A line is put together from pieces of text in a buffer of bounded size, which keeps one byte back
for the newline at the end. A piece that does not fit is cut, and the buffer remembers it.
-/

namespace LogFanout

/-- A line under construction. -/
structure LineBuffer where
  /-- The size of the finished line at most. -/
  capacity : Nat
  /-- The bytes written so far. -/
  content : Bytes
  /-- Whether some piece was cut. -/
  truncated : Bool
  deriving DecidableEq, Repr

namespace LineBuffer

/-- The least size: one byte of content and the newline. -/
def minCapacity : Nat :=
  2

/-- The byte that ends a line. -/
def newline : UInt8 :=
  10

/-- An empty buffer for lines of at most `capacity` bytes. A capacity for which there is no memory,
as any above the greatest signed word, ends the process instead of making a buffer. -/
def ofCapacity (capacity : Nat) : LineBuffer where
  capacity := max capacity minCapacity
  content := []
  truncated := false

/-- The number of bytes that may be written in all. -/
def limit (buffer : LineBuffer) : Nat :=
  buffer.capacity - 1

/-- The number of bytes that may still be written. -/
def room (buffer : LineBuffer) : Nat :=
  buffer.limit - buffer.content.length

/-- Writes a piece, cut to the room left, and says whether it was written whole. -/
def write (buffer : LineBuffer) (piece : String) : Bool × LineBuffer :=
  let bytes := Text.utf8 piece
  if bytes.length ≤ buffer.room then
    (true, { buffer with content := buffer.content ++ bytes })
  else
    (false, { buffer with content := buffer.content ++ bytes.take buffer.room, truncated := true })

/-- Writes pieces until one does not fit. -/
def writeAll (buffer : LineBuffer) : List String → LineBuffer
  | [] => buffer
  | piece :: pieces =>
    match buffer.write piece with
    | (true, buffer) => buffer.writeAll pieces
    | (false, buffer) => buffer

/-- The bytes without the newlines at their end. -/
def dropNewlines (bytes : Bytes) : Bytes :=
  (bytes.reverse.dropWhile (· == newline)).reverse

/-- The finished line: the content without the newlines at its end, and one newline. -/
def finish (buffer : LineBuffer) : Bytes :=
  dropNewlines buffer.content ++ [newline]

end LineBuffer

end LogFanout
