/-!
# Bytes

Lines are sent as bytes. A text becomes bytes by its UTF-8 encoding; a sequence of bytes that
encodes a text gives it back.
-/

namespace LogFanout

/-- A sequence of bytes. -/
abbrev Bytes := List UInt8

namespace Text

/-- The UTF-8 encoding of a text. -/
def utf8 (s : String) : Bytes :=
  s.toList.flatMap String.utf8EncodeChar

/-- The text that a sequence of bytes encodes, if there is one. -/
def ofUtf8? (bytes : Bytes) : Option String :=
  String.fromUTF8? ⟨bytes.toArray⟩

end Text

end LogFanout
