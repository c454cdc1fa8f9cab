/-!
# ASCII case

Names of levels, transports and file formats are recognised without regard to ASCII case. Letters
outside ASCII are left alone, in the comparison and in the messages.
-/

namespace LogFanout.Text

/-- A text with its ASCII capitals made small. -/
def asciiLower (s : String) : String :=
  String.ofList (s.toList.map Char.toLower)

end LogFanout.Text
