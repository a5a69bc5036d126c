/-!
# Columns

Texts filled with spaces, so that what follows them stands in one column.  Widths
count characters.
-/

namespace Telemetry

namespace Text

def spaces (count : Nat) : String :=
  String.ofList (List.replicate count ' ')

def padRight (width : Nat) (text : String) : String :=
  text ++ spaces (width - text.length)

def padLeft (width : Nat) (text : String) : String :=
  spaces (width - text.length) ++ text

end Text

end Telemetry
