import Lapdev.RustStd.Str

/-!
# DNS labels

Kubernetes takes a DNS label for the name of a service or a namespace: letters, digits and hyphens,
at most 63 of them, with no hyphen at an end.
-/

namespace Lapdev

open RustStd

/-- A DNS label. -/
structure DnsLabel where
  text : Str
  length_pos : 0 < text.length
  length_le : text.length ≤ 63
  chars : ∀ c ∈ text, c.isAlphanum = true ∨ c = '-'
  head : text.head? ≠ some '-'
  last : text.getLast? ≠ some '-'

namespace DnsLabel

/-- A label has no character that is neither a letter, a digit nor a hyphen. -/
theorem notMem_of_not_isAlphanum (label : DnsLabel) {c : Char} (hc : c.isAlphanum = false)
    (hhyphen : c ≠ '-') : c ∉ label.text := by
  intro h
  rcases label.chars c h with h | h
  · rw [hc] at h
    cases h
  · exact hhyphen h

end DnsLabel

end Lapdev
