/-!
# Output of limited size

A symbol can be short and stand for a text of any length. Output that would grow too long is broken
off.
-/

namespace CallSite.Demangle

/-- What is written, and how many bytes more there is room for. -/
structure Output where
  text : String
  room : Nat

/-- The greatest size of a demangled name. -/
def sizeLimit : Nat := 1000000

def Output.empty : Output := ⟨"", sizeLimit⟩

/-- The output with a text at its end, if there is room for it. -/
def Output.write? (out : Output) (s : String) : Option Output :=
  if s.utf8ByteSize ≤ out.room then some ⟨out.text ++ s, out.room - s.utf8ByteSize⟩ else none

/-- Stands at the end of output that was broken off. -/
def sizeLimitNote : String := "\x7bsize limit reached\x7d"

end CallSite.Demangle
