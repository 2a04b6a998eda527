import CallSite.Object.Coff

/-!
# PE files

Portable executables of both widths, with the symbol table that some tools leave in them.
-/

namespace CallSite.Pe

open Coff (read)

structure Headers extends Coff.Headers where
  imageBase : Nat

def headers? (file : Window) : Option Headers := do
  let _ ← file.slice? 0 64
  let start ← read file 4 0x3c
  let signature ← file.bytes? start 4
  guard (signature = [0x50, 0x45, 0, 0])
  let optional := start + 24
  let magic ← read file 2 optional
  guard (magic = 0x10b ∨ magic = 0x20b)
  let wide := magic = 0x20b
  let fixedSize := if wide then 112 else 96
  let fixed ← file.slice? optional fixedSize
  let optionalSize ← read file 2 (start + 20)
  guard (fixedSize ≤ optionalSize)
  let _ ← file.slice? optional optionalSize
  let directoryCount ← read fixed 4 (fixedSize - 4)
  guard (directoryCount * 8 ≤ optionalSize - fixedSize)
  pure {
    sectionOffset := optional + optionalSize
    sectionCount := ← read file 2 (start + 6)
    symbolOffset := ← read file 4 (start + 12)
    symbolCount := ← read file 4 (start + 16)
    imageBase := ← if wide then read fixed 8 24 else read fixed 4 28 }

def content (file : Window) (s : Coff.SectionHeader) : SectionContent :=
  ((file.slice? s.offset (min s.virtualSize s.size)).map .plain).getD .unreadable

/-- Symbols that cannot be read are as good as none. -/
def read? (file : Window) : Option ObjectFile := do
  let h ← headers? file
  let headers ← Coff.sectionHeaders? file h.toHeaders
  let table := (SymbolTable.read? file .little (Coff.symbolSize false) h.symbolOffset
    h.symbolCount).getD .empty
  pure (Coff.object false table h.imageBase headers (content file))

end CallSite.Pe
