import CallSite.Object.Elf
import CallSite.Object.MachO
import CallSite.Object.Pe
import CallSite.Object.Xcoff

/-!
# Images of any format
-/

namespace CallSite.ObjectFile

/-- The object file that bytes hold, by the format that their beginning tells. -/
def read? (bs : Bytes) : Option ObjectFile := do
  let file := Window.ofBytes bs
  match ← file.bytes? 0 16 with
  | 0x7f :: 0x45 :: 0x4c :: 0x46 :: _ => Elf.read? file
  | 0xfe :: 0xed :: 0xfa :: _ => MachO.read? file
  | _ :: 0xfa :: 0xed :: 0xfe :: _ => MachO.read? file
  | 0x4d :: 0x5a :: _ => Pe.read? file
  | 0x00 :: 0x00 :: 0xff :: 0xff :: 0x02 :: 0x00 :: _ => Coff.read? true file
  | 0x01 :: 0xdf :: _ => Xcoff.read? ⟨false, .big⟩ file
  | 0x01 :: 0xf7 :: _ => Xcoff.read? ⟨true, .big⟩ file
  | low :: high :: _ =>
      if Coff.machines.contains (low, high) then Coff.read? false file else none
  | _ => none

end CallSite.ObjectFile
