import CallSite.Compression.Zlib
import CallSite.Window

/-!
# Object files

What the formats of object files have in common: named sections, whose content may be compressed,
and tables of symbols.
-/

namespace CallSite

/-- Whether addresses have eight bytes or four, and the byte order. -/
structure ObjectLayout where
  wide : Bool
  order : ByteOrder

namespace ObjectLayout

/-- The width of an address. -/
def word (l : ObjectLayout) : Nat := if l.wide then 8 else 4

/-- One of two numbers, for the narrow and for the wide layout. -/
def pick (l : ObjectLayout) (narrow wide : Nat) : Nat := if l.wide then wide else narrow

def read (l : ObjectLayout) (w : Window) (width offset : Nat) : Option Nat :=
  w.number? l.order width offset

end ObjectLayout

/-- How the content of a section stands in a file. -/
inductive SectionContent where
  | plain (window : Window)
  | zlib (size : Nat) (window : Window)
  | unreadable

def SectionContent.read? : SectionContent → Option Window
  | .plain window => some window
  | .zlib size window => (Zlib.decompress? size window.toBytes).map fun output => .ofArray ⟨output⟩
  | .unreadable => none

structure ObjectSection where
  name : Bytes
  content : SectionContent

/-- An entry of a symbol table with its place in it; the name is none if it cannot be read. -/
structure ObjectSymbol where
  index : Nat
  name : Option String
  address : UInt64
  isFunction : Bool
deriving DecidableEq

structure ObjectFile where
  order : ByteOrder
  sections : List ObjectSection
  /-- The spellings under which a section is looked for, in turn: any name of a group will do. -/
  spellings : String → List (List Bytes)
  symbols : List ObjectSymbol
  dynamicSymbols : List ObjectSymbol

namespace ObjectFile

def section? (file : ObjectFile) (name : String) : Option ObjectSection :=
  (file.spellings name).findSome? fun names =>
    file.sections.find? fun s => names.contains s.name

end ObjectFile

/-- Bytes up to the first zero byte, all of them if there is none. -/
def Bytes.beforeZero (bs : Bytes) : Bytes :=
  bs.takeWhile (· ≠ 0)

/-- The table of texts in which names are looked up, none if there is no table. -/
def nameAt? (strings : Option Window) (offset : Nat) : Option Bytes := do
  let table ← strings
  table.textAt? offset

end CallSite
