import CallSite.Atlas.SymbolIndex
import CallSite.Fault

/-!
# Events

What the library tells about its work while it does it. An event says what happened; its level, its
origin, its message and its fields follow from that.
-/

namespace CallSite

/-- How much an event matters, the gravest first. -/
inductive Level where
  | error
  | warn
  | info
  | debug
  | trace
deriving DecidableEq

namespace Level

/-- Greater for levels that matter less. -/
def verbosity : Level → Nat
  | .error => 1
  | .warn => 2
  | .info => 3
  | .debug => 4
  | .trace => 5

def text : Level → String
  | .error => "ERROR"
  | .warn => "WARN"
  | .info => "INFO"
  | .debug => "DEBUG"
  | .trace => "TRACE"

end Level

/-- The value of a field: a number, a text shown as it is, or one shown in quotes. -/
inductive FieldValue where
  | number (n : Int)
  | shown (text : String)
  | quoted (text : String)
deriving DecidableEq

inductive Event where
  | loadingSymbols (path : String)
  | mapWritten (path : String)
  | runFailed (fault : Fault)
  | duplicateSymbol (previous : Symbol)
  | rowRejected (reason : Rejection)
  | collectionFailed (path : String) (fault : Fault)
  | symbolsKept (count : Nat)
  | linesKept (count : Nat)
  | namesKept (count : Nat)
  | enciphering (documentSize compressedSize : Nat)
  | encoded (size : Nat)
  | writingTrailer
  | writingSidecar (path : String)
  | writingReport (path : String)
  | noStaticSymbols (path : String)
  | symbolsListed (count : Nat)
  | rowsListed (count : Nat)
  | rowWithoutFile (address line : UInt64)
  | rowSkipped (address line : UInt64) (fault : FeedFault)
  | sectionUnreadable (text : String)
  | unresolved (path : String) (id : SymbolId) (offset : Int64)
  | noMap (path : String)
  | mapUnreadable (path : String) (fault : Fault)
deriving DecidableEq

namespace Event

def level : Event → Level
  | .runFailed _ | .collectionFailed _ _ => .error
  | .duplicateSymbol _ | .rowRejected _ | .rowWithoutFile _ _ | .rowSkipped _ _ _ => .warn
  | .loadingSymbols _ | .mapWritten _ | .symbolsKept _ | .linesKept _ | .namesKept _ => .info
  | _ => .debug

/-- The part of the program that an event comes from. -/
def origin : Event → String
  | .loadingSymbols _ | .mapWritten _ | .runFailed _ => "linemap"
  | .duplicateSymbol _ | .rowRejected _ | .collectionFailed _ _ | .symbolsKept _ | .linesKept _
  | .namesKept _ | .encoded _ | .writingReport _ => "linemap_core::builder"
  | .enciphering _ _ => "linemap_core::codec"
  | .writingTrailer | .sectionUnreadable _ => "linemap_core::store::embedded"
  | .writingSidecar _ => "linemap_core::store::sidecar"
  | .noStaticSymbols _ | .symbolsListed _ | .rowsListed _ | .rowWithoutFile _ _
  | .rowSkipped _ _ _ => "linemap_core::source::dwarf"
  | .unresolved _ _ _ | .noMap _ | .mapUnreadable _ _ => "linemap_core::resolver"

def message : Event → String
  | .loadingSymbols path => "Loading symbols for " ++ path
  | .mapWritten path => "Line map written to " ++ path
  | .runFailed fault => fault.message
  | .duplicateSymbol _ => "duplicate symbol id, keeping the later one"
  | .rowRejected reason => "Unable to enum lines: " ++ reason.message
  | .collectionFailed _ fault => fault.message
  | .symbolsKept count => "Retrieved " ++ toString count ++ " symbols"
  | .linesKept count => "Retrieved " ++ toString count ++ " lines"
  | .namesKept count => "Retrieved " ++ toString count ++ " strings"
  | .enciphering _ _ => "Encrypting symbol buffer"
  | .encoded _ => "encoded line map"
  | .writingTrailer => "Writing symbol buffer to resource"
  | .writingSidecar _ => "Writing symbol buffer to file"
  | .writingReport _ => "Writing report"
  | .noStaticSymbols _ => "no static symbols, using dynamic symbol table"
  | .symbolsListed _ => "enumerated object symbols"
  | .rowsListed _ => "enumerated line rows"
  | .rowWithoutFile _ _ => "line row has no file entry, skipping"
  | .rowSkipped _ _ fault => "skipping line row: " ++ fault.message
  | .sectionUnreadable text => "unreadable line map section: " ++ text
  | .unresolved _ _ _ => "call-site unresolved"
  | .noMap _ => "no line map for module"
  | .mapUnreadable _ fault => "failed to load line map: " ++ fault.message

def fields : Event → List (String × FieldValue)
  | .duplicateSymbol previous => [("id", .shown previous.id.text), ("name", .shown previous.name)]
  | .collectionFailed path _ => [("module", .shown path)]
  | .enciphering documentSize compressedSize =>
      [("serialized", .number documentSize), ("compressed", .number compressedSize)]
  | .encoded size => [("bytes", .number size)]
  | .writingTrailer => [("resource_type", .quoted "LMP"), ("resource_name", .quoted "LMPDATA")]
  | .writingSidecar path | .writingReport path | .noStaticSymbols path => [("path", .shown path)]
  | .symbolsListed count | .rowsListed count => [("count", .number count)]
  | .rowWithoutFile address line | .rowSkipped address line _ =>
      [("address", .number address.toNat), ("line", .number line.toNat)]
  | .unresolved path id offset =>
      [("module", .shown path), ("symbol", .shown id.text), ("offset", .number offset.toInt)]
  | .noMap path | .mapUnreadable path _ => [("module", .shown path)]
  | _ => []

end Event

end CallSite
