import CallSite.Address

/-!
# Faults

What can go wrong when a map is built, stored, read or asked for, and how it is told.
-/

namespace CallSite

/-- Why a file could not be reached. -/
inductive FileFault where
  | missing
  | isDirectory
  | notDirectory
  | malformedPath
  | other (text : String)
deriving DecidableEq

def FileFault.text : FileFault → String
  | .missing => "No such file or directory (os error 2)"
  | .isDirectory => "Is a directory (os error 21)"
  | .notDirectory => "Not a directory (os error 20)"
  | .malformedPath => "file name contained an unexpected NUL byte"
  | .other text => text

/-- A file fault, as told to the user of a library. -/
def FileFault.message (fault : FileFault) : String :=
  "IO error: " ++ fault.text

/-- Why an atlas could not be written to a blob or read from one. -/
inductive BlobFault where
  | unwritable (text : String)
  | malformed (text : String)
  | uncompressible (text : String)
  | corrupt (text : String)
  | undecipherable
  | version (found : UInt32)
deriving DecidableEq

def BlobFault.message : BlobFault → String
  | .unwritable text => "failed to serialize line map: " ++ text
  | .malformed text => "failed to deserialize line map: " ++ text
  | .uncompressible text => "failed to compress line map: " ++ text
  | .corrupt text => "failed to decompress line map: " ++ text
  | .undecipherable => "failed to decrypt line map blob"
  | .version found => "unsupported line map format version " ++ toString found.toNat

/-- Why the symbols or the rows of a module could not be told at all. -/
inductive FeedFault where
  | image (text : String)
  | debugInfo (text : String)
  | file (fault : FileFault)
deriving DecidableEq

def FeedFault.message : FeedFault → String
  | .image text => "failed to parse module: " ++ text
  | .debugInfo text => "DWARF error: " ++ text
  | .file fault => fault.message

/-- Why a single row was not kept. -/
inductive Rejection where
  | lineTooLarge (line : UInt64) (address : Address)
  | noSourceFile (line : UInt64) (address : Address)
deriving DecidableEq

def Rejection.message : Rejection → String
  | .lineTooLarge line address =>
      "line " ++ toString line.toNat ++ " at " ++ address.text ++ " does not fit in 32 bits"
  | .noSourceFile line address =>
      "line " ++ toString line.toNat ++ " at " ++ address.text ++ " has no source file"

/-- Why a map was not built, stored or loaded. -/
inductive Fault where
  | symbols (text : String)
  | rows (text : String)
  | moduleMissing (path : String)
  | invalidArgument (text : String)
  | blob (fault : BlobFault)
  | file (fault : FileFault)
deriving DecidableEq

def Fault.message : Fault → String
  | .symbols text => "Unable to enumerate symbols: " ++ text
  | .rows text => "Unable to enumerate lines: " ++ text
  | .moduleMissing path => "Module not found: " ++ path
  | .invalidArgument text => "Invalid argument: " ++ text
  | .blob fault => "Line map codec error: " ++ fault.message
  | .file fault => fault.message

end CallSite
