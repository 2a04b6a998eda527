import CallSite.Address
import CallSite.Atlas.Basic
import CallSite.Atlas.NamePool
import CallSite.Atlas.SymbolIndex
import CallSite.Atlas.Track
import CallSite.Blob.Basic
import CallSite.Blob.Cipher
import CallSite.Blob.Document
import CallSite.Build.Basic
import CallSite.Build.Collection
import CallSite.Build.Process
import CallSite.Bytes
import CallSite.Bytes.Lemmas
import CallSite.Cbor.Reader
import CallSite.Cbor.Writer
import CallSite.Command.Arguments
import CallSite.Command.Help
import CallSite.Command.Program
import CallSite.Command.Spelling
import CallSite.Compression.Deflate
import CallSite.Compression.Gzip
import CallSite.Compression.Zlib
import CallSite.Demangle.Basic
import CallSite.Demangle.Ident
import CallSite.Demangle.Legacy
import CallSite.Demangle.Output
import CallSite.Demangle.V0
import CallSite.Dwarf.Abbreviation
import CallSite.Dwarf.Form
import CallSite.Dwarf.LineProgram
import CallSite.Dwarf.LineTable
import CallSite.Dwarf.Listing
import CallSite.Dwarf.Scan
import CallSite.Dwarf.Unit
import CallSite.Event
import CallSite.Fault
import CallSite.Feed
import CallSite.FileStore.Basic
import CallSite.Image
import CallSite.Logging.Filter
import CallSite.Logging.Line
import CallSite.Logging.LogFile
import CallSite.Logging.Settings
import CallSite.Main
import CallSite.ModulePath
import CallSite.Object.Basic
import CallSite.Object.Elf
import CallSite.Object.Image
import CallSite.Object.Listing
import CallSite.Object.MachO
import CallSite.Object.SymbolTable
import CallSite.Object.Coff
import CallSite.Object.Pe
import CallSite.Object.Xcoff
import CallSite.Report
import CallSite.Resolver
import CallSite.Session
import CallSite.SourcePath
import CallSite.Store.Basic
import CallSite.Store.Embedded
import CallSite.Text.Lossy
import CallSite.Text.Numeral
import CallSite.Text.Split
import CallSite.Text.Visible
import CallSite.Trailer
import CallSite.Window
import CallSite.Proofs.Blob.Cipher
import CallSite.Proofs.Compression.Stored
import CallSite.Proofs.Compression.Growth
import CallSite.Proofs.Outcome
import CallSite.Proofs.Cbor.RoundTrip
import CallSite.Proofs.Cbor.Sizes
import CallSite.Proofs.Atlas.Floor
import CallSite.Proofs.Nearest
import CallSite.Proofs.Atlas.Tracks
import CallSite.Proofs.Dwarf.Rows
import CallSite.Proofs.Atlas.Symbols
import CallSite.Proofs.Blob.Decoding
import CallSite.Proofs.Blob.RoundTrip
import CallSite.Proofs.Atlas.Names
import CallSite.Proofs.Atlas.Readings
import CallSite.Proofs.FileStore.Beside
import CallSite.Proofs.Session
import CallSite.Proofs.Trailer
import CallSite.Proofs.Trailer.Replacing
import CallSite.Proofs.Store.Loading
import CallSite.Proofs.Build.Collection
import CallSite.Proofs.Store.Embedding
import CallSite.Proofs.Blob.Size
import CallSite.Proofs.Build.Running
import CallSite.Proofs.Build.Answers
import CallSite.Proofs.Resolver.Cache
import CallSite.Proofs.Resolver.History
import CallSite.Proofs.Build.Sequence
import CallSite.Proofs.Build.Extraction
import CallSite.Proofs.Address
import CallSite.Proofs.Atlas.Register
import CallSite.Proofs.Atlas.Steps
import CallSite.Proofs.FileStore.Writing
import CallSite.Proofs.Build.Failing
import CallSite.Proofs.Build.Touching
import CallSite.Proofs.Build.Images
import CallSite.Proofs.FileStore.Alike
import CallSite.Proofs.Store.Spelled
import CallSite.Proofs.Trailer.Grammar
import CallSite.Proofs.Build.Storing
import CallSite.Proofs.Build.Repeating
import CallSite.Proofs.SourcePath
import CallSite.Proofs.Build.Nameless
import CallSite.Proofs.Build.Telling
import CallSite.Proofs.SourcePath.Shortening
import CallSite.Proofs.Text.ByteOrder
import CallSite.Proofs.Command.Arguments
import CallSite.Proofs.Report.Listing
import CallSite.Proofs.Report.Owners
import CallSite.Proofs.Command.Destinations
import CallSite.Proofs.Atlas.Interning
import CallSite.Proofs.Atlas.Latest
import CallSite.Proofs.Blob.Canonical
import CallSite.Proofs.Object.Listing
import CallSite.Proofs.Build.Listed
import CallSite.Proofs.SourcePath.Joining
import CallSite.Proofs.Dwarf.FilePaths
