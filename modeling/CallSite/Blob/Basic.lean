import CallSite.Blob.Cipher
import CallSite.Blob.Document
import CallSite.Compression.Gzip
import CallSite.Fault

/-!
# Blobs

A blob is the stored form of an atlas: its document, compressed and then enciphered. The secret is
part of every program that uses it and only keeps source paths out of sight.
-/

namespace CallSite.Blob

def secret : Cipher.Secret where
  key := ⟨⟨⟨1, 2, 3, 4⟩, ⟨5, 6, 7, 8⟩, ⟨9, 10, 11, 12⟩, ⟨13, 14, 15, 16⟩⟩,
    ⟨⟨17, 18, 19, 20⟩, ⟨21, 22, 23, 24⟩, ⟨25, 26, 27, 28⟩, ⟨29, 30, 31, 32⟩⟩⟩
  start := ⟨⟨65, 2, 68, 26⟩, ⟨7, 178, 200, 3⟩, ⟨65, 110, 68, 13⟩, ⟨69, 16, 200, 219⟩⟩

/-- A blob and the sizes of what it was made from. -/
structure Encoded where
  bytes : Bytes
  documentSize : Nat
  compressedSize : Nat

/-- The blob of an atlas, with its document compressed in a given way. -/
def encodeBy (compress : Bytes → Bytes) (atlas : Atlas)
    (version : UInt32 := Document.currentVersion) : Encoded :=
  let document := Document.write version atlas
  let compressed := compress document
  ⟨Cipher.encrypt secret compressed, document.length, compressed.length⟩

def encode (atlas : Atlas) (version : UInt32 := Document.currentVersion) : Encoded :=
  encodeBy Gzip.compress atlas version

/-- No bytes at all stand for the empty atlas. -/
def decode (blob : Bytes) : Except BlobFault Atlas :=
  if blob.isEmpty then .ok .empty
  else
    match Cipher.decrypt? secret blob with
    | none => .error .undecipherable
    | some compressed =>
        match Gzip.decompress? compressed with
        | none => .error (.corrupt "not a whole gzip member")
        | some document =>
            match Document.read? document with
            | none => .error (.malformed "not a line map document")
            | some raw =>
                if raw.version = Document.currentVersion then .ok raw.atlas
                else .error (.version raw.version)

end CallSite.Blob
