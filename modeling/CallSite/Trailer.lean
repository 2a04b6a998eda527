import CallSite.Bytes
import CallSite.Fault

/-!
# Trailers

A trailer carries a blob behind an image: the blob, its length in eight bytes, a language and a tag.
Loaders ignore what comes after an image, so the image still runs. It is found from its end, in
memory or by two small reads of a file.
-/

namespace CallSite.Trailer

/-- The type and the name of the resource, each ended by a zero byte. -/
def tag : Bytes :=
  [76, 77, 80, 0, 76, 77, 80, 68, 65, 84, 65, 0]

def language : Nat := 0

def footer (blobLength : Nat) : Bytes :=
  Bytes.littleEndian 8 blobLength ++ Bytes.littleEndian 2 language ++ tag

def footerLength : Nat := 22

/-- The length of the blob, if the bytes are a footer. -/
def blobLength? (footer : Bytes) : Option Nat :=
  if footer.drop 10 = tag ∧ Bytes.ofLittleEndian ((footer.drop 8).take 2) = language then
    some (Bytes.ofLittleEndian (footer.take 8))
  else none

/-- The blob of an image that ends in a trailer. -/
def find? (image : Bytes) : Option Bytes := do
  guard (footerLength ≤ image.length)
  let footerStart := image.length - footerLength
  let n ← blobLength? (image.drop footerStart)
  guard (n ≤ footerStart)
  pure ((image.drop (footerStart - n)).take n)

/-- The image without its trailer. -/
def strip (image : Bytes) : Bytes :=
  match find? image with
  | some blob => image.take (image.length - footerLength - blob.length)
  | none => image

/-- The image with a blob behind it, in the place of any that it had. -/
def append (image blob : Bytes) : Bytes :=
  strip image ++ blob ++ footer blob.length

/-! ### Reading from a file -/

/-- Bytes with a place in them, from which they are read on. -/
structure Cursor where
  content : Bytes
  /-- Any place may be set, also one past the end. -/
  place : Nat
  /-- The sizes of the buffers that were to be filled, latest first. -/
  asked : List Nat

abbrev Scan := ExceptT FileFault (StateM Cursor)

namespace Cursor

/-- At the beginning, with nothing read yet. -/
def ofBytes (bs : Bytes) : Cursor := ⟨bs, 0, []⟩

/-- Goes to the end, and gives the place that this is. -/
def toEnd : Scan Nat := do
  modify fun c => { c with place := c.content.length }
  return (← get).place

def goTo (place : Nat) : Scan Unit :=
  modify fun c => { c with place }

/-- Fills a buffer from the place on. What is left is passed if it does not suffice, and that is a
fault. -/
def fill (n : Nat) : Scan Bytes := do
  let c ← get
  let bs := (c.content.drop c.place).take n
  set { c with place := c.place + bs.length, asked := n :: c.asked }
  if bs.length = n then pure bs else throw (.other "failed to fill whole buffer")

end Cursor

/-- The blob of a trailer, from reading the footer and then the blob alone. -/
def scan : Scan (Option Bytes) := do
  let size ← Cursor.toEnd
  if size < footerLength then return none
  let footerStart := size - footerLength
  Cursor.goTo footerStart
  let footer ← Cursor.fill footerLength
  match blobLength? footer with
  | none => return none
  | some n =>
      if footerStart < n then return none
      Cursor.goTo (footerStart - n)
      some <$> Cursor.fill n

/-- The blob that a scan finds. -/
def read (c : Cursor) : Except FileFault (Option Bytes) :=
  (scan.run c).1

end CallSite.Trailer
