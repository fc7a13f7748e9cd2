import NameRecovery.Address
import NameRecovery.Document
import NameRecovery.Word

/-!
# Byte images

An image is a contiguous region of memory: a base address and the bytes from there on.  The
byte at index `k` is the byte at address `base + k`, and the address after the last byte still
exists, so no sum of the base and an index leaves the address space.

## Main definitions

* `ByteImage` : images, with `ByteImage.ofBytes?` to build one.
* `ByteImage.stop`, `ByteImage.contains` : the covered range.
* `ByteImage.addressOf`, `ByteImage.offsetOf?` : from index to address and back.
* `ByteImage.wordAt?` : the word at an index.
* `ByteImage.document` : the document with base, end and size.
-/

namespace NameRecovery

/-- A contiguous region of memory. -/
structure ByteImage where
  base : Address
  bytes : Array UInt8
  fits : base.toNat + bytes.size < 0x10000000000000000
deriving DecidableEq

namespace ByteImage

/-- The image of `bytes` at `base`, if it ends inside the address space. -/
def ofBytes? (base : Address) (bytes : Array UInt8) : Option ByteImage :=
  if h : base.toNat + bytes.size < 0x10000000000000000 then some ⟨base, bytes, h⟩ else none

/-- The number of bytes. -/
def size (image : ByteImage) : Nat :=
  image.bytes.size

/-- Whether there are no bytes. -/
def isEmpty (image : ByteImage) : Bool :=
  image.bytes.isEmpty

/-- The address after the last byte. -/
def stop (image : ByteImage) : Address :=
  ⟨image.base.toNat + image.size, image.fits⟩

/-- Whether some byte has this address. -/
def contains (image : ByteImage) (a : Address) : Bool :=
  decide (image.base ≤ a) && decide (a < image.stop)

/-- The address of the byte at `index`; an index past the last byte stands for the end. -/
def addressOf (image : ByteImage) (index : Nat) : Address :=
  ⟨image.base.toNat + min index image.size, by
    have := image.fits
    simp only [size]
    omega⟩

/-- The index of the byte at an address. -/
def offsetOf? (image : ByteImage) (a : Address) : Option Nat :=
  if image.contains a then some (a.toNat - image.base.toNat) else none

/-- The word that starts at `index`, unless the image ends before the word does. -/
def wordAt? (image : ByteImage) (index : Nat) : Option Word :=
  if h : index + 4 ≤ image.bytes.size then
    some ⟨image.bytes[index], image.bytes[index + 1], image.bytes[index + 2],
      image.bytes[index + 3]⟩
  else none

/-- The document that describes an image without its bytes. -/
def document (image : ByteImage) : Document :=
  .object [("base", .text image.base.text), ("end", .text image.stop.text),
    ("size", .number image.size)]

end ByteImage

end NameRecovery
