import LiveSketch.Digest.Sha1
import LiveSketch.Entry.Engine
import LiveSketch.Surface.Raster

/-!
# Image files

A raster as the bytes of an image file: a signature, then chunks of a length, a name, data and a
checksum. The pixels are stored in blocks that are not packed any further. Rectangles and points are
filled in; other calls leave no mark.
-/

namespace LiveSketch.Image

open Sha1 (bigEndian)

/-! ## Checksums -/

def crcBit (c : UInt32) : UInt32 :=
  if c &&& 1 = 1 then (c >>> 1) ^^^ (0xEDB88320 : UInt32) else c >>> 1

/-- The cyclic checksums of single bytes. -/
def crcTable : Array UInt32 := ((List.range 256).map fun n => Nat.repeat crcBit 8 n.toUInt32).toArray

/-- The cyclic checksum of bytes. -/
def crc (bytes : List UInt8) : UInt32 :=
  let step (c : UInt32) (b : UInt8) : UInt32 :=
    crcTable.getD ((c ^^^ b.toUInt32) &&& 0xFF).toNat 0 ^^^ (c >>> 8)
  ~~~bytes.foldl step 0xFFFFFFFF

/-- The two running sums over bytes. -/
def runningSums (bytes : List UInt8) : Nat :=
  let (a, b) := bytes.foldl (fun (a, b) byte =>
    let a := (a + byte.toNat) % 65521
    (a, (a + b) % 65521)) (1, 0)
  65536 * b + a

/-! ## Parts of the file -/

def chunk (name : String) (data : List UInt8) : List UInt8 :=
  let body := name.toUTF8.toList ++ data
  bigEndian 4 data.length ++ body ++ bigEndian 4 (crc body).toNat

/-- The least significant byte first. -/
def littleEndian (n : Nat) : List UInt8 := (bigEndian 2 n).reverse

/-- Data in blocks of a limited size, the last of which is marked. -/
def blocks : Nat → List UInt8 → List UInt8
  | 0, _ => []
  | fuel + 1, data =>
    let (block, rest) := (data.take 65535, data.drop 65535)
    let last : UInt8 := if rest.isEmpty then 1 else 0
    last :: littleEndian block.length ++ littleEndian (65535 - block.length) ++ block ++
      (if rest.isEmpty then [] else blocks fuel rest)

/-- Data as a stream with its running sums. -/
def stream (data : List UInt8) : List UInt8 :=
  0x78 :: 0x01 :: blocks (data.length / 65535 + 1) data ++ bigEndian 4 (runningSums data)

def formatNumber : ColorMode → UInt8
  | .rgba => 6
  | .rgb => 2
  | .gray => 0

/-- The rows of a raster, each with a zero in front. -/
def rows (r : Raster) : List UInt8 :=
  (List.range r.height).flatMap fun (y : Nat) =>
    0 :: (List.range r.width).flatMap fun (x : Nat) =>
      ((r.pixel? x y).getD r.blank).map UInt8.ofNat

def bytesOf (r : Raster) : List UInt8 :=
  [0x89, 0x50, 0x4E, 0x47, 0x0D, 0x0A, 0x1A, 0x0A] ++
    chunk "IHDR" (bigEndian 4 r.width ++ bigEndian 4 r.height ++ [8, formatNumber r.mode, 0, 0, 0]) ++
    chunk "IDAT" (stream (rows r)) ++ chunk "IEND" []

/-! ## Calls -/

/-- The whole numbers in a row of coordinates. -/
def coordinatesOf : List Datum → List Int
  | [] => []
  | .int n :: rest => n :: coordinatesOf rest
  | .tuple [.int x, .int y] :: rest | .list [.int x, .int y] :: rest => x :: y :: coordinatesOf rest
  | _ :: rest => coordinatesOf rest

def fillOf : Datum → Fill
  | .int n => .level n
  | .tuple items | .list items => .levels (coordinatesOf items)
  | _ => .level (-1)

/-- A call leaves its mark on a raster. -/
def drawCall (r : Raster) (c : CanvasCall) : Raster :=
  match c.arguments with
  | .list items :: rest | .tuple items :: rest =>
    match Shape.ofCall? c.method (coordinatesOf items) with
    | some shape =>
      let fill := fillOf ((c.named.lookup "fill" <|> rest.head?).getD (.int (-1)))
      (r.stroke shape fill).toOption.getD r
    | none => r
  | _ => r

def rasterOf? (canvas : Canvas) (calls : List CanvasCall) : Option Raster :=
  match canvas with
  | .pixels mode width height => (Raster.new? mode width height).map fun r => calls.foldl drawCall r
  | .sheet => none

end LiveSketch.Image
