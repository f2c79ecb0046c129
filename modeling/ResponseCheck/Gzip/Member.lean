import ResponseCheck.Gzip.Inflate

/-! A gzip member is a header, a deflate stream, and a trailer with the checksum and the length of
the data. Bytes after the first member are ignored. -/

namespace ResponseCheck.Gzip

/-- Why a member cannot be read. -/
inductive Error where
  | invalidHeader
  | headerFieldTooLong
  | unexpectedEnd
  | corruptStream
  | checksumMismatch
deriving DecidableEq, Repr

/-- The message of an error. -/
def Error.message : Error → String
  | .invalidHeader => "invalid gzip header"
  | .headerFieldTooLong => "gzip header field too long"
  | .unexpectedEnd => "unexpected end of file"
  | .corruptStream => "corrupt deflate stream"
  | .checksumMismatch => "corrupt gzip stream does not have a matching checksum"

/-- One bit of the checksum division. -/
def crcBit (r : UInt32) : UInt32 := if r &&& 1 == 1 then (r >>> 1) ^^^ 0xEDB88320 else r >>> 1

/-- One byte of the checksum division. -/
def crcByte (r : UInt32) (b : UInt8) : UInt32 :=
  (List.range 8).foldl (fun r _ => crcBit r) (r ^^^ b.toUInt32)

/-- The checksum of bytes. -/
def crc32 (bytes : List UInt8) : UInt32 := bytes.foldl crcByte 0xFFFFFFFF ^^^ 0xFFFFFFFF

/-- A number written with the least significant byte first. -/
def littleEndian (bytes : List UInt8) : Nat := bytes.foldr (fun b n => b.toNat + 256 * n) 0

/-- Reads a number of bytes. -/
def takeBytes (count : Nat) (s : List UInt8) : Except Error (List UInt8 × List UInt8) :=
  if s.length < count then .error .unexpectedEnd else .ok (s.take count, s.drop count)

/-- How many bytes a text in a header may have. -/
def maxField : Nat := 65535

/-- Reads a text that ends with a zero byte; gives the bytes after it. -/
def skipText (s : List UInt8) : Except Error (List UInt8) :=
  let text := s.takeWhile (· != 0)
  if maxField < text.length then .error .headerFieldTooLong
  else match s.drop text.length with
    | [] => .error .unexpectedEnd
    | _ :: rest => .ok rest

/-- Reads a header; gives the bytes after it. -/
def skipHeader (s : List UInt8) : Except Error (List UInt8) := do
  let (fixed, rest) ← takeBytes 10 s
  match fixed with
  | 0x1F :: 0x8B :: 8 :: flags :: _ =>
    if flags &&& 0xE0 != 0 then throw .invalidHeader
    let rest ←
      if flags &&& 4 != 0 then
        let (size, rest) ← takeBytes 2 rest
        (·.2) <$> takeBytes (littleEndian size) rest
      else pure rest
    let rest ← if flags &&& 8 != 0 then skipText rest else pure rest
    let rest ← if flags &&& 16 != 0 then skipText rest else pure rest
    if flags &&& 2 != 0 then
      let header := s.take (s.length - rest.length)
      let (stored, rest) ← takeBytes 2 rest
      if littleEndian stored = (crc32 header).toNat % 65536 then return rest
      else throw .checksumMismatch
    else return rest
  | _ => throw .invalidHeader

/-- The data of the first member. -/
def decompress (s : List UInt8) : Except Error (List UInt8) := do
  let rest ← skipHeader s
  match inflate rest with
  | .error .corrupt => throw .corruptStream
  | .error .truncated => throw .unexpectedEnd
  | .ok (data, rest) =>
    let (trailer, _) ← takeBytes 8 rest
    let checksum := littleEndian (trailer.take 4)
    let size := littleEndian (trailer.drop 4)
    if checksum = (crc32 data).toNat ∧ size = data.length % 0x100000000 then return data
    else throw .checksumMismatch

end ResponseCheck.Gzip
