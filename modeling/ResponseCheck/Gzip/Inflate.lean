/-!
# Inflating compressed data

A deflate stream is a sequence of blocks of bits, least significant bit of a byte first. A block is
stored as bytes, or it is coded by two prefix codes, one for literals and lengths and one for
distances, which are fixed or written at its head in compressed form. Copies reach back at most
32768 bytes; what lies before the output counts as zeros.
-/

namespace ResponseCheck.Gzip

/-- The unread bits of the current byte, and the bytes after it. -/
structure Bits where
  pending : List Bool
  rest : List UInt8

/-- Why a stream cannot be inflated. -/
inductive InflateError where
  /-- The stream breaks the format. -/
  | corrupt
  /-- The stream ends early. -/
  | truncated
deriving DecidableEq, Repr

/-- The bits of a byte, least significant first. -/
def bitsOf (b : UInt8) : List Bool := (List.range 8).map b.toNat.testBit

/-- A step on unread bits. -/
abbrev BitReader := StateT Bits (Except InflateError)

/-- Reads one bit. -/
def nextBit : BitReader Bool := fun bits =>
  match bits.pending, bits.rest with
  | b :: pending, rest => .ok (b, ⟨pending, rest⟩)
  | [], byte :: rest =>
    match bitsOf byte with
    | b :: pending => .ok (b, ⟨pending, rest⟩)
    | [] => .error .truncated
  | [], [] => .error .truncated

/-- Reads a number of the given width, least significant bit first. -/
def nextNat : (width : Nat) → BitReader Nat
  | 0 => return 0
  | width + 1 => do
    let bit ← nextBit
    let high ← nextNat width
    return bit.toNat + 2 * high

/-- Drops the unread bits of the current byte. -/
def alignToByte : BitReader Unit := modify fun bits => ⟨[], bits.rest⟩

/-- Reads whole bytes. -/
def nextBytes (count : Nat) : BitReader (List UInt8) := fun bits =>
  if bits.rest.length < count then .error .truncated
  else .ok (bits.rest.take count, ⟨[], bits.rest.drop count⟩)

/-- A prefix code as a binary tree. -/
inductive Code where
  | unused
  | symbol (n : Nat)
  | branch (zero one : Code)

namespace Code

/-- The code with a symbol added under a word. -/
def insert (n : Nat) : List Bool → Code → Code
  | [], _ => .symbol n
  | b :: word, code =>
    let (zero, one) := match code with
      | .branch zero one => (zero, one)
      | _ => (.unused, .unused)
    if b then .branch zero (one.insert n word) else .branch (zero.insert n word) one

/-- The word of the given length that stands for a number, most significant bit first. -/
def word (length n : Nat) : List Bool := (List.range length).reverse.map n.testBit

/-- How many words have a given length. -/
def countOf (lengths : List Nat) (length : Nat) : Nat := lengths.count length

/-- The first word of each length from one on, as a number, and the room that all words take of
`2 ^ 16` parts. -/
def firstWords (lengths : List Nat) : List (Nat × Nat) × Nat :=
  (List.range 15).foldl
    (fun (words, total) i =>
      -- A word of one length is the start of two words of the next length.
      let total := (total + countOf lengths (i + 1)) * 2
      (words ++ [(i + 2, total)], total))
    ([(1, 0)], 0)

/-- The code of symbols with the given word lengths; zero means that a symbol has no word. Words of
one length are consecutive, in the order of symbols. A code must use up all words, unless it is
`lenient` and has at most one symbol. -/
def ofLengths? (lenient : Bool) (lengths : List Nat) : Option Code :=
  let (first, total) := firstWords lengths
  let used := lengths.countP (· ≠ 0)
  if total ≠ 65536 ∧ (1 < used ∨ !lenient) then none
  else
    let (code, _) := lengths.zipIdx.foldl
      (fun (code, next) (length, n) =>
        if length = 0 then (code, next)
        else
          let number := (next.lookup length).getD 0
          (code.insert n (word length number),
            next.map fun (l, k) => if l = length then (l, k + 1) else (l, k)))
      (Code.unused, first)
    some code

/-- Reads a word and gives its symbol. -/
def next : Code → BitReader Nat
  | .unused => throw .corrupt
  | .symbol n => return n
  | .branch zero one => do
    if ← nextBit then one.next else zero.next

end Code

/-- The two codes of a block. -/
structure Codes where
  literals : Code
  distances : Code

/-- The lengths of the fixed literal code. -/
def fixedLengths : List Nat :=
  List.replicate 144 8 ++ List.replicate 112 9 ++ List.replicate 24 7 ++ List.replicate 8 8

/-- The fixed codes. -/
def fixedCodes : Option Codes := do
  return ⟨← Code.ofLengths? true fixedLengths, ← Code.ofLengths? true (List.replicate 32 5)⟩

/-- The order in which the lengths of the code for code lengths are written. -/
def lengthOrder : List Nat := [16, 17, 18, 0, 8, 7, 9, 6, 10, 5, 11, 4, 12, 3, 13, 2, 14, 1, 15]

/-- Reads code lengths until there are `wanted`; the lengths so far are kept last one first. -/
def codeLengths (code : Code) (wanted : Nat) : (fuel : Nat) → List Nat → BitReader (List Nat)
  | 0, _ => throw .corrupt
  | fuel + 1, found => do
    -- A run must not go on beyond the last length.
    if wanted < found.length then throw .corrupt
    if found.length = wanted then return found.reverse
    let n ← code.next
    if n < 16 then codeLengths code wanted fuel (n :: found)
    else if n = 16 then
      match found with
      | [] => throw .corrupt
      | last :: _ =>
        let count := 3 + (← nextNat 2)
        codeLengths code wanted fuel (List.replicate count last ++ found)
    else
      let count ← if n = 17 then (3 + ·) <$> nextNat 3 else (11 + ·) <$> nextNat 7
      codeLengths code wanted fuel (List.replicate count 0 ++ found)

/-- Reads several numbers of three bits. -/
def smallLengths : (count : Nat) → BitReader (List Nat)
  | 0 => return []
  | count + 1 => do
    let length ← nextNat 3
    return length :: (← smallLengths count)

/-- A code, or a failure if its lengths fit no code. -/
def codeOrFail (code? : Option Code) : BitReader Code :=
  match code? with
  | some code => return code
  | none => throw .corrupt

/-- Reads the codes at the head of a block. -/
def writtenCodes : BitReader Codes := do
  let literalCount := 257 + (← nextNat 5)
  let distanceCount := 1 + (← nextNat 5)
  let lengthCount := 4 + (← nextNat 4)
  if 286 < literalCount ∨ 30 < distanceCount then throw .corrupt
  let small := lengthOrder.zip (← smallLengths lengthCount)
  let lengthCode ← codeOrFail <| Code.ofLengths? false <|
    (List.range 19).map fun n => (small.lookup n).getD 0
  -- Both codes are written as one list, and runs may cross from one to the other.
  let wanted := literalCount + distanceCount
  let lengths ← codeLengths lengthCode wanted (wanted + 1) []
  let literals ← codeOrFail (Code.ofLengths? true (lengths.take literalCount))
  let distances ← codeOrFail (Code.ofLengths? true (lengths.drop literalCount))
  return ⟨literals, distances⟩

/-- The least length and the extra bits of the length symbols from 257 on. -/
def lengthBases : List (Nat × Nat) :=
  [(3, 0), (4, 0), (5, 0), (6, 0), (7, 0), (8, 0), (9, 0), (10, 0), (11, 1), (13, 1), (15, 1),
    (17, 1), (19, 2), (23, 2), (27, 2), (31, 2), (35, 3), (43, 3), (51, 3), (59, 3), (67, 4),
    (83, 4), (99, 4), (115, 4), (131, 5), (163, 5), (195, 5), (227, 5), (258, 0)]

/-- The least distance and the extra bits of the distance symbols. -/
def distanceBases : List (Nat × Nat) :=
  [(1, 0), (2, 0), (3, 0), (4, 0), (5, 1), (7, 1), (9, 2), (13, 2), (17, 3), (25, 3), (33, 4),
    (49, 4), (65, 5), (97, 5), (129, 6), (193, 6), (257, 7), (385, 7), (513, 8), (769, 8),
    (1025, 9), (1537, 9), (2049, 10), (3073, 10), (4097, 11), (6145, 11), (8193, 12), (12289, 12),
    (16385, 13), (24577, 13)]

/-- Reads the rest of a length or distance after its symbol. -/
def withExtraBits (bases : List (Nat × Nat)) (symbol : Nat) : BitReader Nat :=
  match bases[symbol]? with
  | none => throw .corrupt
  | some (base, extra) => (base + ·) <$> nextNat extra

/-- Repeats `count` bytes from `distance` bytes before the end of the output. -/
def copyBack (distance : Nat) : (count : Nat) → Array UInt8 → Array UInt8
  | 0, out => out
  | count + 1, out =>
    -- The bytes to repeat may include some that were added just now.
    let byte := if distance ≤ out.size then out[out.size - distance]?.getD 0 else 0
    copyBack distance count (out.push byte)

/-- Reads the symbols of a block up to its end mark. The fuel bounds the number of symbols; the
number of unread bits is enough. -/
def blockBody (codes : Codes) : (fuel : Nat) → Array UInt8 → BitReader (Array UInt8)
  | 0, _ => throw .truncated
  | fuel + 1, out => do
    let n ← codes.literals.next
    if n < 256 then blockBody codes fuel (out.push n.toUInt8)
    else if n = 256 then return out
    else
      let length ← withExtraBits lengthBases (n - 257)
      let distance ← withExtraBits distanceBases (← codes.distances.next)
      blockBody codes fuel (copyBack distance length out)

/-- Reads a stored block. -/
def storedBlock (out : Array UInt8) : BitReader (Array UInt8) := do
  alignToByte
  let length ← nextNat 16
  let check ← nextNat 16
  if length + check ≠ 65535 then throw .corrupt
  return out ++ (← nextBytes length).toArray

/-- Reads one block; tells whether it is the last one. -/
def block (fuel : Nat) (out : Array UInt8) : BitReader (Bool × Array UInt8) := do
  let last ← nextBit
  match ← nextNat 2 with
  | 0 => return (last, ← storedBlock out)
  | 1 =>
    match fixedCodes with
    | some codes => return (last, ← blockBody codes fuel out)
    | none => throw .corrupt
  | 2 => return (last, ← blockBody (← writtenCodes) fuel out)
  | _ => throw .corrupt

/-- Reads blocks up to the last one. The fuel bounds the number of blocks. -/
def blocks (symbols : Nat) : (fuel : Nat) → Array UInt8 → BitReader (Array UInt8)
  | 0, _ => throw .truncated
  | fuel + 1, out => do
    let (last, out) ← block symbols out
    if last then return out else blocks symbols fuel out

/-- The data of a deflate stream, and the bytes after the stream. -/
def inflate (bytes : List UInt8) : Except InflateError (List UInt8 × List UInt8) := do
  let fuel := 8 * bytes.length + 1
  let (out, bits) ← (blocks fuel fuel #[]).run ⟨[], bytes⟩
  return (out.toList, bits.rest)

end ResponseCheck.Gzip
