/-!
# UTF-8 byte sequences

A byte sequence is cut from the left into *pieces*: characters, and maximal runs of bytes that no
character starts with. A strict reader accepts a sequence whose pieces are all characters and
otherwise reports the first bad piece; a lenient reader puts the replacement character U+FFFD for
each bad piece.
-/

namespace ResponseCheck.Utf8

/-- One piece of a byte sequence. -/
inductive Piece where
  /-- A well-formed character. -/
  | char (c : Char)
  /-- A run of `size` bytes that belongs to no character. -/
  | invalid (size : Nat)
  /-- A character that is cut off by the end of the sequence after `size` bytes. -/
  | truncated (size : Nat)
deriving Repr, DecidableEq

/-- A continuation byte. -/
def isTail (b : UInt8) : Bool := 0x80 ≤ b && b ≤ 0xBF

/-- The second bytes that may follow the first byte of a character of two to four bytes. -/
def isSecond (a b : UInt8) : Bool :=
  if a == 0xE0 then 0xA0 ≤ b && b ≤ 0xBF
  else if a == 0xED then 0x80 ≤ b && b ≤ 0x9F
  else if a == 0xF0 then 0x90 ≤ b && b ≤ 0xBF
  else if a == 0xF4 then 0x80 ≤ b && b ≤ 0x8F
  else isTail b

/-- The six payload bits of a continuation byte. -/
def payload (b : UInt8) : Nat := b.toNat - 0x80

/-- Cuts a byte sequence into its pieces. -/
def pieces : List UInt8 → List Piece
  | [] => []
  | a :: s =>
    if a < 0x80 then .char (Char.ofNat a.toNat) :: pieces s
    else if a < 0xC2 || 0xF4 < a then .invalid 1 :: pieces s
    else match s with
      | [] => [.truncated 1]
      | b :: t =>
        if !isSecond a b then .invalid 1 :: pieces (b :: t)
        else if a < 0xE0 then
          .char (Char.ofNat ((a.toNat - 0xC0) * 64 + payload b)) :: pieces t
        else match t with
          | [] => [.truncated 2]
          | c :: u =>
            if !isTail c then .invalid 2 :: pieces (c :: u)
            else if a < 0xF0 then
              .char (Char.ofNat ((a.toNat - 0xE0) * 4096 + payload b * 64 + payload c)) :: pieces u
            else match u with
              | [] => [.truncated 3]
              | d :: v =>
                if !isTail d then .invalid 3 :: pieces (d :: v)
                else
                  .char (Char.ofNat ((a.toNat - 0xF0) * 262144 + payload b * 4096
                    + payload c * 64 + payload d)) :: pieces v

/-- A byte sequence that is not UTF-8, with the place of the first bad piece. -/
inductive Error where
  /-- The `size` bytes from `index` on belong to no character. -/
  | invalid (size index : Nat)
  /-- The sequence ends inside the character that starts at `index`. -/
  | truncated (index : Nat)
deriving Repr, DecidableEq

/-- Where the first bad piece starts. -/
def Error.index : Error → Nat
  | .invalid _ index => index
  | .truncated index => index

/-- The message of a decoding error. -/
def Error.message : Error → String
  | .invalid size index => s!"invalid utf-8 sequence of {size} bytes from index {index}"
  | .truncated index => s!"incomplete utf-8 byte sequence from index {index}"

/-- The characters of pieces that are all characters; `index` counts the bytes before them. -/
def charsOf (index : Nat) : List Piece → Except Error (List Char)
  | [] => .ok []
  | .char c :: rest => (c :: ·) <$> charsOf (index + c.utf8Size) rest
  | .invalid size :: _ => .error (.invalid size index)
  | .truncated _ :: _ => .error (.truncated index)

/-- The text that a byte sequence encodes. -/
def decode (bytes : List UInt8) : Except Error String :=
  String.ofList <$> charsOf 0 (pieces bytes)

/-- The text that a byte sequence encodes, with U+FFFD for each bad piece. -/
def decodeLossy (bytes : List UInt8) : String :=
  String.ofList <| (pieces bytes).map fun
    | .char c => c
    | .invalid _ => '\uFFFD'
    | .truncated _ => '\uFFFD'

/-- The UTF-8 bytes of a text. -/
def encode (text : String) : List UInt8 := text.toList.flatMap String.utf8EncodeChar

end ResponseCheck.Utf8
