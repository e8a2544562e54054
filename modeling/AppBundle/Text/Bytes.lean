/-!
# Byte offsets

Positions in a text are byte offsets into its UTF-8 form. A text is still a list of characters; an
offset is reached by walking characters and adding up their widths, and an offset inside a character
is no position at all.

The other direction reads bytes as text: a valid byte string is one text, and a byte string that is
not valid is read with every broken sequence replaced.
-/

namespace AppBundle.Text

/-- The number of bytes of a text. -/
def byteLength : List Char → Nat
  | [] => 0
  | c :: rest => c.utf8Size + byteLength rest

/-- The text before and from a byte offset; none if the offset lies inside a character or behind the
end. -/
def cutAt? : Nat → List Char → Option (List Char × List Char)
  | 0, cs => some ([], cs)
  | _ + 1, [] => none
  | n + 1, c :: rest =>
    if c.utf8Size ≤ n + 1 then
      (cutAt? (n + 1 - c.utf8Size) rest).map fun (front, back) => (c :: front, back)
    else none

/-- Whether a byte offset is a position between two characters of the text. -/
def isBoundary (offset : Nat) (cs : List Char) : Bool :=
  (cutAt? offset cs).isSome

/-- The text between two byte offsets. -/
def slice? (start stop : Nat) (cs : List Char) : Option (List Char) := do
  let (_, back) ← cutAt? start cs
  let (middle, _) ← cutAt? (stop - start) back
  if start ≤ stop then some middle else none

/-- The bytes of a character. -/
def encodeChar (c : Char) : List UInt8 :=
  String.utf8EncodeChar c

/-- The bytes of a text. -/
def encode (cs : List Char) : List UInt8 :=
  cs.flatMap encodeChar

/-- The character that stands for a broken byte sequence. -/
def replacement : Char := '\uFFFD'

/-- A byte that continues a character. -/
def isContinuation (b : UInt8) : Bool :=
  b &&& 0xC0 == 0x80

/-- Whether a byte may stand second after a given first byte: the bounds shut out overlong forms,
surrogates and code points above the last. -/
def maySecond (first second : UInt8) : Bool :=
  if first == 0xE0 then 0xA0 ≤ second && second ≤ 0xBF
  else if first == 0xED then 0x80 ≤ second && second ≤ 0x9F
  else if first == 0xF0 then 0x90 ≤ second && second ≤ 0xBF
  else if first == 0xF4 then 0x80 ≤ second && second ≤ 0x8F
  else isContinuation second

/-- The first character of a byte string and the rest. A broken sequence gives the `broken`
character for its longest part that could still have begun a character. -/
def decodeChar (broken : Char) (b : UInt8) (rest : List UInt8) : Char × List UInt8 :=
  let low (x : UInt8) : Nat := x.toNat % 64
  if b < 0x80 then (Char.ofNat b.toNat, rest)
  else if 0xC2 ≤ b && b ≤ 0xDF then
    -- two bytes
    match rest with
    | b1 :: r1 =>
      if isContinuation b1 then (Char.ofNat (b.toNat % 32 * 64 + low b1), r1) else (broken, rest)
    | [] => (broken, [])
  else if 0xE0 ≤ b && b ≤ 0xEF then
    -- three bytes
    match rest with
    | b1 :: r1 =>
      if maySecond b b1 then
        match r1 with
        | b2 :: r2 =>
          if isContinuation b2 then
            (Char.ofNat (b.toNat % 16 * 4096 + low b1 * 64 + low b2), r2)
          else (broken, r1)
        | [] => (broken, [])
      else (broken, rest)
    | [] => (broken, [])
  else if 0xF0 ≤ b && b ≤ 0xF4 then
    -- four bytes
    match rest with
    | b1 :: r1 =>
      if maySecond b b1 then
        match r1 with
        | b2 :: r2 =>
          if isContinuation b2 then
            match r2 with
            | b3 :: r3 =>
              if isContinuation b3 then
                (Char.ofNat (b.toNat % 8 * 262144 + low b1 * 4096 + low b2 * 64 + low b3), r3)
              else (broken, r2)
            | [] => (broken, [])
          else (broken, r1)
        | [] => (broken, [])
      else (broken, rest)
    | [] => (broken, [])
  else (broken, rest)

/-- The characters of a byte string, at most `fuel` of them. -/
def decodeLoop (broken : Char) : Nat → List UInt8 → List Char
  | 0, _ => []
  | _ + 1, [] => []
  | fuel + 1, b :: rest =>
    let (c, more) := decodeChar broken b rest
    c :: decodeLoop broken fuel more

/-- The text of a byte string, with `broken` in place of every broken sequence. Each character takes
at least one byte, so the length of the byte string bounds the number of characters. -/
def decodeWith (broken : Char) (bytes : List UInt8) : List Char :=
  decodeLoop broken bytes.length bytes

/-- The text of a byte string, with the replacement character in place of every broken sequence. -/
def decodeLossy (bytes : List UInt8) : List Char :=
  decodeWith replacement bytes

/-- The text of a byte string, if it is valid. -/
def decode? (bytes : List UInt8) : Option String :=
  String.fromUTF8? (ByteArray.mk bytes.toArray)

end AppBundle.Text
