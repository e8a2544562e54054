import AppBundle.Text.Lines
import AppBundle.Text.Numeral
import AppBundle.Url.Name
import AppBundle.Url.Percent

/-!
# Hosts of URLs

A host is written as a name, as an address of four bytes, or as an address of eight 16-bit pieces in
square brackets. Each has one normal form, which is what these functions return; none means that the
text is no host.
-/

namespace AppBundle.Url

open AppBundle.Text

/-! ## Addresses of four bytes -/

/-- The digits of a number in a given base. -/
def readBase? (base : Nat) (cs : List Char) : Option Nat :=
  cs.foldlM (fun n c => do
    let d ← hexDigitValue? c
    if d < base then some (n * base + d) else none) 0

/-- A number of an address: hexadecimal behind `0x`, octal behind a zero, else decimal. -/
def addressNumber? : List Char → Option Nat
  | [] => none
  | ['0'] => some 0
  | '0' :: 'x' :: rest => readBase? 16 rest
  | '0' :: 'X' :: rest => readBase? 16 rest
  | '0' :: rest => readBase? 8 rest
  | cs => readBase? 10 cs

/-- The parts of a name between its points, without an empty last one. -/
def labels (cs : List Char) : List (List Char) :=
  let parts := split '.' cs
  if parts.getLast? = some [] then parts.dropLast else parts

/-- Whether a name ends in a number, and so has to be an address. -/
def endsInNumber (cs : List Char) : Bool :=
  match (labels cs).getLast? with
  | none => false
  | some last => (!last.isEmpty && last.all Char.isDigit) || (addressNumber? last).isSome

/-- The four bytes of an address, the last number filling all bytes that are left. -/
def addressValue? (numbers : List Nat) : Option Nat :=
  match numbers.getLast? with
  | none => none
  | some last =>
    let leading := numbers.dropLast
    if leading.length > 3 ∨ leading.any (· > 255) ∨ last ≥ Nat.pow 256 (4 - leading.length) then
      none
    else some (leading.zipIdx.foldl (fun sum (n, i) => sum + n * Nat.pow 256 (3 - i)) last)

/-- An address of four bytes in its normal form. -/
def fourByteAddress? (cs : List Char) : Option (List Char) := do
  let numbers ← (labels cs).mapM addressNumber?
  let value ← addressValue? numbers
  return join ['.'] ([16777216, 65536, 256, 1].map fun unit => numeral (value / unit % 256))

/-! ## Addresses of eight pieces -/

/-- Up to four hexadecimal digits in front of a text. -/
def readPiece (cs : List Char) : Nat × List Char :=
  let digits := (cs.take 4).takeWhile fun c => (hexDigitValue? c).isSome
  ((readBase? 16 digits).getD 0, cs.drop digits.length)

/-- The last two pieces, written as an address of four bytes without leading zeros. -/
def tailPieces? (cs : List Char) : Option (Nat × Nat) := do
  let byte? (ds : List Char) : Option Nat := do
    if ds.isEmpty || !ds.all Char.isDigit || (ds.length > 1 && ds.head? = some '0') then none
    let n ← readBase? 10 ds
    if n ≤ 255 then some n else none
  match ← (split '.' cs).mapM byte? with
  | [a, b, c, d] => some (a * 256 + b, c * 256 + d)
  | _ => none

/-- The pieces that follow, and the place of the double colon if there is one; `n` pieces are read.
Every step takes at least one character, so the length of the text bounds their number. -/
def readPieces : Nat → Nat → Option Nat → List Char → Option (List Nat × Option Nat)
  | 0, _, _, _ => none
  | fuel + 1, n, gap, cs =>
    match cs with
    | [] => some ([], gap)
    | ':' :: rest =>
      if gap.isSome then none else readPieces fuel n (some n) rest
    | _ =>
      if n = 8 then none
      else
        let (value, rest) := readPiece cs
        let digits := cs.length - rest.length
        match rest with
        | '.' :: _ =>
          -- four decimal bytes stand for the last two pieces
          if digits = 0 ∨ n > 6 then none
          else do
            let (high, low) ← tailPieces? cs
            return ([high, low], gap)
        | ':' :: more =>
          if digits = 0 ∨ more.isEmpty then none
          else do
            let (pieces, gap) ← readPieces fuel (n + 1) gap more
            return (value :: pieces, gap)
        | [] => if digits = 0 then none else some ([value], gap)
        | _ => none

/-- The eight pieces of an address. -/
def pieces? (cs : List Char) : Option (List Nat) := do
  let (start, gap) ← match cs with
    | ':' :: ':' :: rest => some (rest, some 0)
    | ':' :: _ => none
    | _ => some (cs, none)
  let (pieces, gap) ← readPieces (cs.length + 2) 0 gap start
  match gap with
  | none => if pieces.length = 8 then some pieces else none
  | some at_ =>
    if pieces.length ≥ 8 then none
    else some (pieces.take at_ ++ List.replicate (8 - pieces.length) 0 ++ pieces.drop at_)

/-- The length of the run of zeros that begins here. -/
def zeroRun (pieces : List Nat) : Nat :=
  (pieces.takeWhile (· = 0)).length

/-- The first of the longest runs of at least two zeros. -/
def longestZeros (pieces : List Nat) : Option (Nat × Nat) :=
  let runs := (List.range pieces.length).map fun i => (i, zeroRun (pieces.drop i))
  runs.foldl (fun best (i, n) =>
    if n ≥ 2 ∧ n > (best.map (·.2)).getD 0 then some (i, n) else best) none

/-- The pieces in hexadecimal digits with colons between them. -/
def hexPieces (pieces : List Nat) : List Char :=
  join [':'] (pieces.map (Nat.toDigits 16))

/-- The normal form of eight pieces: the longest run of zeros is left out. -/
def piecesText (pieces : List Nat) : List Char :=
  match longestZeros pieces with
  | none => hexPieces pieces
  | some (i, n) => hexPieces (pieces.take i) ++ [':', ':'] ++ hexPieces (pieces.drop (i + n))

/-- A host in square brackets. -/
def bracketedHost? (cs : List Char) : Option (List Char) := do
  if cs.getLast? ≠ some ']' then none
  let pieces ← pieces? cs.dropLast
  return '[' :: piecesText pieces ++ [']']

/-! ## Hosts -/

/-- The host of a URL with a special scheme: escapes are read, and the name is written in small ASCII
letters. -/
def specialHost? : List Char → Option (List Char)
  | '[' :: rest => bracketedHost? rest
  | cs => do
    let name ← asciiName? (decodeLossy (decodePercent cs))
    if name.isEmpty then none
    if endsInNumber name then fourByteAddress? name else some name

/-- The host of a URL with any other scheme. -/
def otherHost? : List Char → Option (List Char)
  | '[' :: rest => bracketedHost? rest
  | cs => if cs.any isForbidden then none else some (Part.opaquePath.encode cs)

end AppBundle.Url
