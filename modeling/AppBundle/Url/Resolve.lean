import AppBundle.Url.Host
import AppBundle.Url.Path

/-!
# Reading and resolving URLs

A reference is read alone or against a base. Alone it needs a scheme; against a base the parts that
it does not give are those of the base. Blanks and control characters around a reference are
dropped. Tabs and line ends inside it are gaps that count for nothing, except that in the path of a
file a drive letter in front of a gap is a whole segment.

The rules are those of the living URL standard: a backslash counts as a slash where the scheme is
special, and a special scheme takes any number of slashes before its host.
-/

namespace AppBundle.Url

open AppBundle.Text

/-- A reference without the blanks and control characters around it. -/
def trimmed (cs : List Char) : List Char :=
  let drop (c : Char) : Bool := c.toNat ≤ 32
  trimRight drop (trimLeft drop cs)

/-- A text without its gaps. -/
def solid (cs : List Char) : List Char :=
  cs.filter (!isGap ·)

/-- A character that a scheme may hold behind its first letter. -/
def isSchemeChar (c : Char) : Bool :=
  c.isAlphanum || c == '+' || c == '-' || c == '.'

/-- The scheme in front of a text, in small letters, and the text behind its colon. -/
def readScheme? : List Char → Option (List Char × List Char)
  | [] => none
  | c :: rest =>
    let within (c : Char) : Bool := isSchemeChar c || isGap c
    if c.isAlpha then
      match rest.dropWhile within with
      | ':' :: behind => some ((solid (c :: rest.takeWhile within)).map Char.toLower, behind)
      | _ => none
    else none

/-- A slash of either kind. -/
def isSlash (c : Char) : Bool :=
  c == '/' || c == '\\'

/-- A character that ends the path. -/
def endsPath (c : Char) : Bool :=
  c == '?' || c == '#'

/-- The URL with the query and fragment that a text writes. -/
def withTail (u : Url) (cs : List Char) : Url :=
  let part := if (SchemeKind.of u.scheme).isSpecial then Part.specialQuery else .query
  match solid cs with
  | '?' :: rest =>
    let query := part.encode (rest.takeWhile (· ≠ '#'))
    match rest.dropWhile (· ≠ '#') with
    | '#' :: fragment =>
      { u with query := some query, fragment := some (Part.fragment.encode fragment) }
    | _ => { u with query := some query, fragment := none }
  | '#' :: fragment => { u with query := none, fragment := some (Part.fragment.encode fragment) }
  | _ => { u with query := none, fragment := none }

/-- The URL with its path extended by a text, and the query and fragment behind it. -/
def extendPath (u : Url) (path cs : List Char) : Url :=
  let e := extend (SchemeKind.of u.scheme) ⟨path, true⟩ (cs.takeWhile (!endsPath ·))
  withTail { u with path := e.path } (cs.dropWhile (!endsPath ·))

/-! ## Authorities -/

/-- A character that ends the authority. -/
def endsAuthority (kind : SchemeKind) (c : Char) : Bool :=
  c == '/' || c == '?' || c == '#' || (kind.isSpecial && c == '\\')

/-- User name and password as they stand in a URL, with the sign that ends them; an empty password
is left out with its colon. -/
def userinfoText (cs : List Char) : List Char :=
  let name := Part.userinfo.encode (cs.takeWhile (· ≠ ':'))
  let password := Part.userinfo.encode ((cs.dropWhile (· ≠ ':')).drop 1)
  let text := if password.isEmpty then name else name ++ ':' :: password
  if text.isEmpty then [] else text ++ ['@']

/-- The user name and password before the last sign that can end them, and the text behind it; none
if they are empty and nothing follows. -/
def readUserinfo? (kind : SchemeKind) (cs : List Char) : Option (List Char × List Char) :=
  let authority := cs.takeWhile (!endsAuthority kind ·)
  if authority.contains '@' then
    let behind := (authority.reverse.takeWhile (· ≠ '@')).length
    let userinfo := authority.take (authority.length - behind - 1)
    let rest := cs.drop (authority.length - behind)
    match rest with
    | c :: _ =>
      if userinfo.isEmpty && endsAuthority kind c then none
      else some (userinfoText userinfo, rest)
    | [] => some (userinfoText userinfo, rest)
  else some ([], cs)

/-- The host in front of a text and the text behind it: a colon ends it except in brackets. -/
def splitHost (kind : SchemeKind) : Bool → List Char → List Char × List Char
  | _, [] => ([], [])
  | inside, c :: rest =>
    if (c = ':' && !inside) || endsAuthority kind c then ([], c :: rest)
    else
      let inside := if c = '[' then true else if c = ']' then false else inside
      let (host, behind) := splitHost kind inside rest
      (c :: host, behind)

/-- The number behind a host, unless it is the usual one, and the text behind it. -/
def readNumber? (scheme : List Char) : List Char → Option (Option Nat × List Char)
  | ':' :: rest =>
    let digits := rest.takeWhile Char.isDigit
    let behind := rest.dropWhile Char.isDigit
    match behind with
    | c :: _ =>
      if c ∈ ['/', '\\', '?', '#'] then number digits behind else none
    | [] => number digits behind
  | cs => some (none, cs)
where
  /-- The number that digits write. -/
  number (digits behind : List Char) : Option (Option Nat × List Char) :=
    match readDigits 65535 0 digits with
    | .error _ => none
    | .ok n =>
      some (if digits.isEmpty || some n = usualNumber? scheme then none else some n, behind)

/-- The URL behind the two slashes before its authority. -/
def readAuthority? (scheme cs : List Char) : Option Url := do
  let kind := SchemeKind.of scheme
  let (userinfo, cs) ← readUserinfo? kind cs
  let (hostText, behind) := splitHost kind false cs
  let host ← if kind.isSpecial then
      (if hostText.isEmpty then none else specialHost? hostText)
    else otherHost? hostText
  if host.isEmpty && (behind.head? = some ':' || !userinfo.isEmpty) then none
  let (number, cs) ← readNumber? scheme behind
  let u : Url := ⟨scheme, some ⟨userinfo, host, number⟩, [], none, none⟩
  match cs with
  | c :: rest =>
    if kind.isSpecial then
      return extendPath u ['/'] (if isSlash c then rest else cs)
    else if endsPath c then return withTail u cs
    else return extendPath u (if c = '/' then [] else ['/']) cs
  | [] => return extendPath u (if kind.isSpecial then ['/'] else []) []

/-! ## Files -/

/-- The URL of a file with no host. -/
def ofFilePath (path cs : List Char) : Url :=
  extendPath ⟨['f', 'i', 'l', 'e'], some ⟨[], [], none⟩, [], none, none⟩ path cs

/-- The URL of a file behind two slashes: a host, if there is one, and the path. A drive letter in
front of the path leaves no host. -/
def readFileHost? (cs : List Char) : Option Url := do
  let endsHost (c : Char) : Bool := isSlash c || endsPath c
  let hostText := solid (cs.takeWhile (!endsHost ·))
  if hostText.isEmpty || isDriveLetter hostText then return ofFilePath ['/'] cs
  let behind := cs.dropWhile (!endsHost ·)
  let host ← specialHost? hostText
  if host = ['l', 'o', 'c', 'a', 'l', 'h', 'o', 's', 't'] then return ofFilePath ['/'] behind
  let body := behind.takeWhile (!endsPath ·)
  let body := if (body.head?.map isSlash).getD false then body.drop 1 else body
  let e := extend .file ⟨['/'], true⟩ body
  let authority : Authority := ⟨[], if e.host then host else [], none⟩
  let u : Url := ⟨['f', 'i', 'l', 'e'], some authority, e.path, none, none⟩
  return withTail u (behind.dropWhile (!endsPath ·))

/-- The first segment of a path. -/
def firstSegment (path : List Char) : List Char :=
  (path.drop 1).takeWhile (· ≠ '/')

/-- The URL with another fragment. -/
def withFragment (u : Url) (cs : List Char) : Url :=
  { u with fragment := some (Part.fragment.encode (solid cs)) }

/-- The URL of a file behind its scheme, against a base that is the URL of a file. -/
def readFile? (base : Option Url) (cs : List Char) : Option Url :=
  match cs.dropWhile isGap with
  | [] =>
    match base with
    | some b => some { b with fragment := none }
    | none => some (ofFilePath ['/'] [])
  | c :: rest =>
    if isSlash c then
      match rest.dropWhile isGap with
      | d :: more => if isSlash d then readFileHost? more else some (rooted c rest)
      | [] => some (rooted c rest)
    else
      match base with
      | none => some (ofFilePath ['/'] cs)
      | some b =>
        if c = '?' then some (withTail b cs)
        else if c = '#' then some (withFragment b rest)
        else if startsWithDriveLetter (solid cs) then some (ofFilePath ['/'] cs)
        else some (extendPath b (dropSegment .file b.path) cs)
where
  /-- The URL of a file whose path begins with one slash: the host or the drive letter is that of
  the base. -/
  rooted (c : Char) (rest : List Char) : Url :=
    let plain := ofFilePath [] (c :: rest)
    if startsWithDriveLetter (solid rest) then plain
    else
      match base with
      | none => plain
      | some b =>
        let segment := firstSegment b.path
        if isNormalDriveLetter segment then ofFilePath ('/' :: segment) (c :: rest)
        else
          extendPath { b with authority := b.authority.map fun a => ⟨[], a.host, none⟩ } [] (c :: rest)

/-! ## References -/

/-- A reference without a scheme against a base that is not the URL of a file. -/
def readRelative? (base : Url) (cs : List Char) : Option Url :=
  let kind := SchemeKind.of base.scheme
  let cs := solid cs
  match cs with
  | [] => some { base with fragment := none }
  | '?' :: _ => some (withTail base cs)
  | '#' :: rest => some (withFragment base rest)
  | c :: rest =>
    if isSlash c then
      match rest with
      | d :: more =>
        if isSlash d then
          readAuthority? base.scheme
            (if c = '/' && d = '/' then more else cs.dropWhile isSlash)
        else some (extendPath base ['/'] rest)
      | [] => some (extendPath base ['/'] rest)
    else
      let path := dropSegment kind base.path
      some (extendPath base (if path.isEmpty then ['/'] else path) cs)

/-- The URL behind its scheme. -/
def readWithScheme? (base : Option Url) (scheme cs : List Char) : Option Url :=
  match SchemeKind.of scheme with
  | .file =>
    readFile? (match base with
      | some b => if b.scheme = scheme then some b else none
      | none => none) cs
  | .special =>
    let cs := solid cs
    let slashes := (cs.takeWhile isSlash).length
    let alone := readAuthority? scheme (cs.drop slashes)
    -- without two slashes, what names the scheme of the base is still relative to it
    match base with
    | some b => if slashes < 2 ∧ b.scheme = scheme then readRelative? b cs else alone
    | none => alone
  | .other =>
    let u : Url := ⟨scheme, none, [], none, none⟩
    let cs := solid cs
    match cs with
    | '/' :: '/' :: rest => readAuthority? scheme rest
    | '/' :: rest => some (extendPath u ['/'] rest)
    | _ =>
      some (withTail { u with path := Part.opaquePath.encode (cs.takeWhile (!endsPath ·)) }
        (cs.dropWhile (!endsPath ·)))

/-- The URL that a reference names, alone or against a base. -/
def read? (base : Option Url) (reference : List Char) : Option Url :=
  let cs := trimmed reference
  match readScheme? cs with
  | some (scheme, rest) => readWithScheme? base scheme rest
  | none => do
    let b ← base
    match cs with
    | '#' :: rest => return withFragment b rest
    | _ =>
      if b.isOpaque then none
      else if SchemeKind.of b.scheme = .file then readFile? (some b) cs
      else readRelative? b cs

/-- The URL that a text writes. -/
def parse? (s : String) : Option Url :=
  read? none s.toList

/-- The URL that a reference names against a base. -/
def resolve? (base : Url) (reference : String) : Option Url :=
  read? (some base) reference.toList

end AppBundle.Url
