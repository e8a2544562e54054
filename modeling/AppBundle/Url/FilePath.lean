import AppBundle.Text.Lines
import AppBundle.Url.Basic

/-!
# File paths and URLs

An absolute file path as a URL, and the file path that a URL names. Repeated slashes and single
points between them count for nothing in a path; two points stay, since only the file system knows
what they mean.
-/

namespace AppBundle

open AppBundle.Text

/-- The parts of a file path that count. -/
def pathParts (path : List Char) : List (List Char) :=
  (split '/' path).filter fun part => !(part.isEmpty || part == ['.'])

/-- The folder that holds what an absolute path names; none for the root. Slashes and single points
at the end of a path count for nothing. -/
def parentPath? (path : List Char) : Option (List Char) :=
  let open_ (cs : List (List Char)) : List (List Char) :=
    cs.dropWhile fun part => part.isEmpty || part == ['.']
  match open_ (split '/' path).reverse with
  | [] => none
  | _ :: above =>
    match open_ above with
    | [] => some ['/']
    | kept => some (join ['/'] kept.reverse)

namespace Url

/-- The URL of an absolute file path. -/
def ofPath (path : List Char) : Url :=
  let parts := pathParts path
  let text :=
    if parts.isEmpty then ['/'] else parts.flatMap fun part => '/' :: Part.segment.encode part
  ⟨['f', 'i', 'l', 'e'], some ⟨[], [], none⟩, text, none, none⟩

/-- The file path that a URL names: its segments with their escapes read. A URL with a host names no
file here, nor does one without segments. A path that ends in a drive letter gets a slash. -/
def filePath? (u : Url) : Option (List Char) :=
  let host := (u.authority.map (·.host)).getD []
  match u.path with
  | '/' :: rest =>
    if host.isEmpty || host = ['l', 'o', 'c', 'a', 'l', 'h', 'o', 's', 't'] then
      let bytes := (split '/' rest).flatMap fun segment => 47 :: decodePercent segment
      let path := decodeLossy bytes
      match path.reverse with
      | m :: c :: _ :: _ =>
        some (if c.isAlpha && (m == ':' || m == '|') then path ++ ['/'] else path)
      | _ => some path
    else none
  | _ => none

end Url

end AppBundle
