import AppBundle.Text.Search
import AppBundle.Url.FilePath
import AppBundle.Url.Resolve

/-!
# References of an app file

An app file is known by its *source id*, a file path or a URL. What its scripts refer to is resolved
against it: a reference with a scheme of its own stays as it is, and every other one is joined to
the URL of the app file. A scheme of one letter is no scheme but the letter of a drive.
-/

namespace AppBundle

open AppBundle.Text

/-- Whether a reference carries a scheme. -/
def carriesScheme (reference : String) : Bool :=
  match Url.parse? reference with
  | some u => u.scheme.length > 1
  | none => false

/-- The URL of an app file. A relative path is taken from the root folder. -/
def sourceUrl? (sourceId : String) : Option Url :=
  if carriesScheme sourceId then Url.parse? sourceId else some (Url.ofPath sourceId.toList)

/-- The place of the last slash of either kind. -/
def splitFolder? (cs : List Char) : Option (List Char) :=
  match cs.reverse.dropWhile (!Url.isSlash ·) with
  | [] => none
  | _ :: front => some front.reverse

/-- The folder part of a path or URL, without the slash that ends it. -/
def folderOf (sourceId : String) : String :=
  match splitFolder? sourceId.toList with
  | none => "."
  | some [] => "/"
  | some front => String.ofList front

/-- The text without the marks of the present folder in front of it. -/
def dropHere : List Char → List Char
  | '.' :: '/' :: rest => dropHere rest
  | cs => cs

/-- A reference put behind the folder of an app file. -/
def joinFolder (sourceId reference : String) : String :=
  if beginsWith "/" reference then reference
  else folderOf sourceId ++ "/" ++ String.ofList (dropHere reference.toList)

/-- A reference resolved against an app file. Where URLs cannot be joined, paths are. -/
def absoluteReference (sourceId reference : String) : String :=
  if carriesScheme reference then reference
  else
    match (sourceUrl? sourceId).bind (Url.resolve? · reference) with
    | some u => String.ofList u.text
    | none => joinFolder sourceId reference

/-- The file path of an app file, if it is a file. -/
def localPath? (sourceId : String) : Option String :=
  if carriesScheme sourceId then
    ((Url.parse? sourceId).bind Url.filePath?).map String.ofList
  else some sourceId

/-- The URL of an app file as text. -/
def sourceUrlText (sourceId : String) : String :=
  match sourceUrl? sourceId with
  | some u => String.ofList u.text
  | none => sourceId

/-- The folder of an app file: of its file path if it has one. -/
def sourceFolder (sourceId : String) : String :=
  match ((sourceUrl? sourceId).bind Url.filePath?).bind parentPath? with
  | some folder => String.ofList folder
  | none => folderOf sourceId

end AppBundle
