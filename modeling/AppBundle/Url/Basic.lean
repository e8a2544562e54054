import AppBundle.Text.Numeral
import AppBundle.Url.Percent

/-!
# URLs

A URL in its normal form, part by part. The path is kept as text: it begins with a slash, except
that the path of a URL without authority may be opaque, which is any other text, and that of a URL
with one may be empty.
-/

namespace AppBundle

open AppBundle.Text

/-- Who answers for a URL. -/
structure Url.Authority where
  /-- User name and password, encoded, with the sign that ends them. -/
  userinfo : List Char
  /-- The host in its normal form; empty if there is none. -/
  host : List Char
  /-- The number behind the host, unless it is the usual one of the scheme. -/
  number : Option Nat
  deriving Repr, DecidableEq

/-- A URL. -/
structure Url where
  /-- The scheme in small letters. -/
  scheme : List Char
  /-- The authority, if there is one. -/
  authority : Option Url.Authority
  /-- The path. -/
  path : List Char
  /-- The query without its mark. -/
  query : Option (List Char)
  /-- The fragment without its mark. -/
  fragment : Option (List Char)
  deriving Repr, DecidableEq

namespace Url

/-- The kinds of schemes. -/
inductive SchemeKind where
  /-- The scheme of files. -/
  | file
  /-- A scheme with a host and a usual number behind it. -/
  | special
  /-- Any other scheme. -/
  | other
  deriving Repr, DecidableEq

/-- The kind of a scheme. -/
def SchemeKind.of (scheme : List Char) : SchemeKind :=
  let s := String.ofList scheme
  if s = "file" then .file
  else if s ∈ ["http", "https", "ws", "wss", "ftp"] then .special
  else .other

/-- Whether a backslash counts as a slash. -/
def SchemeKind.isSpecial : SchemeKind → Bool
  | .other => false
  | _ => true

/-- The usual number behind the host of a scheme. -/
def usualNumber? (scheme : List Char) : Option Nat :=
  let s := String.ofList scheme
  if s = "http" || s = "ws" then some 80
  else if s = "https" || s = "wss" then some 443
  else if s = "ftp" then some 21
  else none

/-- The text of an authority. -/
def Authority.text (a : Authority) : List Char :=
  a.userinfo ++ a.host ++ match a.number with
    | some n => ':' :: numeral n
    | none => []

/-- A part behind its mark. -/
def marked (mark : Char) : Option (List Char) → List Char
  | none => []
  | some cs => mark :: cs

/-- The text of a URL. A path that begins with two slashes gets a point in front of it if no
authority stands before it, since it would be read as one. -/
def text (u : Url) : List Char :=
  let front := match u.authority with
    | some a => '/' :: '/' :: a.text
    | none =>
      match u.path with
      | '/' :: '/' :: _ => ['/', '.']
      | _ => []
  u.scheme ++ ':' :: front ++ u.path ++ marked '?' u.query ++ marked '#' u.fragment

/-- Whether the path has no segments, so that nothing but a fragment can be resolved against it. -/
def isOpaque (u : Url) : Bool :=
  u.authority.isNone && match u.path with
    | '/' :: _ => false
    | _ => true

end Url

end AppBundle
