/-
  Path segments.

  Segments are added to a path one at a time.  Two of them are instructions rather than names: `.`
  stays where it is and `..` goes up one level, and both may be written with `%2e`.  At the end of
  a path they leave an empty segment behind.

  A segment that is a letter and a colon or bar looks like the name of a drive.  Going up never
  leaves a drive, and at the front of a `file` path a drive is written with a colon, ends its
  segment at once, and makes the host meaningless.
-/
import LeaseKeeper.Url.Basic

namespace LeaseKeeper.Url

/-- The two spellings of a point. -/
def dotTexts : List (List Char) := ["." , "%2e", "%2E"].map String.toList

/-- A segment that stays where it is. -/
def isSingleDot (s : List Char) : Bool := dotTexts.contains s

/-- A segment that goes up. -/
def isDoubleDot (s : List Char) : Bool := dotTexts.any fun a => dotTexts.any fun b => s == a ++ b

/-- A letter and a colon or bar. -/
def isDrive : List Char → Bool
  | [a, b] => a.isAlpha && (b == ':' || b == '|')
  | _ => false

/-- One level up; a drive is not left. -/
def goUp (segments : List String) : List String :=
  match segments.getLast? with
  | none => []
  | some s => if isDrive s.toList then segments else segments.dropLast

/-- **A path under construction**: its segments so far, and whether a drive has been met that makes
    the host meaningless. -/
structure Descent where
  segments : List String
  dropsHost : Bool := false
  deriving DecidableEq, Repr

/-- **Add one encoded segment.**  `isLast` says that no slash follows it. -/
def Descent.add (kind : SchemeKind) (d : Descent) (s : List Char) (isLast : Bool) : Descent :=
  let atDrive := kind == .file && d.segments.isEmpty
  let leave (segments : List String) : Descent :=
    { d with segments := if isLast then segments ++ [""] else segments }
  match s with
  | a :: ':' :: x :: rest =>
    if atDrive && a.isAlpha then
      { d with segments := [String.ofList [a, ':'], String.ofList (x :: rest)] }
    else if isDoubleDot s then leave (goUp d.segments)
    else if isSingleDot s then leave d.segments
    else { d with segments := d.segments ++ [String.ofList s] }
  | _ =>
    if isDoubleDot s then leave (goUp d.segments)
    else if isSingleDot s then leave d.segments
    else if atDrive && isDrive s then
      { segments := [String.ofList (s.take 1 ++ [':'])], dropsHost := true }
    else { d with segments := d.segments ++ [String.ofList s] }

/-- Add several encoded segments, of which the last ends the path. -/
def Descent.addAll (kind : SchemeKind) (d : Descent) : List (List Char) → Descent
  | [] => d
  | [s] => d.add kind s true
  | s :: rest => (d.add kind s false).addAll kind rest

/-- A `file` path has no empty segments at its front. -/
def dropEmptyFront (kind : SchemeKind) (segments : List String) : List String :=
  if kind = .file then
    match segments.dropWhile (· == "") with
    | [] => [""]
    | rest => rest
  else segments

/-- The pieces of a text between slashes. -/
def splitSlashes (kind : SchemeKind) (cs : List Char) : List (List Char) :=
  cs.splitOnP kind.isSlash

/-- **The path that a text spells**, its first slash already passed. -/
def descend (kind : SchemeKind) (cs : List Char) : Descent :=
  let d := Descent.addAll kind ⟨[], false⟩ ((splitSlashes kind cs).map (percentEncode inPath))
  { d with segments := dropEmptyFront kind d.segments }

/-! ## Changing a URL -/

/-- **Put another path in place.**  `names` are the segments of the new path, in written form.  A URL
    without hierarchy gets them as one text whose first slash is encoded. -/
def withPath (u : Url) (names : List String) : Url :=
  match u.path with
  | .rootless _ =>
    { u with path := .rootless ("%2F" ++ "/".intercalate names) }
  | .segments _ => { u with path := .segments names }

/-- **Name another port.**  A URL without host and a `file` URL cannot carry one; the default port of
    the scheme is not written. -/
def withPort? (u : Url) (port : UInt16) : Option Url :=
  if !u.hasHost || u.kind = .file then none
  else some { u with port := if defaultPort? u.scheme = some port then none else some port }

/-- A name as a segment: tabs and line breaks vanish, the rest is encoded so that the name stays one
    segment. -/
def encodeSegment (kind : SchemeKind) (name : String) : List Char :=
  percentEncode (if kind.isSpecial then inSpecialSegment else inSegment)
    (name.toList.filter fun c => !(c == '\t' || c == '\n' || c == '\r'))

/-- Add a name below a path.  Names that are points are passed over. -/
def pushName (kind : SchemeKind) (segments : List String) (name : String) : List String :=
  if name = "." ∨ name = ".." then segments
  else
    let below := if segments = [""] then [] else segments
    dropEmptyFront kind (Descent.add kind ⟨below, false⟩ (encodeSegment kind name) true).segments

/-- A path without the empty segment at its end. -/
def dropEmptyEnd (segments : List String) : List String :=
  if 1 < segments.length ∧ segments.getLast? = some "" then segments.dropLast else segments

/-- **The URL of something below**: `names` are added to the path, in place of an empty segment at its
    end.  `none` if the URL has no hierarchy. -/
def below? (u : Url) (names : List String) : Option Url :=
  match u.path with
  | .rootless _ => none
  | .segments segments =>
    some { u with path := .segments (names.foldl (pushName u.kind) (dropEmptyEnd segments)) }

end LeaseKeeper.Url
