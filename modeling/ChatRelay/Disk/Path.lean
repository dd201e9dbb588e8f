import ChatRelay.Text.Split

/-!
File paths. A path is a list of names between slashes, read from the working directory or from the root.
A name that consists of one dot says nothing, except at the start of a relative path, and two dots lead
to the directory above. A path with a slash or a dot behind its last name only fits a directory.
-/

namespace ChatRelay

structure Path where
  absolute : Bool
  names : List String
  mustBeDirectory : Bool
deriving DecidableEq

namespace Path

/-- The pieces of a path text that are not empty. -/
def pieces (text : String) : List String :=
  ((Text.splitWhere (· == '/') text.toList).filter fun piece => !piece.isEmpty).map String.ofList

def startsAtRoot (text : String) : Bool :=
  match text.toList with
  | '/' :: _ => true
  | _ => false

def endsWithSlash (text : String) : Bool :=
  match text.toList.reverse with
  | '/' :: _ => true
  | _ => false

/-- Read a path text. -/
def ofString (text : String) : Path :=
  let all := pieces text
  let names :=
    match startsAtRoot text, all with
    | false, "." :: rest => "." :: rest.filter (· != ".")
    | _, all => all.filter (· != ".")
  { absolute := startsAtRoot text
    names := names
    mustBeDirectory := endsWithSlash text || (all.getLast? == some "." && 1 < all.length) }

/-- The text of a path. -/
def text (p : Path) : String :=
  (if p.absolute then "/" else "") ++ String.intercalate "/" p.names ++
    (if p.mustBeDirectory then "/" else "")

/-- Whether a name stands for itself and not for the directory itself or the one above. -/
def isProper (name : String) : Bool := name != "." && name != ".."

/-- The last name of a path, if it names a file. -/
def fileName? (p : Path) : Option String := p.names.getLast?.filter isProper

/-- The directory that a path stands in. -/
def parent (p : Path) : Path := { p with names := p.names.dropLast, mustBeDirectory := false }

/-- The path with another last name. -/
def withFileName (p : Path) (name : String) : Path :=
  { p with names := p.names.dropLast ++ [name], mustBeDirectory := false }

end Path

end ChatRelay
