import ChatRelay.Disk
import ChatRelay.Settings

/-!
Variables from a file of assignments. Every line assigns a value to a name, apart from blank lines and
comments. Quotation marks around a value are taken away. A variable that is already there keeps its
value, which also settles a name that is assigned twice.
-/

namespace ChatRelay.DotEnv

/-- The usual name of the file. -/
def fileName : String := ".env"

/-- A value without the quotation marks around it, if it starts and ends with the same one. -/
def unquote (value : List Char) : List Char :=
  match value with
  | mark :: rest =>
      if (mark = '"' || mark = '\'') && rest.getLast? = some mark then rest.dropLast else value
  | [] => []

/-- The assignment on a line, if there is one. -/
def assignment? (line : List Char) : Option (String × String) :=
  let line := Text.trimChars line
  if line.isEmpty || line.head? = some '#' then none
  else
    match Text.splitFirst '=' line with
    | none => none
    | some (key, value) =>
        let key := Text.trimChars key
        if key.isEmpty then none
        else some (String.ofList key, String.ofList (unquote (Text.trimChars value)))

/-- The assignments of a text, in order. -/
def assignments (text : String) : List (String × String) :=
  (Text.lines text).filterMap fun line => assignment? line.toList

/-- Add a variable that is not there yet. -/
def define (vars : Variables) (entry : String × String) : Variables :=
  match vars.get? entry.1 with
  | some _ => vars
  | none => vars ++ [entry]

/-- The variables with those that the text adds. -/
def load (vars : Variables) (text : String) : Variables := (assignments text).foldl define vars

/-- The variables with those that the file adds. A missing file adds none. -/
def loadFile [Monad m] (disk : Disk m) (vars : Variables) : m (Except Error Variables) := do
  let path := Path.ofString fileName
  if ← disk.isPresent path then
    match ← disk.readText path with
    | .error fault => return .error (.io fault.message)
    | .ok text => return .ok (load vars text)
  else return .ok vars

end ChatRelay.DotEnv
