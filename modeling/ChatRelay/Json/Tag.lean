import ChatRelay.Json.Reader

/-!
Names of plain alternatives in a JSON text. An alternative is written as its name in quotation marks, or
as an object whose only member is called by that name and is null.
-/

namespace ChatRelay.Json

namespace Reader

/-- The name of an alternative in either form. -/
def tag : Reader String := fun cs =>
  match skipSpace cs with
  | '"' :: rest => string rest
  | '\x7b' :: rest =>
      match skipSpace rest with
      | '"' :: rest =>
          match string rest with
          | none => none
          | some (name, rest) =>
              match skipSpace rest with
              | ':' :: rest =>
                  match skipSpace rest with
                  | 'n' :: 'u' :: 'l' :: 'l' :: rest =>
                      match skipSpace rest with
                      | '\x7d' :: rest => some (name, rest)
                      | _ => none
                  | _ => none
              | _ => none
      | _ => none
  | _ => none

end Reader

/-- The name that a JSON text gives, if it is the text of a plain alternative. -/
def parseTag? (s : String) : Option String :=
  match Reader.tag s.toList with
  | some (name, rest) => if (skipSpace rest).isEmpty then some name else none
  | none => none

end ChatRelay.Json
