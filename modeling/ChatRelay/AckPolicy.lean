import ChatRelay.Error
import ChatRelay.Text.Blank
import ChatRelay.Text.LowerCase

/-!
Whether an item whose processing failed is acknowledged all the same.
-/

namespace ChatRelay

inductive AckPolicy where
  /-- Every item is acknowledged. -/
  | always
  /-- An item that failed is left to be delivered again. -/
  | onSuccess
deriving DecidableEq

namespace AckPolicy

def all : List AckPolicy := [.always, .onSuccess]

/-- The policy where none is named. -/
def standard : AckPolicy := .always

def name : AckPolicy → String
  | .always => "always"
  | .onSuccess => "on-success"

def ofName? (name : String) : Option AckPolicy := all.find? fun policy => policy.name == name

/-- The policy that a text names, in letters of any case and with space around it. -/
def ofText (text : String) : Except Error AckPolicy :=
  let word := Text.lower (Text.trim text)
  match ofName? word with
  | some policy => .ok policy
  | none => .error (.config (.unknownAckPolicy word))

end AckPolicy

end ChatRelay
