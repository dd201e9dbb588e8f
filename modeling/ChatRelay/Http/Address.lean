import ChatRelay.Text.Integer
import ChatRelay.Text.Split

/-!
Addresses of resources that are reached over a plain connection. Other kinds of addresses are not read,
and neither are those that hold characters which an address has to encode.
-/

namespace ChatRelay.Http

/-- The host and the port to connect to, and the path to ask for. -/
structure Address where
  host : String
  port : Nat
  path : String
deriving DecidableEq

namespace Address

/-- The start of an address that is reached over a plain connection. -/
def scheme : List Char := "http://".toList

/-- The port where none is given. -/
def standardPort : Nat := 80

/-- The greatest port. -/
def maxPort : Nat := 65535

/-- The characters that stand for themselves in an address. -/
def isPlain (c : Char) : Bool := 0x21 ≤ c.toNat && c.toNat ≤ 0x7E

/-- The characters of a host's name or number. -/
def isHostChar (c : Char) : Bool := c.isAlphanum || c = '.' || c = '-'

/-- The host and the port in front of the path. -/
def authority? (cs : List Char) : Option (String × Nat) :=
  let host := cs.takeWhile isHostChar
  if host.isEmpty then none
  else
    match cs.dropWhile isHostChar with
    | [] => some (String.ofList host, standardPort)
    | ':' :: digits =>
        ((Text.digits? digits).filter fun port => port ≤ maxPort).map fun port =>
          (String.ofList host, port)
    | _ => none

/-- Read an address. -/
def ofUrl? (url : String) : Option Address :=
  let cs := url.toList
  let start := (cs.take scheme.length).map Char.toLower
  if start != scheme || !cs.all isPlain then none
  else
    let rest := cs.drop scheme.length
    let path := rest.dropWhile (· != '/')
    (authority? (rest.takeWhile (· != '/'))).map fun place =>
      { host := place.1
        port := place.2
        path := if path.isEmpty then "/" else String.ofList path }

end Address

end ChatRelay.Http
