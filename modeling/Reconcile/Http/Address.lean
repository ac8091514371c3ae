import Reconcile.Text.Percent

/-!
# Addresses on a host

A path and perhaps a query behind a question mark. `Address.ofText?` accepts a text whose
characters may stand in an address as they are; what follows a hash sign is not sent.
-/

namespace Reconcile.Http

/-- What is asked for on a host. -/
structure Address where
  path : String
  query : Option String
deriving DecidableEq

namespace Address

/-- Whether a character may stand in an address outside of `refused`. -/
def isAllowed (refused : List Char) (c : Char) : Bool := ' ' < c && !refused.contains c

/-- Whether a character may stand in a path. -/
def isPathChar : Char → Bool := isAllowed ['<', '>', '`']

/-- Whether a character may stand in a query. -/
def isQueryChar : Char → Bool := isAllowed ['"', '<', '>']

/-- Reads a path and perhaps a query. -/
def ofText? (text : String) : Option Address :=
  let sent := text.toList.takeWhile (· != '#')
  let path := sent.takeWhile (· != '?')
  if !path.all isPathChar then none
  else
    match sent.dropWhile (· != '?') with
    | [] => some ⟨String.ofList path, none⟩
    | _ :: query =>
      if query.all isQueryChar then some ⟨String.ofList path, some (String.ofList query)⟩ else none

/-- The text of an address. -/
def text (a : Address) : String :=
  match a.query with
  | none => a.path
  | some query => a.path ++ "?" ++ query

end Address

end Reconcile.Http
