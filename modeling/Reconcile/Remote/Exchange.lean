import Reconcile.Failure
import Reconcile.Http.Host
import Reconcile.Json.Parser

/-!
# Exchanges with a host

Calls whose answers are values, one after another. A host refuses a call by a status of 400 to 599;
it tells why by a value, and where that cannot be read the status and the quoted text are all that
is known.
-/

namespace Reconcile.Remote

open Http

/-- Why a call was refused. -/
structure Refusal where
  code : Nat
  reason : String
  message : String

namespace Refusal

/-- Reads a text that may be missing and is then empty. -/
def textOr (v : Option Json) : Option String :=
  match v with
  | none => some ""
  | some v => v.string?

/-- Reads a code of 16 bits. -/
def code? : Json → Option Nat
  | .number (.integer z) => if 0 ≤ z.val ∧ z.val < 0x10000 then some z.val.toNat else none
  | _ => none

/-- Reads a refusal, by names or as a list in the order of status, message, reason and code. -/
def ofJson? : Json → Option Refusal
  | .object members => do
    let _ ← Fields.string? "status" members
    let message ← textOr (Fields.get? "message" members)
    let reason ← textOr (Fields.get? "reason" members)
    return ⟨← code? (← Fields.get? "code" members), reason, message⟩
  | .array [.string _, .string message, .string reason, code] => do return ⟨← code? code, reason, message⟩
  | _ => none

/-- The refusal in a response, if it is one. -/
def ofResponse? (r : Response) : Option Refusal :=
  if r.status < 400 ∨ 600 ≤ r.status then none
  else
    some (((Json.parse? r.text).bind ofJson?).getD
      ⟨r.status, "Failed to parse error data", Text.quoted r.text⟩)

/-- A refusal by its class. -/
def error (r : Refusal) : ApiError := .ofStatus r.code r.reason r.message

end Refusal

/-- Steps that may fail and change the state of a host. -/
abbrev Exchange (σ α : Type) : Type := ExceptT ApiError (StateM σ) α

/-- What is not as the protocol has it. -/
def misunderstood : ApiError := .other (.layer .kube)

namespace Exchange

variable {σ α : Type}

/-- A value that must be there. -/
def need (v : Option α) : Exchange σ α := ExceptT.mk (pure (match v with
  | some a => .ok a
  | none => .error misunderstood))

/-- The value that a host answers a call with. -/
def send (host : Host σ) (method : Method) (address : String) (content : Option (MediaType × Json)) :
    Exchange σ Json := do
  let address ← need (Address.ofText? address)
  let response ← (host.respond ⟨method, address, content⟩ : StateM σ Response)
  match Refusal.ofResponse? response with
  | some refusal => throw refusal.error
  | none => need (Json.parse? response.text)

/-- The value that a host has at an address. -/
def fetch (host : Host σ) (address : String) : Exchange σ Json := send host .get address none

end Exchange

end Reconcile.Remote
