import DesiredState.Text.Blank

/-!
# Faults and device failures

A pass that cannot go on ends in a *fault* of one of four kinds.  A device
reports a *failure*: a status code, a lost connection, a timeout or a payload
that cannot be decoded.  `Failure.fault` is the only place where a failure is
interpreted, and it turns every failure into a fault.
-/

namespace DesiredState

/-- Why a pass could not go on. -/
inductive Fault where
  /-- The caller's input is malformed or out of its declared range. -/
  | validation (subject detail : String)
  /-- The state of the device makes the requested change impossible. -/
  | precondition (detail : String)
  /-- The connection or the server failed in a way that may pass. -/
  | transient (status : Option Nat) (detail : String)
  /-- The device reported a failure, or a strict wait ran out. -/
  | fatal (detail : String)
deriving Inhabited, Repr, DecidableEq

namespace Fault

/-- The kind of a fault. -/
inductive Kind where
  | validation
  | precondition
  | transient
  | fatal
deriving Inhabited, Repr, DecidableEq

/-- The name of a kind of fault. -/
def Kind.name : Kind → String
  | .validation => "validation"
  | .precondition => "precondition"
  | .transient => "transient"
  | .fatal => "fatal"

/-- The kind of a fault. -/
def kind : Fault → Kind
  | .validation _ _ => .validation
  | .precondition _ => .precondition
  | .transient _ _ => .transient
  | .fatal _ => .fatal

/-- The text of a fault. -/
def message : Fault → String
  | .validation subject detail => s!"Invalid value for '{subject}': {detail}"
  | .precondition detail => detail
  | .transient status detail =>
      let shown := (status.map toString).getD "none"
      s!"Transient failure (status {shown}): {detail}"
  | .fatal detail => detail

/-- Whether the caller may try the same pass again. -/
def isRetryable (fault : Fault) : Bool :=
  fault.kind == .transient

end Fault

/-- The ways in which a device call can fail. -/
inductive Failure.Kind where
  /-- The device answered with a status code that is no success. -/
  | status
  /-- The management plane could not be reached. -/
  | unreachable
  | timeout
  /-- The device answered with a body that could not be decoded. -/
  | malformedPayload
deriving Inhabited, Repr, DecidableEq

/-- A failed device call, as the device reports it. -/
structure Failure where
  kind : Failure.Kind
  /-- The status code, if the device answered with one. -/
  status : Option Nat
  /-- The message of the device, if it sent one. -/
  detail : Option String
deriving Inhabited, Repr, DecidableEq

namespace Failure

/-- The name of a kind of failure. -/
def Kind.name : Kind → String
  | .status => "Status"
  | .unreachable => "Unreachable"
  | .timeout => "Timeout"
  | .malformedPayload => "MalformedPayload"

/-- The failure of a device that answered with a status code and a message. -/
def answered (status : Nat) (detail : Option String) : Failure :=
  ⟨.status, some status, detail⟩

/-- Whether the management plane was not reached at all. -/
def isUnreachable (failure : Failure) : Bool :=
  failure.kind == .unreachable || failure.kind == .timeout

/-- A failure as it is shown: its kind, then what is known of status and
message. -/
def display (failure : Failure) : String :=
  let status := (failure.status.map fun code => s!" {code}").getD ""
  let detail := (failure.detail.map fun text => s!": {text}").getD ""
  failure.kind.name ++ status ++ detail

/-- The message of the device, unless it is missing or blank. -/
def detailOr (failure : Failure) (fallback : String) : String :=
  match failure.detail with
  | some text => if Text.isBlankText text then fallback else text
  | none => fallback

/-- The fault that a failure amounts to.  A device that was not reached may be
there again later; a refusal by status code is judged by the code, and a
missing code counts as `0`. -/
def fault (failure : Failure) : Fault :=
  match failure.kind with
  | .unreachable | .timeout =>
      .transient none (failure.detailOr "device unreachable")
  | .malformedPayload =>
      .fatal (failure.detailOr "malformed response from device")
  | .status =>
      let status := failure.status.getD 0
      let detail := failure.detailOr s!"unexpected response with status {status}"
      if status == 400 || status == 422 then
        .validation "request" detail
      else if status == 404 || status == 409 then
        .precondition detail
      else if status == 500 || status == 502 || status == 503 || status == 504 then
        .transient (some status) detail
      else
        .fatal detail

end Failure
end DesiredState
