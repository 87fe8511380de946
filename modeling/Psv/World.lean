import Psv.Interaction.Checks
import Psv.Python.Value

/-!
# The world a psv process talks to

Everything the modelled programs obtain from outside is the answer to a
question: a JSON-RPC call through the client, a signature from the facilitator
account, the clock, and random identifiers.  A JSON-RPC answer is the result
value `RpcClient.call` returns or the text of the `RpcError` it raises; nothing
else is assumed about it.
-/

namespace Psv

open Python Interaction

/-- The exceptions that matter, with their messages. -/
inductive PyError where
  | rpcError (message : String)
  | chainEvidenceError (message : String)
  | reconciliationError (message : String)
  | settlementSafetyError (message : String)
  | sutAdapterError (message : String)
  | svmEvidenceError (message : String)
  | valueError (message : String)
  | typeError (message : String)
  | keyError (message : String)
  | attributeError (message : String)
  | overflowError (message : String)
  deriving DecidableEq

/-- `except RpcError` also catches its subclass `ChainEvidenceError`. -/
def PyError.isRpcError : PyError → Bool
  | .rpcError _ | .chainEvidenceError _ => true
  | _ => false

/-- An error that is a `ValueError`. -/
def PyError.IsValueError (error : PyError) : Prop := ∃ message, error = .valueError message

/-- The transaction dictionary handed to the facilitator account for signing. -/
structure Transaction where
  toAddress : Str
  data : Str
  value : ℕ
  gas : ℤ
  gasPrice : ℤ
  nonce : ℤ
  chainId : ℤ
  deriving DecidableEq

/-- A `datetime` as far as psv reads it: whether it has a time zone, and the text of
`astimezone(UTC).isoformat()`, which an instant at the end of the calendar does not have. -/
structure DateTime where
  aware : Bool
  utcText : Except PyError Str

/-- The questions a process asks. -/
inductive Ask where
  | rpc (method : String) (params : List Value)
  | sign (transaction : Transaction)
  | clock
  | now
  | tokenHex (bytes : ℕ)

/-- The answers: a result or the text of an `RpcError`; the raw signed transaction or the
exception of the signer; whole seconds since the epoch, which lies in the past; the date; random
hexadecimal text. -/
def Ask.Answer : Ask → Type
  | .rpc _ _ => Except String Value
  | .sign _ => Except PyError Str
  | .clock => { seconds : ℤ // 0 < seconds }
  | .now => DateTime
  | .tokenHex _ => String

/-- The interface between a process and its world. -/
def interface : Signature := ⟨Ask, Ask.Answer⟩

/-- A world answers in view of everything asked before. -/
abbrev World : Type := Environment interface

/-- Everything a process has asked its world, with the answers. -/
abbrev Conversation : Type := History interface

/-- A psv computation with local state `σ`. -/
abbrev Proc (σ α : Type) : Type := Program interface σ PyError α

/-- A JSON-RPC exchange as it appears in a history. -/
def exchange (method : String) (params : List Value) (answer : Except String Value) :
    Σ question : interface.Ask, interface.Answer question :=
  ⟨Ask.rpc method params, answer⟩

end Psv
