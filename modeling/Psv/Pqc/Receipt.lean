import Psv.Document.Keys
import Psv.Document.Encoding
import Psv.Interaction.Program

/-!
# Version 2 receipts

`pqc/__init__.py`: the canonical payload of a receipt and its verification under
the policy that both signatures must hold.  The cryptographic backend is a
provider outside of this development; what it is asked and what it answers is
the conversation of a run.  A receipt that is nested deeper than the stack allows
for is a `RecursionError` of the reader here; the copy and the encoder, which
could raise it as well, only ever stop a verification.
-/

namespace Psv

open Python Interaction Program Document

namespace Pqc

/-- Receipt-specific findings. -/
inductive FindingKind where
  | unverifiableReceipt
  | nakedReceipt
  deriving DecidableEq

/-- Outcome of the optional receipt-verification stage. -/
inductive VerificationStatus where
  | disabled
  | verified
  | failed
  deriving DecidableEq

/-- Trusted policy configuration; PQC is disabled unless explicitly enabled. -/
structure PqcConfig where
  enabled : Bool
  provider : String

/-- Verification verdict while preserving the caller's exact input bytes. -/
structure ReceiptVerification where
  status : VerificationStatus
  receiptBytes : Bytes
  finding : Option FindingKind
  detail : Text

/-- The exceptions of a verification: the three that it turns into a finding, and the rest. -/
inductive ReceiptError where
  | valueError (detail : Text)
  | keyError (detail : Text)
  | providerUnavailable (detail : Text)
  | uncaught (typeName : String)
  deriving DecidableEq

/-- What a verification asks of its backend. -/
inductive ProviderAsk where
  | load (name : String)
  | ecdsaP256Sha256 (publicKey message signature : Bytes)
  | mldsa65 (publicKey message signature : Bytes)

def ProviderAsk.Answer : ProviderAsk → Type
  | .load _ => Except ReceiptError Unit
  | .ecdsaP256Sha256 _ _ _ => Except ReceiptError Bool
  | .mldsa65 _ _ _ => Except ReceiptError Bool

def backend : Signature := ⟨ProviderAsk, ProviderAsk.Answer⟩

/-- A verification in progress. -/
abbrev Verification (α : Type) : Type := Program backend Unit ReceiptError α

/-- `b"PSV-RECEIPT-V2\x00"` -/
def domain : Bytes := utf8 ("PSV-RECEIPT-V2".toList ++ [Char.ofNat 0])

def classicalAlg : Text := "ECDSA-P256-SHA256".toText

def pqcAlg : Text := "ML-DSA-65".toText

/-- The texts that switch the policy on. -/
def trueValues : List Str := ["1".toList, "true".toList, "yes".toList, "on".toList]

/-- `raise ValueError(detail)` -/
def valueError (detail : String) : ReceiptError := .valueError detail.toText

section Config

variable [Interpreter]

/-- Read `PSV_PQC` without accepting ambiguous truthy values; an unset variable is empty. -/
def PqcConfig.fromEnv (setting : Str) : PqcConfig :=
  ⟨trueValues.contains (lower (stripText setting)), "cryptography"⟩

end Config

section Payload

variable {φ : Type}

/-- `entry["signature"] = ""` in one of the two entries. -/
def blankSignature (sigV2 : Members φ) (name : String) : Except ReceiptError (Members φ) :=
  match sigV2.lookup name.toText with
  | some (.object entry) =>
      .ok (setMember sigV2 name.toText
        (.object (setMember entry "signature".toText (.str .empty))))
  | _ => .error (valueError s!"sig_v2.{name} must be an object")

/-- Copy a receipt and blank only the two signature values. -/
def unsignedReceipt (receipt : Members φ) : Except ReceiptError (Members φ) :=
  match receipt.lookup "sig_v2".toText with
  | some (.object sigV2) => do
      let classicalBlank ← blankSignature sigV2 "classical"
      let blank ← blankSignature classicalBlank "pqc"
      return setMember receipt "sig_v2".toText (.object blank)
  | _ => .error (valueError "sig_v2 must be an object")

/-- `key.isascii()` -/
def isAscii (key : Text) : Bool := key.points.all fun point => decide (point.toNat < 128)

mutual

/-- Reject values whose cross-language canonical encoding would be ambiguous. -/
def validateJsonProfile : Document φ → Except ReceiptError Unit
  | .object members => validateMembers members
  | .list items => validateItems items
  | .float _ =>
      .error (valueError "receipt numbers must be integers; decimal amounts use strings")
  | _ => .ok ()

def validateItems : List (Document φ) → Except ReceiptError Unit
  | [] => .ok ()
  | item :: items => do
      validateJsonProfile item
      validateItems items

def validateMembers : List (Text × Document φ) → Except ReceiptError Unit
  | [] => .ok ()
  | (key, value) :: members => do
      refuse (isAscii key = false) (valueError "receipt object keys must be ASCII strings")
      validateJsonProfile value
      validateMembers members

end

/-- Build a JSON object while rejecting duplicate member names. -/
def uniqueObject : Hook φ := fun pairs => go [] pairs
where
  go (result : Members φ) : Members φ → Except ReadError (Members φ)
    | [] => .ok result
    | (key, value) :: pairs =>
        if key ∈ result.map Prod.fst then .error (.refused key)
        else go (result ++ [(key, value)]) pairs

variable [FloatText φ]

/-- The domain-separated canonical bytes covered by both signatures. -/
def canonicalReceiptPayload (receipt : Members φ) : Except ReceiptError Bytes := do
  let unsigned ← unsignedReceipt receipt
  validateJsonProfile (.object unsigned)
  let text ← orRaise (dumps .unicode (sortKeys (.object unsigned)))
    (valueError "receipt is not canonicalizable JSON")
  return domain ++ utf8 text

end Payload

/-! ### Signatures -/

/-- The six bits of a character of the URL-safe or the ordinary alphabet. -/
def sextetOf (c : Char) : Option ℕ :=
  if 'A' ≤ c ∧ c ≤ 'Z' then some (c.toNat - 'A'.toNat)
  else if 'a' ≤ c ∧ c ≤ 'z' then some (c.toNat - 'a'.toNat + 26)
  else if '0' ≤ c ∧ c ≤ '9' then some (c.toNat - '0'.toNat + 52)
  else if c = '-' ∨ c = '+' then some 62
  else if c = '_' ∨ c = '/' then some 63
  else none

def sextet : Point → Option ℕ
  | .char c => sextetOf c
  | _ => none

/-- Four characters make three bytes; a group of two or three at the end makes one or two. -/
def fromSextets : List ℕ → Option Bytes
  | [] => some []
  | [_] => none
  | [a, b] => some [UInt8.ofNat (a * 4 + b / 16)]
  | [a, b, c] => some [UInt8.ofNat (a * 4 + b / 16), UInt8.ofNat (b % 16 * 16 + c / 4)]
  | a :: b :: c :: d :: rest =>
      (fromSextets rest).map fun others =>
        UInt8.ofNat (a * 4 + b / 16) :: UInt8.ofNat (b % 16 * 16 + c / 4) ::
          UInt8.ofNat (c % 4 * 64 + d) :: others

section Verify

variable {φ : Type}

/-- Decode the format's strict unpadded Base64url representation. -/
def decodeSignature (value : Document φ) : Except ReceiptError Bytes :=
  match value with
  | .str text => do
      refuse (text = .empty ∨ .char '=' ∈ text.points)
        (valueError "signature must be non-empty unpadded base64url")
      orRaise ((text.points.mapM sextet).bind fromSextets)
        (valueError "signature is not valid base64url")
  | _ => .error (valueError "signature must be non-empty unpadded base64url")

/-- `set(members) == names` -/
def hasExactly (members : Members φ) (names : List String) : Bool :=
  (members.all fun member => (names.map String.toText).contains member.1) &&
    names.all fun name => (members.map Prod.fst).contains name.toText

/-- `members[name]`, known to be there. -/
def member (members : Members φ) (name : String) : Document φ :=
  (members.lookup name.toText).getD .null

/-- `alg == algorithm` -/
def requireAlg (alg : Document φ) (name : String) (algorithm : Text) : Except ReceiptError Unit :=
  match alg with
  | .str text =>
      refuse (text ≠ algorithm) (valueError s!"sig_v2.{name}.alg is not registered for receipt v2")
  | _ => .error (valueError s!"sig_v2.{name}.alg is not registered for receipt v2")

/-- A non-empty key identifier of at most 128 characters. -/
def requireKid (kid : Document φ) (name : String) : Except ReceiptError Text :=
  match kid with
  | .str text => do
      refuse (text = .empty ∨ 128 < text.points.length) (valueError s!"sig_v2.{name}.kid is invalid")
      return text
  | _ => .error (valueError s!"sig_v2.{name}.kid is invalid")

/-- Validate one closed signature entry and return its key ID and bytes. -/
def signatureEntry (sigV2 : Members φ) (name : String) (algorithm : Text) :
    Except ReceiptError (Text × Bytes) :=
  match sigV2.lookup name.toText with
  | some (.object entry) => do
      refuse (hasExactly entry ["alg", "kid", "signature"] = false)
        (valueError s!"sig_v2.{name} has an invalid structure")
      requireAlg (member entry "alg") name algorithm
      let kid ← requireKid (member entry "kid") name
      let signature ← decodeSignature (member entry "signature")
      return (kid, signature)
  | _ => .error (valueError s!"sig_v2.{name} has an invalid structure")

/-- Trusted public keys by their identifier. -/
abbrev Registry : Type := Text → Option Bytes

variable [FloatText φ]

/-- `version != 2`, which a float can equal. -/
def requireVersion (version : Document φ) : Except ReceiptError Unit :=
  match version with
  | .int n => refuse (n ≠ 2) (valueError "sig_v2.version must be 2")
  | .float (.finite x) =>
      refuse (FloatText.equalsInt x 2 = false) (valueError "sig_v2.version must be 2")
  | _ => .error (valueError "sig_v2.version must be 2")

/-- What becomes of an exception of `json.loads`. -/
def readFailure : ReadError → ReceiptError
  | .malformed => valueError "malformed JSON"
  | .longInteger => valueError "Exceeds the limit (4300 digits) for integer string conversion"
  | .tooDeep => .uncaught "RecursionError"
  | .refused key => .valueError ("duplicate JSON member: ".toText ++ key)

variable [Interpreter]

/-- `json.loads(receipt_bytes, object_pairs_hook=_unique_object)` -/
def loadReceipt (receiptBytes : Bytes) : Except ReceiptError (Document φ) := do
  let text ← orRaise (decodeJsonBytes receiptBytes) (valueError "invalid Unicode")
  Except.mapError readFailure (loadsWith uniqueObject Interpreter.readLevels text)

/-- `registry[kid]` -/
def trustedKey (registry : Registry) (kid : Text) : Except ReceiptError Bytes :=
  orRaise (registry kid) (.keyError (.ofStr (Interpreter.reprText kid)))

/-- What is established about a receipt with `sig_v2` before the backend is asked: the keys and
signatures, and the payload. -/
structure Prepared where
  classicalKey : Bytes
  classicalSignature : Bytes
  pqcKey : Bytes
  pqcSignature : Bytes
  payload : Bytes

def prepare (classicalKeys pqcKeys : Registry) (receipt : Members φ) (sigV2 : Document φ) :
    Except ReceiptError Prepared :=
  match sigV2 with
  | .object sigV2 => do
      refuse (hasExactly sigV2 ["version", "classical", "pqc"] = false)
        (valueError "sig_v2 has an invalid structure")
      requireVersion (member sigV2 "version")
      let (classicalKid, classicalSignature) ← signatureEntry sigV2 "classical" classicalAlg
      let (pqcKid, pqcSignature) ← signatureEntry sigV2 "pqc" pqcAlg
      let classicalKey ← trustedKey classicalKeys classicalKid
      let pqcKey ← trustedKey pqcKeys pqcKid
      refuse (classicalKey.length ≠ 65 ∨ pqcKey.length ≠ 1952 ∨ pqcSignature.length ≠ 3309)
        (valueError "hybrid key or ML-DSA-65 signature has an invalid length")
      let payload ← canonicalReceiptPayload receipt
      return ⟨classicalKey, classicalSignature, pqcKey, pqcSignature, payload⟩
  | _ => .error (valueError "sig_v2 has an invalid structure")

/-- Load the backend when none was handed in. -/
def loadProvider (policy : PqcConfig) (given : Bool) : Verification Unit :=
  if given then pure ()
  else do
    let loaded ← question (S := backend) (.load policy.provider)
    lift loaded

/-- Both signatures over the payload. -/
def verifySignatures (prepared : Prepared) : Verification Unit := do
  let classicalAnswer ← question (S := backend)
    (.ecdsaP256Sha256 prepared.classicalKey prepared.payload prepared.classicalSignature)
  let classicalValid ← lift classicalAnswer
  let pqcAnswer ← question (S := backend)
    (.mldsa65 prepared.pqcKey prepared.payload prepared.pqcSignature)
  let pqcValid ← lift pqcAnswer
  lift (refuse ((classicalValid && pqcValid) = false)
    (valueError "hybrid verification requires both signatures to be valid"))

/-- The finding that an exception becomes. -/
def failure (receiptBytes : Bytes) : ReceiptError → Verification ReceiptVerification
  | .valueError detail | .keyError detail | .providerUnavailable detail =>
      pure ⟨.failed, receiptBytes, some .unverifiableReceipt, detail⟩
  | .uncaught typeName => .raise (.uncaught typeName)

/-- Verify both receipt signatures when trusted configuration enables PQC.  The flag says whether
the caller hands in a provider. -/
def verifyReceipt (φ : Type) [FloatText φ] (receiptBytes : Bytes) (classicalKeys pqcKeys : Registry)
    (policy : PqcConfig) (given : Bool) : Verification ReceiptVerification :=
  if policy.enabled = false then pure ⟨.disabled, receiptBytes, none, .empty⟩
  else
    handle (do
      let decoded : Document φ ← lift (loadReceipt receiptBytes)
      match decoded with
      | .object receipt =>
          match receipt.lookup "sig_v2".toText with
          | none | some .null =>
              pure ⟨.failed, receiptBytes, some .nakedReceipt, "PQC policy requires sig_v2".toText⟩
          | some sigV2 => do
              let prepared ← lift (prepare classicalKeys pqcKeys receipt sigV2)
              loadProvider policy given
              verifySignatures prepared
              pure ⟨.verified, receiptBytes, none, .empty⟩
      | _ => .raise (valueError "receipt must be a JSON object")) (failure receiptBytes)

end Verify

end Pqc

end Psv
