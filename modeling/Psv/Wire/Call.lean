import Psv.Anvil
import Psv.Divergence

/-!
# One JSON-RPC call on the wire

`RpcClient.call` numbers its request, hands it to a transport and judges what
comes back.  The transport is an arbitrary environment: it may answer any value,
replay an old one, or raise.  `boundedJson` walks over the whole answer; what it
accepts is described by the height and the parts of a value
(`boundedJson_eq_ok_iff`).
-/

namespace Psv

open Python Interaction Program

namespace Wire

def maxRpcObjectFields : ℕ := 256
def maxRpcStringChars : ℕ := 2 * 1024 * 1024
def maxRpcDepth : ℕ := 16

/-- `math.isfinite(value)` -/
def isFinite : Float64 → Bool
  | .finite _ _ => true
  | _ => false

/-! ### Bounds of a value -/

def checkDepth (what : String) (depth : ℕ) : Except PyError Unit :=
  refuse (maxRpcDepth < depth) (.rpcError s!"{what}: JSON nesting exceeds {maxRpcDepth}")

mutual

/-- Reject resource-exhaustion shapes even for injected transports. -/
def boundedJson (what : String) (depth : ℕ) : Value → Except PyError Unit
  | .null => checkDepth what depth
  | .bool _ => checkDepth what depth
  | .int _ => checkDepth what depth
  | .float value => do
      checkDepth what depth
      refuse (isFinite value = false) (.rpcError s!"{what}: non-finite JSON number")
  | .str text => do
      checkDepth what depth
      refuse (maxRpcStringChars < text.length) (.rpcError s!"{what}: string exceeds size limit")
  | .list items => do
      checkDepth what depth
      refuse (Anvil.maxRpcListItems < items.length)
        (.rpcError s!"{what}: list exceeds item limit")
      boundedItems what (depth + 1) items
  | .dict fields => do
      checkDepth what depth
      refuse (maxRpcObjectFields < fields.length)
        (.rpcError s!"{what}: object exceeds field limit")
      boundedFields what (depth + 1) fields
  | .other typeName => do
      checkDepth what depth
      .error (.rpcError s!"{what}: unsupported JSON value {typeName}")

def boundedItems (what : String) (depth : ℕ) : List Value → Except PyError Unit
  | [] => .ok ()
  | item :: items => do
      boundedJson what depth item
      boundedItems what depth items

def boundedFields (what : String) (depth : ℕ) : List (Key × Value) → Except PyError Unit
  | [] => .ok ()
  | (key, item) :: fields => do
      match key with
      | .str _ => .ok ()
      | .other _ => .error (.rpcError s!"{what}: object key is not a string")
      boundedJson what depth item
      boundedFields what depth fields

end

mutual

/-- The levels of nesting below a value. -/
def height : Value → ℕ
  | .list items => heightItems items
  | .dict fields => heightFields fields
  | _ => 0

/-- One more than the largest height, or zero. -/
def heightItems : List Value → ℕ
  | [] => 0
  | item :: items => max (height item + 1) (heightItems items)

def heightFields : List (Key × Value) → ℕ
  | [] => 0
  | (_, item) :: fields => max (height item + 1) (heightFields fields)

end

mutual

/-- A value and everything inside it. -/
def parts : Value → List Value
  | .list items => .list items :: partsItems items
  | .dict fields => .dict fields :: partsFields fields
  | value => [value]

def partsItems : List Value → List Value
  | [] => []
  | item :: items => parts item ++ partsItems items

def partsFields : List (Key × Value) → List Value
  | [] => []
  | (_, item) :: fields => parts item ++ partsFields fields

end

/-- A single value of a JSON type within the limits, whatever is inside it. -/
def IsSound : Value → Prop
  | .null | .bool _ | .int _ => True
  | .float value => isFinite value = true
  | .str text => text.length ≤ maxRpcStringChars
  | .list items => items.length ≤ Anvil.maxRpcListItems
  | .dict fields => fields.length ≤ maxRpcObjectFields ∧ ∀ field ∈ fields, ∃ name, field.1 = .str name
  | .other _ => False

/-- All parts are sound, and they are nested at most `levels` deep. -/
structure Bounded (levels : ℕ) (value : Value) : Prop where
  height : height value ≤ levels
  parts : ∀ part ∈ parts value, IsSound part

theorem checkDepth_eq_ok_iff {what : String} {depth : ℕ} {result : Unit} :
    checkDepth what depth = .ok result ↔ depth ≤ maxRpcDepth := by
  rw [checkDepth, refuse_eq_ok_iff, not_lt]

mutual

theorem boundedJson_iff (what : String) (depth : ℕ) :
    ∀ value, boundedJson what depth value = .ok () ↔
      depth + height value ≤ maxRpcDepth ∧ ∀ part ∈ parts value, IsSound part
  | .null => by simp [boundedJson, checkDepth_eq_ok_iff, height, parts, IsSound]
  | .bool _ => by simp [boundedJson, checkDepth_eq_ok_iff, height, parts, IsSound]
  | .int _ => by simp [boundedJson, checkDepth_eq_ok_iff, height, parts, IsSound]
  | .float _ => by
      simp [boundedJson, Checks.bind_eq_ok_iff, checkDepth_eq_ok_iff, height, parts, IsSound]
  | .str _ => by
      simp [boundedJson, Checks.bind_eq_ok_iff, checkDepth_eq_ok_iff, height, parts, IsSound]
  | .list items => by
      have inside := boundedItems_iff what (depth + 1) items
      simp only [boundedJson, Checks.bind_eq_ok_iff, checkDepth_eq_ok_iff, exists_const,
        refuse_eq_ok_iff, not_lt, inside, height, parts, List.mem_cons, forall_eq_or_imp, IsSound]
      constructor
      · rintro ⟨shallow, short, nested, sound⟩
        refine ⟨?_, short, sound⟩
        rcases Nat.eq_zero_or_pos (heightItems items) with flat | positive
        · omega
        · have := nested positive
          omega
      · rintro ⟨nested, short, sound⟩
        exact ⟨by omega, short, fun _ => by omega, sound⟩
  | .dict fields => by
      have inside := boundedFields_iff what (depth + 1) fields
      simp only [boundedJson, Checks.bind_eq_ok_iff, checkDepth_eq_ok_iff, exists_const,
        refuse_eq_ok_iff, not_lt, inside, height, parts, List.mem_cons, forall_eq_or_imp, IsSound]
      constructor
      · rintro ⟨shallow, few, nested, keys, sound⟩
        refine ⟨?_, ⟨few, keys⟩, sound⟩
        rcases Nat.eq_zero_or_pos (heightFields fields) with flat | positive
        · omega
        · have := nested positive
          omega
      · rintro ⟨nested, ⟨few, keys⟩, sound⟩
        exact ⟨by omega, few, fun _ => by omega, keys, sound⟩
  | .other _ => by
      simp [boundedJson, Checks.bind_eq_ok_iff, parts, IsSound]

theorem boundedItems_iff (what : String) (depth : ℕ) :
    ∀ items, boundedItems what depth items = .ok () ↔
      (0 < heightItems items → depth + heightItems items ≤ maxRpcDepth + 1) ∧
        ∀ part ∈ partsItems items, IsSound part
  | [] => by simp [boundedItems, heightItems, partsItems]
  | item :: items => by
      have first := boundedJson_iff what depth item
      have rest := boundedItems_iff what depth items
      simp only [boundedItems, Checks.bind_eq_ok_iff, exists_const, first, rest, heightItems,
        partsItems, List.mem_append, or_imp, forall_and]
      constructor
      · rintro ⟨⟨nested, sound⟩, others, soundOthers⟩
        refine ⟨?_, sound, soundOthers⟩
        intro _
        rcases Nat.eq_zero_or_pos (heightItems items) with flat | positive
        · omega
        · have := others positive
          omega
      · rintro ⟨nested, sound, soundOthers⟩
        have := nested (by omega)
        exact ⟨⟨by omega, sound⟩, fun _ => by omega, soundOthers⟩

theorem boundedFields_iff (what : String) (depth : ℕ) :
    ∀ fields, boundedFields what depth fields = .ok () ↔
      (0 < heightFields fields → depth + heightFields fields ≤ maxRpcDepth + 1) ∧
        (∀ field ∈ fields, ∃ name, field.1 = .str name) ∧
        ∀ part ∈ partsFields fields, IsSound part
  | [] => by simp [boundedFields, heightFields, partsFields]
  | (.str name, item) :: fields => by
      have first := boundedJson_iff what depth item
      have rest := boundedFields_iff what depth fields
      simp only [boundedFields, Checks.bind_eq_ok_iff, exists_const, first, rest, heightFields,
        partsFields, List.mem_append, or_imp, forall_and, List.mem_cons, forall_eq]
      constructor
      · rintro ⟨_, ⟨nested, sound⟩, others, keys, soundOthers⟩
        refine ⟨?_, ⟨⟨name, rfl⟩, keys⟩, sound, soundOthers⟩
        intro _
        rcases Nat.eq_zero_or_pos (heightFields fields) with flat | positive
        · omega
        · have := others positive
          omega
      · rintro ⟨nested, ⟨_, keys⟩, sound, soundOthers⟩
        have := nested (by omega)
        exact ⟨trivial, ⟨by omega, sound⟩, fun _ => by omega, keys, soundOthers⟩
  | (.other name, item) :: fields => by
      simp [boundedFields, Checks.bind_eq_ok_iff]

end

/-! ### Calls -/

/-- The request object of a call. -/
structure Request where
  id : ℕ
  method : String
  params : List Value

/-- What a transport does: it returns a value, raises an `RpcError`, or raises another exception,
of which only `str(exc)` is used; that can raise in turn. -/
inductive Reply where
  | returned (value : Value)
  | rpcError (message : String)
  | raised (text : Except PyError String)

/-- The interface between the client and its transport. -/
def wire : Signature := ⟨Request, fun _ => Reply⟩

/-- Judge the error object of a response; there is always something to raise. -/
def raiseError (method : String) : Value → Except PyError Value
  | .dict error =>
      match getField error "code", getField error "message" with
      | .int code, .str message => do
          let shown ← showInt code
          .error (.rpcError s!"{method}: RPC error {shown}: {String.ofList message}")
      | _, _ => .error (.rpcError s!"{method}: malformed error object")
  | _ => .error (.rpcError s!"{method}: malformed error object")

/-- `value == number` for a value that has to be an integer, and not a Boolean. -/
def isId (id : ℕ) : Value → Bool
  | .int value => decide (value = id)
  | _ => false

def isVersion : Value → Bool
  | .str text => decide (text = "2.0".toList)
  | _ => false

/-- Validate the envelope of a response and take out its result. -/
def openEnvelope (method : String) (id : ℕ) (response : Value) : Except PyError Value := do
  boundedJson s!"{method} response" 0 response
  match response with
  | .dict fields => do
      refuse (isVersion (getField fields "jsonrpc") = false)
        (.rpcError s!"{method}: response has invalid jsonrpc version")
      refuse (isId id (getField fields "id") = false)
        (.rpcError s!"{method}: response id does not match request")
      refuse (hasField fields "result" = hasField fields "error")
        (.rpcError s!"{method}: response must contain exactly one of result/error")
      if hasField fields "error" then raiseError method (getField fields "error")
      else return getField fields "result"
  | _ => .error (.rpcError s!"{method}: response must be a JSON object")

/-- What a call makes of the reply to its request. -/
def judge (method : String) (id : ℕ) : Reply → Except PyError Value
  | .returned response => openEnvelope method id response
  | .rpcError message => .error (.rpcError message)
  | .raised text => do
      let shown ← text
      .error (.rpcError s!"{method}: transport failure: {shown}")

/-- Call one JSON-RPC method; the state is the number of the last request. -/
def call (method : String) (params : List Value) : Program wire ℕ PyError Value := do
  modify (· + 1)
  let id ← state
  let reply ← question (S := wire) ⟨id, method, params⟩
  lift (judge method id reply)

/-- Any number of calls on one client, with the outcome of each. -/
def session : List (String × List Value) → Program wire ℕ PyError (List (Except PyError Value))
  | [] => pure []
  | (method, params) :: calls => do
      let outcome ← (call method params).attempt
      let outcomes ← session calls
      return outcome :: outcomes

/-! ### What a call accepts -/

/-- The reply is the response to this very request, with a bounded result. -/
structure Answers (request : Request) (reply : Reply) (value : Value) : Prop where
  response : ∃ fields, reply = .returned (.dict fields) ∧
    getField fields "jsonrpc" = .str "2.0".toList ∧ getField fields "id" = .int request.id ∧
    hasField fields "error" = false ∧ fields.lookup (.str "result") = some value
  bounded : Bounded (maxRpcDepth - 1) value

/-- The reply cannot be turned into a message: it is an error object for this request whose code
has too many digits, or an exception without a text. -/
def Unprintable (request : Request) (reply : Reply) : Prop :=
  (∃ error, reply = .raised (.error error) ∧ ∀ message, error ≠ .rpcError message) ∨
    ∃ fields error code message, reply = .returned (.dict fields) ∧
      Bounded maxRpcDepth (.dict fields) ∧ getField fields "jsonrpc" = .str "2.0".toList ∧
      getField fields "id" = .int request.id ∧ hasField fields "result" = false ∧
      fields.lookup (.str "error") = some (.dict error) ∧ getField error "code" = .int code ∧
      getField error "message" = .str message ∧ 10 ^ maxStrDigits ≤ code.natAbs

theorem isId_iff {id : ℕ} {value : Value} : isId id value = true ↔ value = .int id := by
  cases value <;> simp [isId]

theorem isVersion_iff {value : Value} : isVersion value = true ↔ value = .str "2.0".toList := by
  cases value <;> simp [isVersion]

theorem boundedJson_zero_iff {what : String} {value : Value} {result : Unit} :
    boundedJson what 0 value = .ok result ↔ Bounded maxRpcDepth value := by
  rw [boundedJson_iff, zero_add]
  exact ⟨fun ⟨low, sound⟩ => ⟨low, sound⟩, fun bounded => ⟨bounded.height, bounded.parts⟩⟩

theorem lookup_of_hasField {fields : Fields} {name : String} (has : hasField fields name = true) :
    fields.lookup (.str name) = some (getField fields name) := by
  rcases Option.isSome_iff_exists.mp has with ⟨value, found⟩
  rw [getField, found]
  rfl

theorem hasField_of_lookup {fields : Fields} {name : String} {value : Value}
    (found : fields.lookup (.str name) = some value) :
    hasField fields name = true ∧ getField fields name = value := by
  rw [hasField, getField, found]
  exact ⟨rfl, rfl⟩

/-- A member of a bounded object is bounded, one level below. -/
theorem bounded_of_lookup {fields : Fields} {key : Key} {value : Value} {levels : ℕ}
    (bounded : Bounded (levels + 1) (.dict fields)) (found : fields.lookup key = some value) :
    Bounded levels value := by
  have inside : height value + 1 ≤ heightFields fields ∧
      ∀ part ∈ parts value, part ∈ partsFields fields := by
    clear bounded
    induction fields with
    | nil => cases found
    | cons field fields ih =>
        rcases field with ⟨other, item⟩
        rw [List.lookup_cons] at found
        rw [heightFields, partsFields]
        split at found
        · cases found
          exact ⟨le_max_left _ _, fun part mem => List.mem_append_left _ mem⟩
        · rcases ih found with ⟨low, listed⟩
          exact ⟨low.trans (le_max_right _ _), fun part mem =>
            List.mem_append_right _ (listed part mem)⟩
  have low := bounded.height
  rw [height] at low
  constructor
  · omega
  · intro part mem
    exact bounded.parts part (by simp [parts, inside.2 part mem])

/-- An accepted reply answers the request. -/
theorem answers_of_judge {request : Request} {reply : Reply} {value : Value}
    (accepted : judge request.method request.id reply = .ok value) :
    Answers request reply value := by
  cases reply with
  | rpcError message => cases accepted
  | raised text =>
      rcases text with error | shown
      · cases accepted
      · cases accepted
  | returned response =>
      rcases Checks.bind_eq_ok_iff.mp accepted with ⟨_, bounded, opened⟩
      rw [boundedJson_zero_iff] at bounded
      cases response with
      | dict fields =>
          simp only [Checks.bind_eq_ok_iff, refuse_eq_ok_iff, exists_const, Bool.not_eq_false,
            isVersion_iff, isId_iff] at opened
          rcases opened with ⟨version, isId, exactlyOne, opened⟩
          split at opened
          · unfold raiseError at opened
            split at opened
            · split at opened
              · rcases Checks.bind_eq_ok_iff.mp opened with ⟨_, _, impossible⟩
                cases impossible
              · cases opened
            · cases opened
          · rename_i noError
            cases opened
            have noError : hasField fields "error" = false := by simpa using noError
            have result : hasField fields "result" = true := by
              rw [noError] at exactlyOne
              simpa using exactlyOne
            have found := lookup_of_hasField result
            exact ⟨⟨fields, rfl, version, isId, noError, found⟩, bounded_of_lookup bounded found⟩
      | _ => cases opened

/-- The computation only ever raises an `RpcError`. -/
def OnlyRpcError {α : Type} (computation : Except PyError α) : Prop :=
  ∀ error, computation = .error error → ∃ message, error = .rpcError message

theorem OnlyRpcError.bind {α β : Type} {computation : Except PyError α}
    {next : α → Except PyError β} (first : OnlyRpcError computation)
    (rest : ∀ value, computation = .ok value → OnlyRpcError (next value)) :
    OnlyRpcError (computation >>= next) := by
  rcases computation with error | value
  · rintro _ ⟨⟩
    exact first error rfl
  · exact rest value rfl

theorem onlyRpcError_ok {α : Type} {value : α} : OnlyRpcError (.ok value) := by
  rintro _ ⟨⟩

theorem onlyRpcError_rpcError {α : Type} {message : String} :
    OnlyRpcError (.error (.rpcError message) : Except PyError α) := by
  rintro _ ⟨⟩
  exact ⟨message, rfl⟩

theorem onlyRpcError_refuse {condition : Prop} [Decidable condition] {message : String} :
    OnlyRpcError (refuse condition (.rpcError message)) := by
  unfold refuse
  split
  · exact onlyRpcError_rpcError
  · exact onlyRpcError_ok

mutual

theorem onlyRpcError_boundedJson (what : String) (depth : ℕ) :
    ∀ value, OnlyRpcError (boundedJson what depth value)
  | .null => onlyRpcError_refuse
  | .bool _ => onlyRpcError_refuse
  | .int _ => onlyRpcError_refuse
  | .float _ => onlyRpcError_refuse.bind fun _ _ => onlyRpcError_refuse
  | .str _ => onlyRpcError_refuse.bind fun _ _ => onlyRpcError_refuse
  | .list items => onlyRpcError_refuse.bind fun _ _ =>
      onlyRpcError_refuse.bind fun _ _ => onlyRpcError_boundedItems what (depth + 1) items
  | .dict fields => onlyRpcError_refuse.bind fun _ _ =>
      onlyRpcError_refuse.bind fun _ _ => onlyRpcError_boundedFields what (depth + 1) fields
  | .other _ => onlyRpcError_refuse.bind fun _ _ => onlyRpcError_rpcError

theorem onlyRpcError_boundedItems (what : String) (depth : ℕ) :
    ∀ items, OnlyRpcError (boundedItems what depth items)
  | [] => onlyRpcError_ok
  | item :: items => (onlyRpcError_boundedJson what depth item).bind fun _ _ =>
      onlyRpcError_boundedItems what depth items

theorem onlyRpcError_boundedFields (what : String) (depth : ℕ) :
    ∀ fields, OnlyRpcError (boundedFields what depth fields)
  | [] => onlyRpcError_ok
  | (.str _, item) :: fields => (onlyRpcError_boundedJson what depth item).bind fun _ _ =>
      onlyRpcError_boundedFields what depth fields
  | (.other _, _) :: _ => onlyRpcError_rpcError

end

theorem onlyRpcError_raiseError {method : String} {error : Value}
    (printable : ∀ fields code message, error = .dict fields →
      getField fields "code" = .int code → getField fields "message" = .str message →
      code.natAbs < 10 ^ maxStrDigits) : OnlyRpcError (raiseError method error) := by
  unfold raiseError
  split
  · rename_i fields
    split
    · rename_i code message isCode isMessage
      rcases showInt_isOk (printable fields code message rfl isCode isMessage) with ⟨shown, shows⟩
      rw [shows]
      exact onlyRpcError_rpcError
    · exact onlyRpcError_rpcError
  · exact onlyRpcError_rpcError

/-- What is not accepted ends in an `RpcError`, unless it has no message. -/
theorem onlyRpcError_judge_iff {request : Request} {reply : Reply} :
    OnlyRpcError (judge request.method request.id reply) ↔ ¬Unprintable request reply := by
  constructor
  · rintro only (⟨error, rfl, other⟩ | ⟨fields, error, code, message, rfl, bounded, version, id,
      noResult, isError, isCode, isMessage, long⟩)
    · rcases only error rfl with ⟨message, same⟩
      exact other message same
    · have hasError := hasField_of_lookup isError
      have raises : judge request.method request.id (.returned (.dict fields)) =
          .error (.valueError "Exceeds the limit (4300 digits) for integer string conversion") := by
        have walked : boundedJson s!"{request.method} response" 0 (.dict fields) = .ok () :=
          boundedJson_zero_iff.mpr bounded
        have isVersion : ¬isVersion (getField fields "jsonrpc") = false := by
          rw [Bool.not_eq_false, isVersion_iff]
          exact version
        have isId : ¬isId request.id (getField fields "id") = false := by
          rw [Bool.not_eq_false, isId_iff]
          exact id
        have exactlyOne : ¬hasField fields "result" = true := by simp [noResult]
        have unshown : showInt code =
            .error (.valueError "Exceeds the limit (4300 digits) for integer string conversion")
            := by
          simp [showInt, intStr, not_lt.mpr long, orRaise, Except.map]
        simp only [judge, openEnvelope, walked, Checks.ok_bind, refuse_of_fails isVersion,
          refuse_of_fails isId, refuse_of_fails exactlyOne, hasError.1, if_true, hasError.2,
          raiseError, isCode, isMessage, unshown]
        rfl
      rcases only _ raises with ⟨message, impossible⟩
      cases impossible
  · intro printable
    cases reply with
    | rpcError message => exact onlyRpcError_rpcError
    | raised text =>
        rcases text with error | shown
        · rintro _ ⟨⟩
          by_contra other
          exact printable (Or.inl ⟨error, rfl, fun message same => other ⟨message, same⟩⟩)
        · exact onlyRpcError_rpcError
    | returned response =>
        apply (onlyRpcError_boundedJson _ _ _).bind
        intro _ bounded
        rw [boundedJson_zero_iff] at bounded
        cases response with
        | dict fields =>
            apply onlyRpcError_refuse.bind
            intro _ version
            apply onlyRpcError_refuse.bind
            intro _ id
            apply onlyRpcError_refuse.bind
            intro _ exactlyOne
            rw [refuse_eq_ok_iff, Bool.not_eq_false] at version id
            rw [refuse_eq_ok_iff] at exactlyOne
            split
            · rename_i hasError
              apply onlyRpcError_raiseError
              intro error code message isError isCode isMessage
              by_contra long
              have noResult : hasField fields "result" = false := by
                rw [hasError] at exactlyOne
                simpa using exactlyOne
              exact printable (Or.inr ⟨fields, error, code, message, rfl, bounded,
                isVersion_iff.mp version, isId_iff.mp id, noResult,
                isError ▸ lookup_of_hasField hasError, isCode, isMessage, not_lt.mp long⟩)
            · exact onlyRpcError_ok
        | _ => exact onlyRpcError_rpcError

/-- The outcome of a call is a value or the text of an `RpcError`: the answers that the world of
the other programs gives. -/
theorem onlyRpcError_iff_answer {computation : Except PyError Value} :
    OnlyRpcError computation ↔
      ∃ answer : Except String Value, computation = Except.mapError PyError.rpcError answer := by
  constructor
  · intro only
    rcases computation with error | value
    · rcases only error rfl with ⟨message, rfl⟩
      exact ⟨.error message, rfl⟩
    · exact ⟨.ok value, rfl⟩
  · rintro ⟨error | value, rfl⟩
    · exact onlyRpcError_rpcError
    · exact onlyRpcError_ok

/-! ### Whole sessions -/

section Session

variable {transport : Environment wire} {state : ℕ} {history said : History wire}
  {calls : List (String × List Value)} {outcomes : List (Except PyError Value)}

theorem run_call (method : String) (params : List Value) :
    (call method params).run transport state history =
      let request : Request := ⟨state + 1, method, params⟩
      ⟨judge method (state + 1) (transport history request), state + 1,
        history ++ [⟨request, transport history request⟩]⟩ := by
  have judged := @run_lift wire ℕ PyError Value transport
    (judge method (state + 1) (transport history ⟨state + 1, method, params⟩)) (state + 1)
    (history ++ [⟨⟨state + 1, method, params⟩, transport history ⟨state + 1, method, params⟩⟩])
  exact judged

/-- What was exchanged in a session: the requests of the calls, numbered in order, each with the
reply of the transport and the judgement on it. -/
structure Exchanged (state : ℕ) (calls : List (String × List Value)) (said : History wire)
    (outcomes : List (Except PyError Value)) : Prop where
  asked : said.map (fun entry => (entry.1.method, entry.1.params)) = calls
  numbered : said.map (fun entry => entry.1.id) = List.range' (state + 1) calls.length
  judged : List.Forall₂ (fun entry outcome => outcome = judge entry.1.method entry.1.id entry.2)
    said outcomes

theorem run_session (calls : List (String × List Value)) (state : ℕ) (history : History wire) :
    ∃ outcomes said, (session calls).run transport state history =
        ⟨.ok outcomes, state + calls.length, history ++ said⟩ ∧
      Follows transport history said ∧ Exchanged state calls said outcomes := by
  induction calls generalizing state history with
  | nil => exact ⟨[], [], by simp [session, run, pure], trivial, ⟨rfl, rfl, .nil⟩⟩
  | cons item calls ih =>
      rcases item with ⟨method, params⟩
      generalize asked : (⟨state + 1, method, params⟩ : Request) = request
      rcases ih (state + 1) (history ++ [⟨request, transport history request⟩]) with
        ⟨outcomes, said, ran, follows, exchanged⟩
      refine ⟨judge method (state + 1) (transport history request) :: outcomes,
        ⟨request, transport history request⟩ :: said, ?_, ⟨rfl, follows⟩, ?_⟩
      · rw [session, run_bind, run_attempt, run_call, asked]
        simp only
        rw [run_bind, ran]
        simp only [run, pure, List.append_assoc, List.singleton_append, List.length_cons]
        congr 1
        omega
      · subst asked
        constructor
        · simp [exchanged.asked]
        · simp [exchanged.numbered, List.range'_succ]
        · exact .cons rfl exchanged.judged

/-- The client trusts nothing but the answer to the very request. -/
structure Trustworthy (said : History wire) (outcomes : List (Except PyError Value)) : Prop where
  answered : List.Forall₂ (fun entry outcome => ∀ value, outcome = .ok value →
    Answers entry.1 entry.2 value) said outcomes
  refused : List.Forall₂ (fun _ outcome => OnlyRpcError outcome) said outcomes
  once : (said.zip outcomes).Pairwise fun first second =>
    (∃ value, first.2 = .ok value) → (∃ value, second.2 = .ok value) → first.1.2 ≠ second.1.2

/-- A reply is the answer to one request number only. -/
theorem Answers.id_unique {left right : Request} {reply : Reply} {value other : Value}
    (first : Answers left reply value) (second : Answers right reply other) :
    left.id = right.id := by
  rcases first.response with ⟨fields, rfl, _, leftId, _⟩
  rcases second.response with ⟨_, same, _, rightId, _⟩
  cases same
  rw [leftId] at rightId
  simpa using rightId

theorem once_of_exchanged (exchanged : Exchanged state calls said outcomes)
    (answered : List.Forall₂ (fun entry outcome => ∀ value, outcome = .ok value →
      Answers entry.1 entry.2 value) said outcomes) :
    (said.zip outcomes).Pairwise fun first second =>
      (∃ value, first.2 = .ok value) → (∃ value, second.2 = .ok value) →
        first.1.2 ≠ second.1.2 := by
  have distinct : (said.map fun entry => entry.1.id).Nodup := by
    rw [exchanged.numbered]
    exact List.nodup_range'
  have each : ∀ pair ∈ said.zip outcomes, ∀ value, pair.2 = .ok value →
      Answers pair.1.1 pair.1.2 value :=
    fun pair mem => (List.forall₂_iff_zip.mp answered).2 mem
  have separate : (said.zip outcomes).Pairwise fun first second => first.1.1.id ≠ second.1.1.id
      := by
    have lengths := exchanged.judged.length_eq
    have firsts : ((said.zip outcomes).map fun pair => pair.1.1.id) =
        said.map fun entry => entry.1.id := by
      calc ((said.zip outcomes).map fun pair => pair.1.1.id) =
            ((said.zip outcomes).map Prod.fst).map fun entry => entry.1.id := by
              rw [List.map_map]
              rfl
        _ = said.map fun entry => entry.1.id := by
              rw [List.map_fst_zip (by omega)]
    rw [← firsts] at distinct
    exact List.pairwise_map.mp distinct
  apply separate.imp_of_mem
  rintro first second firstMem secondMem different ⟨value, accepted⟩ ⟨other, acceptedToo⟩ same
  have left := each first firstMem value accepted
  have right := each second secondMem other acceptedToo
  rw [same] at left
  exact different (left.id_unique right)

/-- In every session the client accepts only answers to its own requests, each at most once, and
fails with an `RpcError` exactly when no reply is unprintable. -/
theorem session_iff (transport : Environment wire) (calls : List (String × List Value))
    (state : ℕ) (history : History wire) :
    ∃ outcomes said, (session calls).run transport state history =
        ⟨.ok outcomes, state + calls.length, history ++ said⟩ ∧
      Follows transport history said ∧ Exchanged state calls said outcomes ∧
      (Trustworthy said outcomes ↔ ∀ entry ∈ said, ¬Unprintable entry.1 entry.2) := by
  rcases @run_session transport calls state history with
    ⟨outcomes, said, ran, follows, exchanged⟩
  refine ⟨outcomes, said, ran, follows, exchanged, ?_⟩
  have judged := exchanged.judged
  have answered : List.Forall₂ (fun entry outcome => ∀ value, outcome = .ok value →
      Answers entry.1 entry.2 value) said outcomes := by
    apply judged.imp
    rintro entry _ rfl value accepted
    exact answers_of_judge accepted
  constructor
  · intro trustworthy entry mem
    have refused := trustworthy.refused
    have lengths := judged.length_eq
    rcases List.mem_iff_getElem.mp mem with ⟨index, bound, rfl⟩
    have isJudged := (List.forall₂_iff_get.mp judged).2 index bound (by omega)
    have only := (List.forall₂_iff_get.mp refused).2 index bound (by omega)
    rw [isJudged] at only
    exact onlyRpcError_judge_iff.mp only
  · intro printable
    refine ⟨answered, ?_, once_of_exchanged exchanged answered⟩
    rw [List.forall₂_iff_zip] at judged ⊢
    refine ⟨judged.1, ?_⟩
    intro entry outcome mem
    rw [judged.2 mem]
    exact onlyRpcError_judge_iff.mpr (printable entry (List.of_mem_zip mem).1)

end Session

/-! ### A code with too many digits -/

/-- Answers every request with an error object whose code is huge. -/
def hugeCode : Environment wire := fun _ request =>
  .returned (.dict [(.str "jsonrpc", .str "2.0".toList), (.str "id", .int (request : Request).id),
    (.str "error", .dict [(.str "code", .int (10 ^ maxStrDigits)), (.str "message", .str [])])])

theorem unprintable_hugeCode (history : History wire) (request : Request) :
    Unprintable request (hugeCode history request) := by
  right
  refine ⟨_, _, _, _, rfl, ?_, rfl, rfl, rfl, rfl, rfl, rfl, ?_⟩
  · exact boundedJson_zero_iff.mp (rfl : boundedJson "" 0 _ = .ok ())
  · rw [Int.natAbs_pow]
    exact le_refl _

/-- Such an answer makes the call raise something else than an `RpcError`. -/
theorem hugeCode_untrusted : ∃ outcomes said,
    (session [("eth_chainId", [])]).run hugeCode 0 [] = ⟨.ok outcomes, 1, said⟩ ∧
      ¬Trustworthy said outcomes := by
  rcases @run_session hugeCode [("eth_chainId", [])] 0 [] with
    ⟨outcomes, said, ran, follows, exchanged⟩
  refine ⟨outcomes, said, ran, ?_⟩
  intro trustworthy
  have judged := exchanged.judged
  have refused := trustworthy.refused
  rcases said with _ | ⟨entry, rest⟩
  · exact absurd exchanged.asked (by simp)
  · rcases judged with _ | ⟨isJudged, _⟩
    rcases refused with _ | ⟨only, _⟩
    rw [isJudged, follows.1] at only
    exact onlyRpcError_judge_iff.mp only (unprintable_hugeCode [] entry.1)

end Wire

end Psv
