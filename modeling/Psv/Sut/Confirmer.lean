import Psv.Chain

/-!
# The event-watching confirmer

`confirmer.py`: a settlement is confirmed when the receipt of the submitted
transaction holds the watched `Transfer` log, which the node also reports
independently, and the authorization was used.  The loop over the logs of the
receipt keeps the last match of either kind.  On receipts whose log indices are
distinct the decision is exact and does not depend on the order of the logs.
-/

namespace Psv

open Python Interaction Chain

namespace Confirmer

variable [Interpreter]

/-- Encode an address as a padded indexed event topic. -/
def topicAddr (addr : Str) : Str := '0' :: 'x' :: rjustZero 64 (removePrefix0x (lower addr))

/-- Normalize an authorization nonce as a padded event topic. -/
def topicNonce (nonce : Str) : Str := '0' :: 'x' :: rjustZero 64 (removePrefix0x (lower nonce))

/-- Compare two hexadecimal strings case-insensitively and without coercion. -/
def sameHex (left : Value) (right : Str) : Bool :=
  match left with
  | .str text => lower text == lower right
  | _ => false

/-- Best-effort decode an integer or hexadecimal quantity for confirmer input. -/
def quantity : Value → Option ℤ
  | .int n => some n
  | .bool b => some (if b then 1 else 0)
  | .str text => int16 text
  | _ => none

/-- Return a log's topic list or an empty sequence. -/
def topics (log : Fields) : List Value :=
  match getField log "topics" with
  | .list raw => raw
  | _ => []

/-- Match a receipt log to independently fetched evidence by tx and index. -/
def receiptLogMatchesFetched (receiptLog : Fields) (fetchedLogs : List Fields) : Bool :=
  match getField receiptLog "transactionHash", quantity (getField receiptLog "logIndex") with
  | .str txHash, some logIndex => fetchedLogs.any fun candidate =>
      sameHex (getField candidate "transactionHash") txHash &&
        decide (quantity (getField candidate "logIndex") = some logIndex)
  | _, _ => false

/-- The settlement that is to be confirmed. -/
structure Settlement where
  token : Str
  payer : Str
  payee : Str
  expectedValue : ℤ
  authorizationNonce : Str
  submittedTx : Str
  fromBlock : ℤ

/-- The block of a receipt that fulfils the conditions on the receipt itself. -/
def minedIn (settlement : Settlement) (receipt : Fields) : Option ℤ :=
  if quantity (getField receipt "status") ≠ some 1 then none
  else if !sameHex (getField receipt "transactionHash") settlement.submittedTx then none
  else if !sameHex (getField receipt "to") settlement.token then none
  else match quantity (getField receipt "blockNumber") with
    | some blockNumber => if blockNumber < settlement.fromBlock then none else some blockNumber
    | none => none

/-- `log.get("removed") is True` -/
def isRemoved (log : Fields) : Bool :=
  match getField log "removed" with
  | .bool true => true
  | _ => false

/-- The index of a log of the submitted transaction that was not removed. -/
def ownIndex (settlement : Settlement) (blockNumber : ℤ) (log : Fields) : Option ℤ :=
  if isRemoved log then none
  else if !sameHex (getField log "address") settlement.token then none
  else if !sameHex (getField log "transactionHash") settlement.submittedTx then none
  else if quantity (getField log "blockNumber") ≠ some blockNumber then none
  else quantity (getField log "logIndex")

/-- A log has exactly these three topics, in any letter case. -/
def hasTopics (log : Fields) (first second third : Str) : Bool :=
  match topics log with
  | [topic0, topic1, topic2] =>
      sameHex topic0 first && sameHex topic1 second && sameHex topic2 third
  | _ => false

/-- A log moves the expected value from the payer to the payee. -/
def isTransfer (watchedTopic0 : Str) (settlement : Settlement) (fetchedLogs : List Fields)
    (log : Fields) : Bool :=
  hasTopics log watchedTopic0 (topicAddr settlement.payer) (topicAddr settlement.payee) &&
    decide (quantity (getField log "data") = some settlement.expectedValue) &&
    receiptLogMatchesFetched log fetchedLogs

/-- A log marks the authorization as used. -/
def isAuthorization (settlement : Settlement) (log : Fields) : Bool :=
  hasTopics log topicAuthorizationUsed (topicAddr settlement.payer)
    (topicNonce settlement.authorizationNonce)

/-- One round of the loop: the last indices of the two kinds of log. -/
def watchLog (watchedTopic0 : Str) (settlement : Settlement) (blockNumber : ℤ)
    (fetchedLogs : List Fields) (found : Option ℤ × Option ℤ) (log : Fields) :
    Option ℤ × Option ℤ :=
  match ownIndex settlement blockNumber log with
  | none => found
  | some logIndex =>
      (if isTransfer watchedTopic0 settlement fetchedLogs log then some logIndex else found.1,
        if isAuthorization settlement log then some logIndex else found.2)

/-- `[log for log in raw_receipt_logs if isinstance(log, Mapping)]` -/
def mappings : List Value → List Fields
  | [] => []
  | .dict log :: rest => log :: mappings rest
  | _ :: rest => mappings rest

/-- An entry of a list of logs, when it is a log. -/
def asMapping : Value → Option Fields
  | .dict log => some log
  | _ => none

omit [Interpreter] in
theorem mappings_eq (items : List Value) : mappings items = items.filterMap asMapping := by
  induction items with
  | nil => rfl
  | cons item items ih =>
    cases item with
    | dict log => exact congrArg (List.cons log) ih
    | _ => exact ih

/-- The decision on the logs of the receipt and the fetched ones. -/
def transferIndex (watchedTopic0 : Str) (settlement : Settlement) (receipt : Fields)
    (blockNumber : ℤ) (fetchedLogs : List Fields) : Option ℤ :=
  match getField receipt "logs" with
  | .list rawReceiptLogs =>
      let found := (mappings rawReceiptLogs).foldl
        (watchLog watchedTopic0 settlement blockNumber fetchedLogs) (none, none)
      match found with
      | (some transfer, some authorization) =>
          if transfer ≠ authorization then some transfer else none
      | _ => none
  | _ => none

end Confirmer

open Confirmer

/-- Confirms settlement iff a matching legacy `Transfer` log is found.  How logs are fetched, by
address, topics and first block, is left open. -/
structure EventWatchingConfirmer (m : Type → Type) where
  fetchLogs : Str → List (Option Str) → ℤ → m (List Fields)
  watchedTopic0 : Str := topicTransfer

namespace EventWatchingConfirmer

variable [Interpreter] {m : Type → Type} [Monad m]

/-- Return the exact confirmed Transfer log index, if there is one. -/
def settlementLogIndex (confirmer : EventWatchingConfirmer m) (settlement : Settlement)
    (receipt : Option Fields) : m (Option ℤ) :=
  match receipt with
  | none => pure none
  | some receipt =>
      match minedIn settlement receipt with
      | none => pure none
      | some blockNumber => do
          let fetchedLogs ← confirmer.fetchLogs settlement.token
            [some confirmer.watchedTopic0, some (topicAddr settlement.payer),
              some (topicAddr settlement.payee)] blockNumber
          return transferIndex confirmer.watchedTopic0 settlement receipt blockNumber fetchedLogs

/-- Verify one exact submitted authorization from its mined receipt. -/
def isSettled (confirmer : EventWatchingConfirmer m) (settlement : Settlement)
    (receipt : Option Fields) : m Bool := do
  let logIndex ← confirmer.settlementLogIndex settlement receipt
  return logIndex.isSome

end EventWatchingConfirmer

/-! ### The last match -/

/-- A loop that keeps the last selected value. -/
theorem foldl_last {α β : Type} (select : α → Option β) (items : List α) :
    items.foldl (fun found item => (select item).or found) none =
      (items.filterMap select).getLast? := by
  induction items using List.reverseRecOn with
  | nil => rfl
  | append_singleton items item ih =>
    rw [List.foldl_append, List.foldl_cons, List.foldl_nil, ih, List.filterMap_append,
      List.getLast?_append]
    cases shape : select item with
    | none => simp [shape]
    | some value => simp [shape]

/-- Two members with the same selected value coincide when the selected values are distinct. -/
theorem eq_of_nodup_filterMap {α β : Type} {select : α → Option β} {items : List α}
    (nodup : (items.filterMap select).Nodup) {first second : α} {value : β}
    (firstMem : first ∈ items) (secondMem : second ∈ items) (isFirst : select first = some value)
    (isSecond : select second = some value) : first = second := by
  induction items with
  | nil => cases firstMem
  | cons item items ih =>
    cases shape : select item with
    | none =>
      rw [List.filterMap_cons_none shape] at nodup
      have isNot : ∀ other, select other = some value → other ≠ item := by
        intro other isOther same
        rw [same, shape] at isOther
        cases isOther
      exact ih nodup ((List.mem_cons.mp firstMem).resolve_left (isNot first isFirst))
        ((List.mem_cons.mp secondMem).resolve_left (isNot second isSecond))
    | some head =>
      rw [List.filterMap_cons_some shape, List.nodup_cons] at nodup
      have later : ∀ other ∈ items, select other = some value → head ≠ value := by
        intro other mem isOther same
        exact nodup.1 (List.mem_filterMap.mpr ⟨other, mem, same ▸ isOther⟩)
      rcases List.mem_cons.mp firstMem with rfl | firstLater
      · rcases List.mem_cons.mp secondMem with rfl | secondLater
        · rfl
        · rw [shape, Option.some.injEq] at isFirst
          exact absurd isFirst (later second secondLater isSecond)
      · rcases List.mem_cons.mp secondMem with rfl | secondLater
        · rw [shape, Option.some.injEq] at isSecond
          exact absurd isSecond (later first firstLater isFirst)
        · exact ih nodup.2 firstLater secondLater

/-! ### What counts as a match -/

namespace Confirmer

variable [Interpreter] {settlement : Settlement} {blockNumber index : ℤ} {log : Fields}
  {fetchedLogs : List Fields} {watchedTopic0 : Str}

/-- A log of the submitted transaction, in its block, that was not removed. -/
structure OwnLog (settlement : Settlement) (blockNumber : ℤ) (log : Fields) (index : ℤ) : Prop where
  removed : getField log "removed" ≠ .bool true
  address : sameHex (getField log "address") settlement.token = true
  transactionHash : sameHex (getField log "transactionHash") settlement.submittedTx = true
  blockNumber : quantity (getField log "blockNumber") = some blockNumber
  logIndex : quantity (getField log "logIndex") = some index

/-- The three topics of a log, in any letter case. -/
def HasTopics (log : Fields) (first second third : Str) : Prop :=
  ∃ topic0 topic1 topic2, getField log "topics" = .list [topic0, topic1, topic2] ∧
    sameHex topic0 first = true ∧ sameHex topic1 second = true ∧ sameHex topic2 third = true

/-- A transfer of the expected value from the payer to the payee that the node also reports among
the fetched logs. -/
structure TransferLog (settlement : Settlement) (blockNumber : ℤ) (fetchedLogs : List Fields)
    (log : Fields) (index : ℤ) : Prop extends OwnLog settlement blockNumber log index where
  topics : HasTopics log topicTransfer (topicAddr settlement.payer) (topicAddr settlement.payee)
  value : quantity (getField log "data") = some settlement.expectedValue
  fetched : ∃ txHash, getField log "transactionHash" = .str txHash ∧
    ∃ candidate ∈ fetchedLogs, sameHex (getField candidate "transactionHash") txHash = true ∧
      quantity (getField candidate "logIndex") = some index

/-- A use of the authorization. -/
structure AuthorizationLog (settlement : Settlement) (blockNumber : ℤ) (log : Fields)
    (index : ℤ) : Prop extends OwnLog settlement blockNumber log index where
  topics : HasTopics log topicAuthorizationUsed (topicAddr settlement.payer)
    (topicNonce settlement.authorizationNonce)

omit [Interpreter] in
theorem isRemoved_iff : isRemoved log = true ↔ getField log "removed" = .bool true := by
  rw [isRemoved]
  split
  · rename_i same
    exact ⟨fun _ => same, fun _ => rfl⟩
  · rename_i other
    constructor
    · intro impossible
      cases impossible
    · intro same
      exact absurd same other

theorem ownIndex_eq_some_iff :
    ownIndex settlement blockNumber log = some index ↔
      OwnLog settlement blockNumber log index := by
  rw [ownIndex]
  constructor
  · intro own
    split_ifs at own with removed address txHash block
    rw [isRemoved_iff] at removed
    exact ⟨removed, by simpa using address, by simpa using txHash, not_ne_iff.mp block, own⟩
  · intro own
    have removed : ¬isRemoved log = true := fun isTrue => own.removed (isRemoved_iff.mp isTrue)
    rw [if_neg removed, own.address, own.transactionHash, own.blockNumber, own.logIndex]
    simp

theorem hasTopics_iff {first second third : Str} :
    hasTopics log first second third = true ↔ HasTopics log first second third := by
  rw [hasTopics, topics]
  constructor
  · intro has
    split at has
    · rename_i topic0 topic1 topic2 listed
      split at listed
      · rename_i raw isList
        rw [Bool.and_eq_true, Bool.and_eq_true] at has
        exact ⟨topic0, topic1, topic2, listed ▸ isList, has.1.1, has.1.2, has.2⟩
      · cases listed
    · cases has
  · intro has
    rcases has with ⟨topic0, topic1, topic2, isList, isFirst, isSecond, isThird⟩
    rw [isList]
    simp only [isFirst, isSecond, isThird, Bool.and_self]

theorem receiptLogMatchesFetched_iff (isIndex : quantity (getField log "logIndex") = some index) :
    receiptLogMatchesFetched log fetchedLogs = true ↔
      ∃ txHash, getField log "transactionHash" = .str txHash ∧
        ∃ candidate ∈ fetchedLogs, sameHex (getField candidate "transactionHash") txHash = true ∧
          quantity (getField candidate "logIndex") = some index := by
  rw [receiptLogMatchesFetched, isIndex]
  constructor
  · intro found
    split at found
    · rename_i txHash position isText isPosition
      cases isPosition
      rw [List.any_eq_true] at found
      rcases found with ⟨candidate, mem, both⟩
      rw [Bool.and_eq_true, decide_eq_true_eq] at both
      exact ⟨txHash, isText, candidate, mem, both⟩
    · cases found
  · intro found
    rcases found with ⟨txHash, isText, candidate, mem, sameHash, sameIndex⟩
    rw [isText]
    apply List.any_eq_true.mpr
    refine ⟨candidate, mem, ?_⟩
    rw [sameHash, Bool.true_and, decide_eq_true_eq]
    exact sameIndex

/-- The index a log contributes as a transfer, and as a use of the authorization. -/
def transferOf (watchedTopic0 : Str) (settlement : Settlement) (blockNumber : ℤ)
    (fetchedLogs : List Fields) (log : Fields) : Option ℤ :=
  (ownIndex settlement blockNumber log).filter fun _ =>
    isTransfer watchedTopic0 settlement fetchedLogs log

def authorizationOf (settlement : Settlement) (blockNumber : ℤ) (log : Fields) : Option ℤ :=
  (ownIndex settlement blockNumber log).filter fun _ => isAuthorization settlement log

theorem transferOf_eq_some_iff :
    transferOf topicTransfer settlement blockNumber fetchedLogs log = some index ↔
      TransferLog settlement blockNumber fetchedLogs log index := by
  rw [transferOf, Option.filter_eq_some_iff, ownIndex_eq_some_iff, isTransfer, Bool.and_eq_true,
    Bool.and_eq_true, hasTopics_iff, decide_eq_true_eq]
  constructor
  · intro both
    rcases both with ⟨own, ⟨topics, value⟩, fetched⟩
    exact ⟨own, topics, value, (receiptLogMatchesFetched_iff own.logIndex).mp fetched⟩
  · intro transfer
    exact ⟨transfer.toOwnLog, ⟨transfer.topics, transfer.value⟩,
      (receiptLogMatchesFetched_iff transfer.logIndex).mpr transfer.fetched⟩

theorem authorizationOf_eq_some_iff :
    authorizationOf settlement blockNumber log = some index ↔
      AuthorizationLog settlement blockNumber log index := by
  rw [authorizationOf, Option.filter_eq_some_iff, ownIndex_eq_some_iff, isAuthorization,
    hasTopics_iff]
  constructor
  · intro both
    exact ⟨both.1, both.2⟩
  · intro authorization
    exact ⟨authorization.toOwnLog, authorization.topics⟩

theorem watchLog_eq (found : Option ℤ × Option ℤ) :
    watchLog watchedTopic0 settlement blockNumber fetchedLogs found log =
      ((transferOf watchedTopic0 settlement blockNumber fetchedLogs log).or found.1,
        (authorizationOf settlement blockNumber log).or found.2) := by
  rw [watchLog, transferOf, authorizationOf]
  cases ownIndex settlement blockNumber log with
  | none => rfl
  | some index =>
    rw [Option.filter_some, Option.filter_some]
    simp only [apply_ite (Option.or · found.1), apply_ite (Option.or · found.2), Option.some_or,
      Option.none_or]

/-- The loop ends with the last index of either kind. -/
theorem foldl_watchLog (logs : List Fields) :
    logs.foldl (watchLog watchedTopic0 settlement blockNumber fetchedLogs) (none, none) =
      ((logs.filterMap
          (transferOf watchedTopic0 settlement blockNumber fetchedLogs)).getLast?,
        (logs.filterMap (authorizationOf settlement blockNumber)).getLast?) := by
  rw [← foldl_last, ← foldl_last]
  induction logs using List.reverseRecOn with
  | nil => rfl
  | append_singleton logs log ih =>
    simp only [List.foldl_append, List.foldl_cons, List.foldl_nil, ih, watchLog_eq]

/-- The logs of a receipt, unless they are no list. -/
def LogsAre (receipt : Fields) (logs : List Fields) : Prop :=
  ∃ items, getField receipt "logs" = .list items ∧ logs = mappings items

theorem transferIndex_eq_some_iff {receipt : Fields} :
    transferIndex watchedTopic0 settlement receipt blockNumber fetchedLogs = some index ↔
      ∃ logs authorization, LogsAre receipt logs ∧
        (logs.filterMap (transferOf watchedTopic0 settlement blockNumber fetchedLogs)).getLast? =
          some index ∧
        (logs.filterMap (authorizationOf settlement blockNumber)).getLast? = some authorization ∧
        index ≠ authorization := by
  rw [transferIndex]
  constructor
  · intro isIndex
    split at isIndex
    · rename_i items isList
      simp only [foldl_watchLog] at isIndex
      split at isIndex
      · rename_i transfer authorization both
        rw [Prod.mk.injEq] at both
        split_ifs at isIndex with different
        cases isIndex
        exact ⟨_, authorization, ⟨items, isList, rfl⟩, both.1, both.2, different⟩
      · cases isIndex
    · cases isIndex
  · intro isLast
    rcases isLast with ⟨logs, authorization, ⟨items, isList, rfl⟩, transfer, used, different⟩
    rw [isList]
    simp only [foldl_watchLog, transfer, used]
    exact if_pos different

theorem minedIn_eq_some_iff {receipt : Fields} :
    minedIn settlement receipt = some blockNumber ↔
      quantity (getField receipt "status") = some 1 ∧
        sameHex (getField receipt "transactionHash") settlement.submittedTx = true ∧
        sameHex (getField receipt "to") settlement.token = true ∧
        quantity (getField receipt "blockNumber") = some blockNumber ∧
        settlement.fromBlock ≤ blockNumber := by
  rw [minedIn]
  constructor
  · intro mined
    split_ifs at mined with status txHash receiver
    split at mined
    · rename_i number isNumber
      split_ifs at mined with early
      cases mined
      exact ⟨not_ne_iff.mp status, by simpa using txHash, by simpa using receiver, isNumber,
        not_lt.mp early⟩
    · cases mined
  · intro conditions
    rcases conditions with ⟨status, txHash, receiver, isNumber, late⟩
    rw [status, txHash, receiver, isNumber]
    simp only [ne_eq, not_true_eq_false, Bool.not_true, Bool.false_eq_true, if_false]
    exact if_neg (not_lt.mpr late)

/-! ### Exactness -/

/-- A receipt that settles a payment, together with the fetched logs. -/
def Settles (settlement : Settlement) (receipt : Fields) (fetchedLogs : List Fields) : Prop :=
  quantity (getField receipt "status") = some 1 ∧
    sameHex (getField receipt "transactionHash") settlement.submittedTx = true ∧
    sameHex (getField receipt "to") settlement.token = true ∧
    ∃ blockNumber logs, quantity (getField receipt "blockNumber") = some blockNumber ∧
      settlement.fromBlock ≤ blockNumber ∧ LogsAre receipt logs ∧
      (∃ log ∈ logs, ∃ index, TransferLog settlement blockNumber fetchedLogs log index) ∧
      ∃ log ∈ logs, ∃ index, AuthorizationLog settlement blockNumber log index

/-- The indices of the logs of a receipt are pairwise distinct. -/
def DistinctIndices (receipt : Fields) : Prop :=
  ∀ logs, LogsAre receipt logs →
    (logs.filterMap fun log => quantity (getField log "logIndex")).Nodup

/-- Two receipts differ in nothing but the order of their logs. -/
structure SameButOrder (receipt other : Fields) : Prop where
  rest : ∀ name, name ≠ "logs" → getField other name = getField receipt name
  logs : ∃ items otherItems, getField receipt "logs" = .list items ∧
    getField other "logs" = .list otherItems ∧ items.Perm otherItems

omit [Interpreter] in
theorem exists_getLast? {α β : Type} {select : α → Option β} {items : List α} :
    (∃ last, (items.filterMap select).getLast? = some last) ↔
      ∃ item ∈ items, ∃ value, select item = some value := by
  constructor
  · intro nonempty
    rcases nonempty with ⟨last, isLast⟩
    rcases List.mem_filterMap.mp (List.mem_of_getLast? isLast) with ⟨item, mem, selected⟩
    exact ⟨item, mem, last, selected⟩
  · intro selected
    rcases selected with ⟨item, mem, value, isValue⟩
    have nonempty : items.filterMap select ≠ [] :=
      List.ne_nil_of_mem (List.mem_filterMap.mpr ⟨item, mem, isValue⟩)
    exact ⟨_, List.getLast?_eq_some_getLast nonempty⟩

theorem sameHex_lower {value : Value} {first second : Str} (isFirst : sameHex value first = true)
    (isSecond : sameHex value second = true) : lower first = lower second := by
  cases value with
  | str text => exact (beq_iff_eq.mp isFirst).symm.trans (beq_iff_eq.mp isSecond)
  | _ => cases isFirst

/-- The watched topic is not the topic of a use. -/
theorem lower_topicTransfer_ne : lower topicTransfer ≠ lower topicAuthorizationUsed := by
  intro same
  rw [topicTransfer, topicAuthorizationUsed, hexWord, hexWord,
    lower_eq_hexPad (isExactHex_hexPad 64 _), lower_eq_hexPad (isExactHex_hexPad 64 _)] at same
  simp only [List.cons.injEq, true_and, List.drop_succ_cons, List.drop_zero] at same
  rw [hexVal_hexPad_of_lt (by norm_num), hexVal_hexPad_of_lt (by norm_num)] at same
  have numbers := hexPad_injOn (by norm_num) (by norm_num) same
  norm_num at numbers

theorem transferLog_ne_authorizationLog {other : Fields} {otherIndex : ℤ}
    (transfer : TransferLog settlement blockNumber fetchedLogs log index)
    (authorization : AuthorizationLog settlement blockNumber other otherIndex) : log ≠ other := by
  intro same
  rcases transfer.topics with ⟨topic0, _, _, isList, isTransfer, _⟩
  rcases authorization.topics with ⟨used, _, _, isOther, isUsed, _⟩
  rw [← same, isList, Value.list.injEq, List.cons.injEq] at isOther
  rw [← isOther.1] at isUsed
  exact lower_topicTransfer_ne (sameHex_lower isTransfer isUsed)

omit [Interpreter] in
theorem LogsAre.unique {receipt : Fields} {logs others : List Fields} (isLogs : LogsAre receipt logs)
    (isOthers : LogsAre receipt others) : logs = others := by
  rcases isLogs with ⟨items, isList, rfl⟩
  rcases isOthers with ⟨otherItems, isOther, rfl⟩
  rw [isList, Value.list.injEq] at isOther
  rw [isOther]

/-- With distinct indices the two kinds of log are enough. -/
theorem settles_iff {receipt : Fields} (distinct : DistinctIndices receipt) :
    (∃ blockNumber index, minedIn settlement receipt = some blockNumber ∧
      transferIndex topicTransfer settlement receipt blockNumber fetchedLogs = some index) ↔
      Settles settlement receipt fetchedLogs := by
  simp only [minedIn_eq_some_iff, transferIndex_eq_some_iff]
  constructor
  · intro found
    rcases found with ⟨blockNumber, index, ⟨status, txHash, receiver, isNumber, late⟩, logs,
      authorization, isLogs, transfer, used, _⟩
    rcases exists_getLast?.mp ⟨_, transfer⟩ with ⟨moved, movedMem, movedIndex, isMoved⟩
    rcases exists_getLast?.mp ⟨_, used⟩ with ⟨burned, burnedMem, burnedIndex, isBurned⟩
    exact ⟨status, txHash, receiver, blockNumber, logs, isNumber, late, isLogs,
      ⟨moved, movedMem, movedIndex, transferOf_eq_some_iff.mp isMoved⟩,
      burned, burnedMem, burnedIndex, authorizationOf_eq_some_iff.mp isBurned⟩
  · intro settles
    rcases settles with ⟨status, txHash, receiver, blockNumber, logs, isNumber, late, isLogs,
      ⟨moved, movedMem, movedIndex, isMoved⟩, burned, burnedMem, burnedIndex, isBurned⟩
    rcases exists_getLast?.mpr ⟨moved, movedMem, movedIndex, transferOf_eq_some_iff.mpr isMoved⟩
      with ⟨index, isIndex⟩
    rcases exists_getLast?.mpr
      ⟨burned, burnedMem, burnedIndex, authorizationOf_eq_some_iff.mpr isBurned⟩
      with ⟨authorization, isAuthorization⟩
    refine ⟨blockNumber, index, ⟨status, txHash, receiver, isNumber, late⟩, logs, authorization,
      isLogs, isIndex, isAuthorization, ?_⟩
    -- the two last matches are different logs, so their indices differ
    rcases List.mem_filterMap.mp (List.mem_of_getLast? isIndex) with ⟨log, logMem, selected⟩
    rcases List.mem_filterMap.mp (List.mem_of_getLast? isAuthorization) with
      ⟨other, otherMem, otherSelected⟩
    have transfer := transferOf_eq_some_iff.mp selected
    have use := authorizationOf_eq_some_iff.mp otherSelected
    intro same
    apply transferLog_ne_authorizationLog transfer use
    exact eq_of_nodup_filterMap (distinct logs isLogs) logMem otherMem transfer.logIndex
      (same ▸ use.logIndex)

omit [Interpreter] in
theorem perm_mappings {items others : List Value} (perm : items.Perm others) :
    (mappings items).Perm (mappings others) := by
  rw [mappings_eq, mappings_eq]
  exact perm.filterMap _

omit [Interpreter] in
theorem SameButOrder.logsAre {receipt other : Fields} (same : SameButOrder receipt other)
    {logs : List Fields} (isLogs : LogsAre receipt logs) :
    ∃ others, LogsAre other others ∧ logs.Perm others := by
  rcases same.logs with ⟨items, otherItems, isList, isOther, perm⟩
  rw [isLogs.unique ⟨items, isList, rfl⟩]
  exact ⟨_, ⟨otherItems, isOther, rfl⟩, perm_mappings perm⟩

omit [Interpreter] in
theorem SameButOrder.symm {receipt other : Fields} (same : SameButOrder receipt other) :
    SameButOrder other receipt := by
  rcases same.logs with ⟨items, otherItems, isList, isOther, perm⟩
  exact ⟨fun name notLogs => (same.rest name notLogs).symm, otherItems, items, isOther, isList,
    perm.symm⟩

theorem SameButOrder.settles {receipt other : Fields} (same : SameButOrder receipt other)
    (settles : Settles settlement receipt fetchedLogs) :
    Settles settlement other fetchedLogs := by
  rcases settles with ⟨status, txHash, receiver, blockNumber, logs, isNumber, late, isLogs,
    ⟨moved, movedMem, isMoved⟩, burned, burnedMem, isBurned⟩
  rcases same.logsAre isLogs with ⟨others, isOthers, perm⟩
  refine ⟨?_, ?_, ?_, blockNumber, others, ?_, late, isOthers,
    ⟨moved, perm.mem_iff.mp movedMem, isMoved⟩, burned, perm.mem_iff.mp burnedMem, isBurned⟩
  · rw [same.rest "status" (by decide), status]
  · rw [same.rest "transactionHash" (by decide), txHash]
  · rw [same.rest "to" (by decide), receiver]
  · rw [same.rest "blockNumber" (by decide), isNumber]

theorem SameButOrder.distinctIndices {receipt other : Fields} (same : SameButOrder receipt other)
    (distinct : DistinctIndices receipt) : DistinctIndices other := by
  intro logs isLogs
  rcases same.symm.logsAre isLogs with ⟨others, isOthers, perm⟩
  exact (perm.filterMap _).nodup_iff.mpr (distinct others isOthers)

/-- The confirmer with given fetched logs and the default watched topic. -/
def withLogs (fetchedLogs : List Fields) : EventWatchingConfirmer Id where
  fetchLogs _ _ _ := fetchedLogs

theorem settlementLogIndex_eq_some_iff {receipt : Option Fields} :
    (withLogs fetchedLogs).settlementLogIndex settlement receipt = some index ↔
      ∃ fields blockNumber, receipt = some fields ∧
        minedIn settlement fields = some blockNumber ∧
        transferIndex topicTransfer settlement fields blockNumber fetchedLogs = some index := by
  rw [EventWatchingConfirmer.settlementLogIndex.eq_def]
  cases receipt with
  | none =>
    constructor
    · intro impossible
      cases impossible
    · intro impossible
      rcases impossible with ⟨_, _, same, _⟩
      cases same
  | some fields =>
    cases shape : minedIn settlement fields with
    | none =>
      constructor
      · intro impossible
        simp only [shape] at impossible
        cases impossible
      · intro impossible
        rcases impossible with ⟨_, _, same, mined, _⟩
        cases same
        rw [shape] at mined
        cases mined
    | some blockNumber =>
      simp only [shape]
      constructor
      · intro isIndex
        exact ⟨fields, blockNumber, rfl, shape, isIndex⟩
      · intro isIndex
        rcases isIndex with ⟨_, _, same, mined, found⟩
        cases same
        rw [shape] at mined
        cases mined
        exact found

theorem isSettled_iff {receipt : Option Fields} :
    (withLogs fetchedLogs).isSettled settlement receipt = true ↔
      ∃ index, (withLogs fetchedLogs).settlementLogIndex settlement receipt = some index :=
  Option.isSome_iff_exists

/-- The decision of the confirmer is exact, the index it returns is that of a transfer, and the
order of the logs does not matter. -/
theorem confirmer_exact (settlement : Settlement) (receipt : Option Fields)
    (fetchedLogs : List Fields)
    (distinct : ∀ fields, receipt = some fields → DistinctIndices fields) :
    ((withLogs fetchedLogs).isSettled settlement receipt = true ↔
      ∃ fields, receipt = some fields ∧ Settles settlement fields fetchedLogs) ∧
      (∀ index, (withLogs fetchedLogs).settlementLogIndex settlement receipt = some index →
        ∃ fields blockNumber logs, receipt = some fields ∧
          quantity (getField fields "blockNumber") = some blockNumber ∧ LogsAre fields logs ∧
          ∃ log ∈ logs, TransferLog settlement blockNumber fetchedLogs log index) ∧
      ∀ fields other, receipt = some fields → SameButOrder fields other →
        (withLogs fetchedLogs).isSettled settlement (some other) =
          (withLogs fetchedLogs).isSettled settlement receipt := by
  have exact_ : ∀ receipt : Option Fields,
      (∀ fields, receipt = some fields → DistinctIndices fields) →
      ((withLogs fetchedLogs).isSettled settlement receipt = true ↔
        ∃ fields, receipt = some fields ∧ Settles settlement fields fetchedLogs) := by
    intro receipt distinct
    rw [isSettled_iff]
    simp only [settlementLogIndex_eq_some_iff]
    constructor
    · intro settled
      rcases settled with ⟨index, fields, blockNumber, isReceipt, mined, found⟩
      exact ⟨fields, isReceipt,
        (settles_iff (distinct fields isReceipt)).mp ⟨blockNumber, index, mined, found⟩⟩
    · intro settled
      rcases settled with ⟨fields, isReceipt, settles⟩
      rcases (settles_iff (distinct fields isReceipt)).mpr settles with
        ⟨blockNumber, index, mined, found⟩
      exact ⟨index, fields, blockNumber, isReceipt, mined, found⟩
  refine ⟨exact_ receipt distinct, ?_, ?_⟩
  · intro index isIndex
    rcases settlementLogIndex_eq_some_iff.mp isIndex with
      ⟨fields, blockNumber, isReceipt, mined, found⟩
    rcases transferIndex_eq_some_iff.mp found with ⟨logs, _, isLogs, isLast, _⟩
    rcases List.mem_filterMap.mp (List.mem_of_getLast? isLast) with ⟨log, mem, selected⟩
    exact ⟨fields, blockNumber, logs, isReceipt, (minedIn_eq_some_iff.mp mined).2.2.2.1, isLogs,
      log, mem, transferOf_eq_some_iff.mp selected⟩
  · intro fields other isReceipt same
    have otherDistinct : ∀ given, some other = some given → DistinctIndices given := by
      intro given isGiven
      cases isGiven
      exact same.distinctIndices (distinct fields isReceipt)
    rw [Bool.eq_iff_iff, exact_ (some other) otherDistinct, exact_ receipt distinct]
    constructor
    · intro settled
      rcases settled with ⟨given, isGiven, settles⟩
      cases isGiven
      exact ⟨fields, isReceipt, same.symm.settles settles⟩
    · intro settled
      rcases settled with ⟨given, isGiven, settles⟩
      rw [isReceipt, Option.some.injEq] at isGiven
      exact ⟨other, rfl, same.settles (isGiven ▸ settles)⟩

/-! ### A sample settlement -/

omit [Interpreter] in
/-- A log of the token `0x70` in transaction `0x1001`. -/
def sampleLog (topics : List Str) (data : Str) (index : ℕ) : Fields :=
  [(.str "address", .str (hexAddress 0x70)), (.str "topics", .list (topics.map .str)),
    (.str "data", .str data), (.str "blockNumber", .str (pyHex 1)),
    (.str "transactionHash", .str (hexWord 0x1001)), (.str "transactionIndex", .str (pyHex 0)),
    (.str "blockHash", .str (hexWord 0x11)), (.str "logIndex", .str (pyHex index)),
    (.str "removed", .bool false)]

/-- A transfer with the given data. -/
def sampleTransfer (data : Str) : Fields :=
  sampleLog [topicTransfer, hexWord 0xa1, hexWord 0xb2] data 1

def sampleUse : Fields :=
  sampleLog [topicAuthorizationUsed, hexWord 0xa1, hexWord 0x77] "0x".toList 0

def sampleReceipt (data : Str) : Fields :=
  [(.str "transactionHash", .str (hexWord 0x1001)), (.str "blockHash", .str (hexWord 0x11)),
    (.str "blockNumber", .str (pyHex 1)), (.str "status", .str (pyHex 1)),
    (.str "to", .str (hexAddress 0x70)),
    (.str "logs", .list [.dict sampleUse, .dict (sampleTransfer data)])]

/-- A payment of 100. -/
def sampleSettlement : Settlement :=
  ⟨hexAddress 0x70, hexAddress 0xa1, hexAddress 0xb2, 100, hexWord 0x77, hexWord 0x1001, 0⟩

omit [Interpreter] in
theorem confirmer_sample : letI := asciiInterpreter []
    Settles sampleSettlement (sampleReceipt (hexWord 100)) [sampleTransfer (hexWord 100)] := by
  let := asciiInterpreter []
  have distinct : ∀ fields, some (sampleReceipt (hexWord 100)) = some fields →
      DistinctIndices fields := by
    intro fields same logs isLogs
    cases same
    rw [isLogs.unique ⟨_, rfl, rfl⟩]
    decide +kernel
  have mined : minedIn sampleSettlement (sampleReceipt (hexWord 100)) = some 1 := by
    decide +kernel
  have found : transferIndex topicTransfer sampleSettlement (sampleReceipt (hexWord 100)) 1
      [sampleTransfer (hexWord 100)] = some 1 := by
    decide +kernel
  have settled := isSettled_iff.mpr
    ⟨1, settlementLogIndex_eq_some_iff.mpr ⟨_, 1, rfl, mined, found⟩⟩
  rcases (confirmer_exact sampleSettlement (some (sampleReceipt (hexWord 100)))
    [sampleTransfer (hexWord 100)] distinct).1.mp settled with ⟨_, same, settles⟩
  cases same
  exact settles

end Confirmer

end Psv
