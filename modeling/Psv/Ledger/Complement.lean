import Psv.Ledger.Decoding
import Psv.Interaction.Keyed

/-!
# The complement of a ledger

`find_unreconciled` collects the decoded credits under their identities, refuses
conflicting observations, and lists what is neither removed nor known.  The
collection depends on the set of logs only, and the order of the list separates
identities; so the result is determined by the logs as a set and by the ledger
as a set (`exact_complement`).
-/

namespace Psv

open Python Interaction Chain Reconciliation

namespace Ledger

section Complement

variable [Interpreter] {log : Fields} {logs : List Fields} {entries : List LedgerEntry}
  {chainId : ℤ} {asset payee : Option Str}

/-- The credit of a log of the expected asset and payee. -/
def vet (chainId : ℤ) (asset payee : Option Str) (log : Fields) :
    Except PyError OnChainCredit := do
  let credit ← decodeTransferLog log chainId
  refuse (∃ expected ∈ asset, credit.identity.asset ≠ expected) (.reconciliationError
    s!"cross-asset log: expected {String.ofList (asset.getD [])}, observed {
      String.ofList credit.identity.asset}")
  refuse (∃ expected ∈ payee, credit.payee ≠ expected) (.reconciliationError
    s!"cross-recipient log: expected {String.ofList (payee.getD [])}, observed {
      String.ofList credit.payee}")
  return credit

def conflict (credit : OnChainCredit) : PyError :=
  .reconciliationError s!"conflicting observations for settlement {identityRepr credit.identity}"

/-- The loop of `find_unreconciled` is a collection under identities. -/
theorem foldlM_observe (store : Observations) :
    logs.foldlM (observe chainId asset payee) store =
      Keyed.collect (vet chainId asset payee) OnChainCredit.identity conflict store logs := by
  have step : observe chainId asset payee = fun store log =>
      vet chainId asset payee log >>= Keyed.record OnChainCredit.identity conflict store := by
    funext store log
    unfold observe vet
    rcases decodeTransferLog log chainId with error | credit
    · rfl
    · simp only [Checks.ok_bind, refuse]
      split
      · rfl
      · split
        · rfl
        · rfl
  rw [step]
  rfl

theorem vet_eq_ok_iff {credit : OnChainCredit} :
    vet chainId asset payee log = .ok credit ↔
      decodeTransferLog log chainId = .ok credit ∧
        (∀ expected, asset = some expected → credit.identity.asset = expected) ∧
        ∀ expected, payee = some expected → credit.payee = expected := by
  simp only [vet, Checks.bind_eq_ok_iff, refuse_eq_ok_iff, exists_const, Option.mem_def,
    not_exists, not_and, not_not, pure, Except.pure, Except.ok.injEq]
  constructor
  · rintro ⟨_, decoded, sameAsset, samePayee, rfl⟩
    exact ⟨decoded, sameAsset, samePayee⟩
  · rintro ⟨decoded, sameAsset, samePayee⟩
    exact ⟨credit, decoded, sameAsset, samePayee, rfl⟩

/-! ### Expected addresses -/

/-- Absent, empty or an exact address. -/
def WellFormed (expected : Option Str) : Prop :=
  ∀ text, expected = some text → text ≠ [] → isExactHex 40 text = true

/-- What a credit is compared with. -/
def normal : Option Str → Option Str
  | some (c :: rest) => some (lower (c :: rest))
  | _ => none

theorem expectedAddress_of_wellFormed {expected : Option Str} {what : String}
    (wellFormed : WellFormed expected) : expectedAddress expected what = .ok (normal expected) := by
  rcases expected with _ | _ | ⟨c, rest⟩
  · rfl
  · rfl
  · have exact := wellFormed (c :: rest) rfl (by simp)
    simp only [expectedAddress, address_exact exact]
    rfl

/-- The credit goes by another address than the expected one. -/
def Foreign (expected : Option Str) (found : Str) : Prop :=
  ∃ text, expected = some text ∧ text ≠ [] ∧ found ≠ lower text

theorem foreign_iff {expected : Option Str} {found : Str} :
    Foreign expected found ↔ ¬∀ text, normal expected = some text → found = text := by
  rcases expected with _ | _ | ⟨c, rest⟩
  · simp [Foreign, normal]
  · simp [Foreign, normal]
  · simp [Foreign, normal]

/-! ### The order of credits -/

/-- The credit is listed: it stands, and the ledger does not know it. -/
def isMissing (entries : List LedgerEntry) (credit : OnChainCredit) : Bool :=
  !credit.removed && decide (credit.identity ∉ entries.map LedgerEntry.settlement)

def sortCredits (credits : List OnChainCredit) : List OnChainCredit :=
  credits.insertionSort fun first second => sortKey first ≤ sortKey second

omit [Interpreter] in
/-- On one chain the sort key determines the identity. -/
theorem identity_of_sortKey {first second : OnChainCredit} (same : sortKey first = sortKey second)
    (chain : first.identity.chainId = second.identity.chainId) :
    first.identity = second.identity := by
  simp only [sortKey, EmbeddingLike.apply_eq_iff_eq, Prod.mk.injEq] at same
  rcases first with ⟨⟨_, _, _, _⟩, _, _, _, _, _, _⟩
  rcases second with ⟨⟨_, _, _, _⟩, _, _, _, _, _, _⟩
  simp only [SettlementIdentity.mk.injEq]
  exact ⟨chain, same.2.2.2, same.2.2.1, same.2.1⟩

omit [Interpreter] in
/-- Credits that the sort key separates are strictly sorted, in one way only. -/
theorem pairwise_sortCredits {credits : List OnChainCredit} (nodup : credits.Nodup)
    (separated : ∀ first ∈ credits, ∀ second ∈ credits, sortKey first = sortKey second →
      first = second) :
    (sortCredits credits).Pairwise fun first second => sortKey first < sortKey second := by
  have sorted := List.pairwise_insertionSort (fun first second => sortKey first ≤ sortKey second)
    credits
  have distinct : (sortCredits credits).Nodup := (List.perm_insertionSort _ _).nodup_iff.mpr nodup
  have both := List.Pairwise.and sorted distinct
  apply both.imp_of_mem
  intro first second firstMem secondMem ⟨le, different⟩
  apply lt_of_le_of_ne le
  intro same
  exact different (separated first ((List.mem_insertionSort _).mp firstMem) second
    ((List.mem_insertionSort _).mp secondMem) same)

omit [Interpreter] in
theorem eq_of_sorted {left right : List OnChainCredit}
    (leftSorted : left.Pairwise fun first second => sortKey first < sortKey second)
    (rightSorted : right.Pairwise fun first second => sortKey first < sortKey second)
    (members : ∀ credit, credit ∈ left ↔ credit ∈ right) : left = right := by
  refine List.Perm.eq_of_pairwise ?_ leftSorted rightSorted ?_
  · intro first second _ _ below above
    exact absurd below (lt_asymm above)
  · have irrefl : ∀ first second : OnChainCredit, sortKey first < sortKey second →
        first ≠ second := by
      rintro first _ below rfl
      exact lt_irrefl _ below
    rw [List.perm_ext_iff_of_nodup (leftSorted.imp (irrefl _ _)) (rightSorted.imp (irrefl _ _))]
    exact members

/-! ### The result -/

theorem findUnreconciled_eq (assetOk : WellFormed asset) (payeeOk : WellFormed payee) :
    findUnreconciled logs entries chainId asset payee =
      (Keyed.collect (vet chainId (normal asset) (normal payee)) OnChainCredit.identity conflict
        ∅ logs).map fun store => sortCredits (store.values.filter (isMissing entries)) := by
  simp only [findUnreconciled, expectedAddress_of_wellFormed assetOk,
    expectedAddress_of_wellFormed payeeOk, Checks.ok_bind, foldlM_observe]
  rcases Keyed.collect _ _ _ _ _ with error | store
  · rfl
  · rfl

theorem chainId_of_decode {credit : OnChainCredit}
    (decoded : decodeTransferLog log chainId = .ok credit) :
    credit.identity.chainId = chainId := by
  have unrefused : Unrefused (decodeTransferLog log chainId) := by
    intro message
    rw [decoded]
    simp
  rcases readable_of_unrefused unrefused with ⟨positive, texts, isOf, readable⟩
  rcases decode_of_readable isOf positive readable with ⟨_, _, _, _, equation⟩
  rcases read : int16 (lower texts.data) with _ | value
  · rw [decoded, read] at equation
    cases equation
  · rw [decoded, read] at equation
    cases equation
    rfl

/-- Some log does not decode, is foreign, or contradicts another one. -/
def Refused (logs : List Fields) (chainId : ℤ) (asset payee : Option Str) : Prop :=
  (∃ log ∈ logs, ∃ error, decodeTransferLog log chainId = .error error) ∨
    (∃ log ∈ logs, ∃ credit, decodeTransferLog log chainId = .ok credit ∧
      (Foreign asset credit.identity.asset ∨ Foreign payee credit.payee)) ∨
    ∃ left ∈ logs, ∃ right ∈ logs, ∃ credit other, decodeTransferLog left chainId = .ok credit ∧
      decodeTransferLog right chainId = .ok other ∧ credit.identity = other.identity ∧
        credit ≠ other

/-- The standing credits of the logs that the ledger does not know, strictly sorted. -/
structure IsComplement (credits : List OnChainCredit) (logs : List Fields)
    (entries : List LedgerEntry) (chainId : ℤ) : Prop where
  ordered : credits.Pairwise fun first second => sortKey first < sortKey second
  distinct : credits.Nodup
  members : ∀ credit, credit ∈ credits ↔
    (∃ log ∈ logs, decodeTransferLog log chainId = .ok credit) ∧ credit.removed = false ∧
      ∀ entry ∈ entries, entry.settlement ≠ credit.identity

theorem conflicting_iff :
    Keyed.Conflicting (vet chainId (normal asset) (normal payee)) OnChainCredit.identity logs ↔
      Refused logs chainId asset payee := by
  have admits : ∀ log credit, decodeTransferLog log chainId = .ok credit →
      ¬Foreign asset credit.identity.asset → ¬Foreign payee credit.payee →
      vet chainId (normal asset) (normal payee) log = .ok credit := by
    intro log credit decoded ownAsset ownPayee
    rw [foreign_iff, not_not] at ownAsset ownPayee
    exact vet_eq_ok_iff.mpr ⟨decoded, ownAsset, ownPayee⟩
  constructor
  · rintro (⟨log, mem, error, failed⟩ | ⟨left, leftMem, right, rightMem, credit, other, leftOk,
      rightOk, same, different⟩)
    · rcases decoded : decodeTransferLog log chainId with fault | credit
      · exact Or.inl ⟨log, mem, fault, decoded⟩
      · right
        left
        refine ⟨log, mem, credit, decoded, ?_⟩
        by_contra own
        rw [not_or] at own
        rw [admits log credit decoded own.1 own.2] at failed
        cases failed
    · exact Or.inr (Or.inr ⟨left, leftMem, right, rightMem, credit, other,
        (vet_eq_ok_iff.mp leftOk).1, (vet_eq_ok_iff.mp rightOk).1, same, different⟩)
  · rintro (⟨log, mem, error, failed⟩ | ⟨log, mem, credit, decoded, foreign⟩ |
      ⟨left, leftMem, right, rightMem, credit, other, leftOk, rightOk, same, different⟩)
    · refine Or.inl ⟨log, mem, error, ?_⟩
      rw [vet, failed]
      rfl
    · left
      rcases admitted : vet chainId (normal asset) (normal payee) log with error | other
      · exact ⟨log, mem, error, admitted⟩
      · rcases vet_eq_ok_iff.mp admitted with ⟨again, ownAsset, ownPayee⟩
        cases decoded.symm.trans again
        rcases foreign with foreign | foreign
        · exact absurd ownAsset (foreign_iff.mp foreign)
        · exact absurd ownPayee (foreign_iff.mp foreign)
    · rcases leftAdmitted : vet chainId (normal asset) (normal payee) left with error | value
      · exact Or.inl ⟨left, leftMem, error, leftAdmitted⟩
      rcases rightAdmitted : vet chainId (normal asset) (normal payee) right with error | second
      · exact Or.inl ⟨right, rightMem, error, rightAdmitted⟩
      cases leftOk.symm.trans (vet_eq_ok_iff.mp leftAdmitted).1
      cases rightOk.symm.trans (vet_eq_ok_iff.mp rightAdmitted).1
      exact Or.inr ⟨left, leftMem, right, rightMem, credit, other, leftAdmitted, rightAdmitted,
        same, different⟩

theorem error_iff (assetOk : WellFormed asset) (payeeOk : WellFormed payee) :
    (∃ error, findUnreconciled logs entries chainId asset payee = .error error) ↔
      Refused logs chainId asset payee := by
  rw [findUnreconciled_eq assetOk payeeOk, ← conflicting_iff,
    ← @Keyed.collect_empty_error_iff _ _ _ _ _ _ _ _ conflict]
  rcases Keyed.collect _ _ _ _ _ with error | store
  · simp [Except.map]
  · simp [Except.map]

theorem isComplement_of_ok {credits : List OnChainCredit} (assetOk : WellFormed asset)
    (payeeOk : WellFormed payee)
    (found : findUnreconciled logs entries chainId asset payee = .ok credits) :
    IsComplement credits logs entries chainId := by
  rw [findUnreconciled_eq assetOk payeeOk] at found
  rcases collected : Keyed.collect (vet chainId (normal asset) (normal payee))
    OnChainCredit.identity conflict ∅ logs with error | store
  · rw [collected] at found
    cases found
  rw [collected] at found
  cases found
  have values : ∀ credit, credit ∈ store.values ↔
      ∃ log ∈ logs, decodeTransferLog log chainId = .ok credit := by
    intro credit
    rw [Keyed.mem_values_of_collect collected]
    constructor
    · rintro ⟨log, mem, admitted⟩
      exact ⟨log, mem, (vet_eq_ok_iff.mp admitted).1⟩
    · rintro ⟨log, mem, decoded⟩
      rcases (Keyed.collect_ok collected Keyed.lawful_empty).2.1 log mem with ⟨other, admitted⟩
      cases decoded.symm.trans (vet_eq_ok_iff.mp admitted).1
      exact ⟨log, mem, admitted⟩
  have lawful := (Keyed.collect_ok collected Keyed.lawful_empty).1
  have separated : ∀ first ∈ store.values.filter (isMissing entries),
      ∀ second ∈ store.values.filter (isMissing entries), sortKey first = sortKey second →
        first = second := by
    intro first firstMem second secondMem same
    have firstIn := (List.mem_filter.mp firstMem).1
    have secondIn := (List.mem_filter.mp secondMem).1
    rcases (values first).mp firstIn with ⟨_, _, firstDecoded⟩
    rcases (values second).mp secondIn with ⟨_, _, secondDecoded⟩
    have identity := identity_of_sortKey same
      ((chainId_of_decode firstDecoded).trans (chainId_of_decode secondDecoded).symm)
    have firstStored := (Keyed.mem_values_iff lawful).mp firstIn
    have secondStored := (Keyed.mem_values_iff lawful).mp secondIn
    rw [identity, secondStored] at firstStored
    exact (Option.some.inj firstStored).symm
  have nodup := (Keyed.nodup_values lawful).filter (isMissing entries)
  constructor
  · exact pairwise_sortCredits nodup separated
  · exact (List.perm_insertionSort _ _).nodup_iff.mpr nodup
  · intro credit
    change credit ∈ List.insertionSort _ _ ↔ _
    rw [List.mem_insertionSort, List.mem_filter, values, isMissing, Bool.and_eq_true,
      decide_eq_true_eq, List.mem_map, not_exists]
    simp only [Bool.not_eq_eq_eq_not, Bool.not_true, not_and]

/-- Equal sets of logs have equal outcomes: the same result, or none. -/
theorem not_refused_of_ok (assetOk : WellFormed asset) (payeeOk : WellFormed payee)
    {credits : List OnChainCredit}
    (found : findUnreconciled logs entries chainId asset payee = .ok credits) :
    ¬Refused logs chainId asset payee := by
  intro refused
  rcases (error_iff assetOk payeeOk).mpr refused with ⟨error, failed⟩
  rw [found] at failed
  cases failed

theorem ok_congr {others : List Fields} (assetOk : WellFormed asset) (payeeOk : WellFormed payee)
    (same : ∀ log, log ∈ others ↔ log ∈ logs) {credits : List OnChainCredit}
    (found : findUnreconciled logs entries chainId asset payee = .ok credits) :
    findUnreconciled others entries chainId asset payee = .ok credits := by
  have accepted : ¬Refused others chainId asset payee := by
    rw [← conflicting_iff, Keyed.conflicting_congr same, conflicting_iff]
    exact not_refused_of_ok assetOk payeeOk found
  rcases again : findUnreconciled others entries chainId asset payee with error | result
  · exact absurd ((error_iff assetOk payeeOk).mp ⟨error, again⟩) accepted
  · have left := isComplement_of_ok assetOk payeeOk again
    have right := isComplement_of_ok assetOk payeeOk found
    rw [eq_of_sorted left.ordered right.ordered fun credit => by
      rw [left.members, right.members]
      simp only [same]]

/-- A new entry takes its own credit out of the result. -/
theorem ok_cons {entry : LedgerEntry} {credits : List OnChainCredit} (assetOk : WellFormed asset)
    (payeeOk : WellFormed payee)
    (found : findUnreconciled logs entries chainId asset payee = .ok credits) :
    findUnreconciled logs (entry :: entries) chainId asset payee =
      .ok (credits.filter fun credit => decide (credit.identity ≠ entry.settlement)) := by
  have accepted : ¬Refused logs chainId asset payee := by
    exact not_refused_of_ok assetOk payeeOk found
  rcases again : findUnreconciled logs (entry :: entries) chainId asset payee with error | result
  · exact absurd ((error_iff assetOk payeeOk).mp ⟨error, again⟩) accepted
  · have left := isComplement_of_ok assetOk payeeOk again
    have right := isComplement_of_ok assetOk payeeOk found
    have filtered := right.ordered.filter fun credit =>
      decide (credit.identity ≠ entry.settlement)
    rw [eq_of_sorted left.ordered filtered fun credit => by
      rw [left.members, List.mem_filter, right.members, decide_eq_true_eq]
      simp only [List.mem_cons, forall_eq_or_imp]
      constructor
      · rintro ⟨decoded, standing, other, unknown⟩
        exact ⟨⟨decoded, standing, unknown⟩, other.symm⟩
      · rintro ⟨⟨decoded, standing, unknown⟩, other⟩
        exact ⟨decoded, standing, other.symm, unknown⟩]

/-- An error is an error whatever is in the ledger. -/
theorem error_cons {entry : LedgerEntry} {error : PyError} (assetOk : WellFormed asset)
    (payeeOk : WellFormed payee)
    (failed : findUnreconciled logs entries chainId asset payee = .error error) :
    findUnreconciled logs (entry :: entries) chainId asset payee = .error error := by
  rw [findUnreconciled_eq assetOk payeeOk] at failed ⊢
  rcases collected : Keyed.collect (vet chainId (normal asset) (normal payee))
    OnChainCredit.identity conflict ∅ logs with fault | store
  · rw [collected] at failed
    cases failed
    rfl
  · rw [collected] at failed
    cases failed

/-! ### One asset of many -/

/-- The log decodes to a credit of the asset. -/
def isOfAsset (asset : Str) (chainId : ℤ) (log : Fields) : Bool :=
  match decodeTransferLog log chainId with
  | .ok credit => decide (credit.identity.asset = lower asset)
  | .error _ => false

theorem scopeTo_eq {text : Str}
    (decodable : ∀ log ∈ logs, ∃ credit, decodeTransferLog log chainId = .ok credit) :
    scopeTo (lower text) chainId logs = .ok (logs.filter (isOfAsset text chainId)) := by
  induction logs with
  | nil => rfl
  | cons log logs ih =>
      simp only [List.mem_cons, forall_eq_or_imp] at decodable
      rcases decodable.1 with ⟨credit, decoded⟩
      rw [scopeTo, decoded, ih decodable.2, Checks.ok_bind, Checks.ok_bind, List.filter_cons,
        isOfAsset, decoded]
      simp only [decide_eq_true_eq]
      rfl

theorem reconcileAssetScoped_eq {text : Str} (exact : isExactHex 40 text = true)
    (decodable : ∀ log ∈ logs, ∃ credit, decodeTransferLog log chainId = .ok credit) :
    reconcileAssetScoped logs entries chainId text payee =
      findUnreconciled (logs.filter (isOfAsset text chainId)) entries chainId (some text) payee
      := by
  rw [reconcileAssetScoped, address_exact exact, Checks.ok_bind, scopeTo_eq decodable,
    Checks.ok_bind]
  have same : expectedAddress (some (lower text)) "expected asset" =
      expectedAddress (some text) "expected asset" := by
    rcases isExactHex_iff.mp exact with ⟨rest, rfl, _, all⟩
    have lowered := isExactHex_lower exact
    have again := lower_lower_exactHex exact
    rw [lower_prefixed all] at lowered again ⊢
    simp only [expectedAddress, address_exact lowered, address_exact exact, again,
      lower_prefixed all]
  unfold findUnreconciled
  rw [same]

/-- `find_unreconciled` is the exact complement of the ledger in the set of standing credits. -/
theorem exact_complement (logs : List Fields) (entries : List LedgerEntry) (chainId : ℤ)
    (asset payee : Option Str) (assetOk : WellFormed asset) (payeeOk : WellFormed payee) :
    ((∃ error, findUnreconciled logs entries chainId asset payee = .error error) ↔
        Refused logs chainId asset payee) ∧
      (∀ credits, findUnreconciled logs entries chainId asset payee = .ok credits →
        IsComplement credits logs entries chainId) ∧
      (∀ others, (∀ log, log ∈ others ↔ log ∈ logs) → ∀ credits,
        findUnreconciled others entries chainId asset payee = .ok credits ↔
          findUnreconciled logs entries chainId asset payee = .ok credits) ∧
      (∀ entry, (∀ credits, findUnreconciled logs entries chainId asset payee = .ok credits →
          findUnreconciled logs (entry :: entries) chainId asset payee =
            .ok (credits.filter fun credit => decide (credit.identity ≠ entry.settlement))) ∧
        ∀ error, findUnreconciled logs entries chainId asset payee = .error error →
          findUnreconciled logs (entry :: entries) chainId asset payee = .error error) ∧
      ∀ text, isExactHex 40 text = true →
        (∀ log ∈ logs, ∃ credit, decodeTransferLog log chainId = .ok credit) →
        reconcileAssetScoped logs entries chainId text payee =
          findUnreconciled (logs.filter (isOfAsset text chainId)) entries chainId (some text)
            payee := by
  refine ⟨error_iff assetOk payeeOk, fun credits => isComplement_of_ok assetOk payeeOk, ?_, ?_, ?_⟩
  · intro others same credits
    exact ⟨ok_congr assetOk payeeOk fun log => (same log).symm, ok_congr assetOk payeeOk same⟩
  · intro entry
    exact ⟨fun credits => ok_cons assetOk payeeOk, fun error => error_cons assetOk payeeOk⟩
  · intro text exact decodable
    exact reconcileAssetScoped_eq exact decodable

end Complement

/-! ### A snapshot

Two transfers of the expected asset, one of them listed twice and the other one known to the
ledger. -/

def knownTexts : LogTexts :=
  { sampleTexts with transactionHash := hexWord 0x1002, logIndex := "0x2".toList }

def knownIdentity : SettlementIdentity := ⟨84532, hexAddress 0x70, hexWord 0x1002, 2⟩

def sampleCredit : OnChainCredit where
  identity := ⟨84532, hexAddress 0x70, hexWord 0x1001, 1⟩
  blockHash := hexWord 0x11
  blockNumber := 1
  payer := hexAddress 0xa1
  payee := hexAddress 0xb2
  value := 100
  removed := false

def snapshot : List Fields := [sampleTexts.log, knownTexts.log, sampleTexts.log]

/-- The transfer that is listed twice is reported once, the known one is not; when it is known
as well, nothing is left, and another expected asset is refused. -/
theorem exact_complement_sample : letI := asciiInterpreter []
    findUnreconciled snapshot [.settled knownIdentity] 84532 (some (hexAddress 0x70)) none =
        .ok [sampleCredit] ∧
      IsComplement [sampleCredit] snapshot [.settled knownIdentity] 84532 ∧
      findUnreconciled snapshot [.credited sampleCredit, .settled knownIdentity] 84532
        (some (hexAddress 0x70)) none = .ok [] ∧
      Refused snapshot 84532 (some (hexAddress 0x71)) none := by
  let := asciiInterpreter []
  have absent : WellFormed none := by
    rintro _ ⟨⟩
  have expected : WellFormed (some (hexAddress 0x70)) := by
    rintro _ ⟨⟩ _
    decide
  have foreign : WellFormed (some (hexAddress 0x71)) := by
    rintro _ ⟨⟩ _
    decide
  have found : findUnreconciled snapshot [.settled knownIdentity] 84532 (some (hexAddress 0x70))
      none = .ok [sampleCredit] := by
    decide +kernel
  have law := exact_complement snapshot [.settled knownIdentity] 84532 (some (hexAddress 0x70)) none
    expected absent
  have other := exact_complement snapshot [] 84532 (some (hexAddress 0x71)) none foreign absent
  refine ⟨found, law.2.1 _ found, ?_, ?_⟩
  · rw [(law.2.2.2.1 (.credited sampleCredit)).1 _ found]
    rfl
  · apply other.1.mp
    cases outcome : findUnreconciled snapshot [] 84532 (some (hexAddress 0x71)) none with
    | error error => exact ⟨error, rfl⟩
    | ok credits =>
      have refused : (findUnreconciled snapshot [] 84532 (some (hexAddress 0x71)) none).toBool =
          false := by
        decide +kernel
      rw [outcome] at refused
      cases refused

end Ledger

end Psv
