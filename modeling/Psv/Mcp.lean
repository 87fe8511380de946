import Psv.Interaction.Alike
import Psv.Cli.Reconcile
import Psv.Verdict.Drift
import Psv.Verdict.Report

/-!
# The tools for agents

`mcp_server.py`: the rails, a reconciliation and a drift observation as tools.  The
caller is not the operator, so what a failure says goes to the log, and the caller is
told that there was one.  A session is any sequence of calls.  What its caller is told
is determined by the results of the node: the texts of failures make no difference,
in whatever a node that sees the whole conversation makes of them (`session_alike`).
Whatever the node answers, every verdict in a session is that of a window of the
conversation (`session_answers`).
-/

namespace Psv

open Python Interaction Program RpcClient Anvil Chain Rails

namespace McpServer

variable [Interpreter]

/-! ### The server -/

/-- A line of the log: the tool that failed, the rail it was called for, and why it failed. -/
structure Warning where
  tool : String
  rail : String
  cause : PyError

/-- What a tool hands back. -/
inductive ToolResult where
  | error (text : Str)
  | rails (entries : List (List (String × Json)))
  | document (members : List (String × Json))

/-- What a caller asks for. -/
inductive ToolCall where
  | listRails
  | reconcileSettlement (rail : String) (payment : Payment) (sutBelievesPaid : Bool)
  | railDrift (rail : String)

/-- The text of the `ConfigurationError`. -/
def unconfigured : Str :=
  ("no RPC endpoint configured — set PSV_RPC_URL to the node this " ++
    "deployment verifies against. It is deliberately not a tool argument: " ++
    "a verdict is only worth as much as the chain it was read from.").toList

/-- Resolve the operator-configured RPC endpoint, or say what is missing. -/
def rpcEndpoint (configured : Option Str) : Except Str Str :=
  let endpoint := stripText (configured.getD [])
  if endpoint = [] then .error unconfigured else .ok endpoint

/-- Return the reviewed rail registry. -/
def listRails : List (List (String × Json)) :=
  (knownRails.mergeSort fun left right => left.key ≤ right.key).map fun rail =>
    [("key", .str rail.key.toList), ("label", .str rail.label.toList), ("chain_id", .int rail.chainId),
      ("token_address", .str rail.tokenAddress), ("decimals", .int rail.decimals)]

/-- `RailDriftCheck.as_dict` -/
def driftDict (check : RailDriftCheck) : List (String × Json) :=
  [("railKey", .str check.railKey.toList), ("chainId", .int check.chainId),
    ("blockNumber", .int check.blockNumber), ("blockHash", .str check.blockHash),
    ("codeSha256", .str check.codeSha256),
    ("expectedCodeSha256", ReconReport.optionalText check.expectedCodeSha256),
    ("implementationAddress", ReconReport.optionalText check.implementationAddress),
    ("implementationCodeSha256", ReconReport.optionalText check.implementationCodeSha256),
    ("attestationVersion", .str check.attestationVersion.toList),
    ("calibrated", .bool check.calibrated), ("matches", .bool check.isMatch),
    ("reason", .str check.reason.toList), ("readOnly", .bool true)]

/-- `{"matches": check.matches, **_as_dict(check)}`, where the first member keeps its place. -/
def driftAnswer (check : RailDriftCheck) : List (String × Json) :=
  ("matches", .bool check.isMatch) ::
    (driftDict check).filter fun entry => entry.1 ≠ "matches"

/-- Look the rail up and run a tool for it; a failure is logged, and only its kind is told. -/
def onRail (endpoint : Option Str) (tool : String) (rail : String) (told : String)
    (run : RailConfig → Proc (List Warning) (List (String × Json))) :
    Proc (List Warning) ToolResult :=
  match rpcEndpoint endpoint with
  | .error text => return .error text
  | .ok _ =>
      match Cli.getRail rail with
      | .error text => return .error text
      | .ok config => do
          let outcome ← (run config).attempt
          match outcome with
          | .ok members => return .document members
          | .error cause => do
              modify fun log => log ++ [⟨tool, rail, cause⟩]
              return .error told.toList

/-- Reconcile one settlement against pinned on-chain truth. -/
def reconcileSettlement (endpoint : Option Str) (rail : String) (payment : Payment)
    (sutBelievesPaid : Bool) : Proc (List Warning) ToolResult :=
  onRail endpoint "reconcile_settlement" rail "reconciliation could not be completed"
    fun config => do
      let report ← runReconcile (tokenForRail config) config payment sutBelievesPaid none
      return report.toDict

/-- Observe one rail's deployed runtime for drift from the reviewed state. -/
def railDrift (endpoint : Option Str) (rail : String) : Proc (List Warning) ToolResult :=
  onRail endpoint "rail_drift" rail "drift observation could not be completed" fun config => do
    let check ← checkRailDrift config
    return driftAnswer check

/-- Answer one call. -/
def serve (endpoint : Option Str) : ToolCall → Proc (List Warning) ToolResult
  | .listRails => return .rails listRails
  | .reconcileSettlement rail payment believes => reconcileSettlement endpoint rail payment believes
  | .railDrift rail => railDrift endpoint rail

/-- Answer calls one after the other. -/
def session (endpoint : Option Str) : List ToolCall → Proc (List Warning) (List ToolResult)
  | [] => return []
  | call :: calls => do
      let result ← serve endpoint call
      let results ← session endpoint calls
      return result :: results

/-! ### Failures are alike -/

/-- The same answer, or two failures of the node. -/
def sameButText : ∀ question : Ask, question.Answer → question.Answer → Prop
  | .rpc _ _, left, right => SameResult left right
  | .sign _, left, right => left = right
  | .clock, left, right => left = right
  | .now, left, right => left = right
  | .tokenHex _, left, right => left = right

/-- The worlds answer with the same results and fail at the same questions. -/
def AlikeWorlds (first second : World) : Prop :=
  AlikeEnvironments (S := interface) sameButText first second

section Blind

variable {σ : Type} {token : TokenView} {rail : RailConfig} {payment : Payment}

/-- A program whose questions do not depend on texts of failures. -/
abbrev Deaf {α : Type} (program : Proc σ α) : Prop := Blind (S := interface) sameButText program

omit [Interpreter] in
theorem deaf_call (method : String) (params : List Value) :
    Deaf (call method params : Proc σ Value) := by
  refine blind_question_lift fun first second same => ?_
  cases same with
  | ok value => exact .ok value
  | error one other => exact .error _ _

omit [Interpreter] in
theorem deaf_now : Deaf (now : Proc σ DateTime) := by
  intro left right
  refine .ask fun first second alike => ?_
  rw [show first = second from alike]
  exact .ret ⟨.ok second, rfl, rfl⟩

theorem deaf_chainId : Deaf (chainId : Proc σ ℕ) :=
  (deaf_call _ _).bind fun _ => blind_lift _

theorem deaf_getBlock (block : BlockId) : Deaf (getBlock block : Proc σ Fields) :=
  (blind_lift _).bind fun _ => (deaf_call _ _).bind fun _ => blind_lift _

theorem deaf_getTransactionReceipt (txHash : Str) :
    Deaf (getTransactionReceipt txHash : Proc σ Fields) :=
  (blind_lift _).bind fun _ => (deaf_call _ _).bind fun _ => blind_lift _

theorem deaf_getLogs (target : Str) (topics : List (Option Str)) (fromBlock toBlock : BlockId) :
    Deaf (getLogs target topics fromBlock toBlock : Proc σ (List Fields)) :=
  (blind_lift _).bind fun _ => (deaf_call _ _).bind fun _ => blind_lift _

theorem deaf_getCode (target : Str) (block : BlockId) : Deaf (getCode target block : Proc σ Str) :=
  (blind_lift _).bind fun _ => (deaf_call _ _).bind fun _ => blind_lift _

theorem deaf_balanceOf (token : TokenView) (who : Value) (block : BlockId) :
    Deaf (token.balanceOf who block : Proc σ ℕ) :=
  (blind_lift _).bind fun _ => Blind.bind ((blind_lift _).bind fun _ =>
    (deaf_call _ _).bind fun _ => blind_lift _) fun _ => blind_lift _

theorem deaf_authorizationUsed (token : TokenView) (who nonce : Value) (block : BlockId) :
    Deaf (token.authorizationUsed who nonce block : Proc σ Bool) :=
  (blind_lift _).bind fun _ => Blind.bind ((blind_lift _).bind fun _ =>
    (deaf_call _ _).bind fun _ => blind_lift _) fun _ => blind_lift _

theorem deaf_verifyReviewAnchor (rail : RailConfig) :
    Deaf (verifyReviewAnchor rail : Proc σ Unit) := by
  rw [verifyReviewAnchor]
  cases reviewAnchor rail with
  | none => exact blind_pure ()
  | some number =>
    exact (deaf_getBlock _).bind fun _ => (blind_lift _).bind fun _ => blind_lift _

theorem deaf_implementationIdentity (rail : RailConfig) (number : ℕ) :
    Deaf (implementationIdentity rail number : Proc σ (Option Str × Option Str)) := by
  rw [implementationIdentity]
  split
  · exact blind_pure _
  · split
    · exact (deaf_call _ _).bind fun _ => (blind_lift _).bind fun _ => (deaf_getCode _ _).bind
        fun _ => (blind_lift _).bind fun _ => (blind_lift _).bind fun _ => blind_pure _
    · exact blind_lift (.error _)

theorem deaf_readSnapshot (token : TokenView) (payment : Payment) (number : ℕ) :
    Deaf (readSnapshot token payment number : Proc σ Snapshot) :=
  (blind_lift _).bind fun _ => (deaf_balanceOf _ _ _).bind fun _ => (deaf_balanceOf _ _ _).bind
    fun _ => (deaf_balanceOf _ _ _).bind fun _ => (deaf_balanceOf _ _ _).bind
    fun _ => (deaf_authorizationUsed _ _ _ _).bind fun _ => (blind_lift _).bind fun _ => blind_pure _

theorem deaf_ensureNoSameBlockRace (token : TokenView) (credit : OnChainCredit) (payer payee : Str) :
    Deaf (ensureNoSameBlockRace token credit payer payee : Proc σ Unit) :=
  (blind_lift _).bind fun _ => (deaf_getLogs _ _ _ _).bind fun _ => (blind_lift _).bind
    fun _ => (deaf_getLogs _ _ _ _).bind fun _ => blind_lift _

theorem deaf_attributeReceipt (token : TokenView) (payment : Payment) (liveChain : ℕ)
    (txHash : Str) (point : SettlementPoint) (receipt : Fields) (snapshot : Snapshot) :
    Deaf (attributeReceipt token payment liveChain txHash point receipt snapshot :
      Proc σ Attribution) := by
  rw [attributeReceipt]
  split
  · exact (blind_lift _).bind fun _ => (deaf_ensureNoSameBlockRace _ _ _ _).bind
      fun _ => blind_lift _
  · exact blind_lift _

theorem deaf_observe (token : TokenView) (rail : RailConfig) (payment : Payment) :
    Deaf (observe token rail payment : Proc σ (SettlementTruth × ChainEvidence)) :=
  (blind_lift _).bind fun _ => deaf_chainId.bind fun _ => (blind_lift _).bind
    fun _ => (blind_lift _).bind fun _ => (deaf_verifyReviewAnchor _).bind
    fun _ => (deaf_getBlock _).bind fun _ => (blind_lift _).bind
    fun _ => (deaf_getTransactionReceipt _).bind fun _ => (blind_lift _).bind
    fun _ => (deaf_getBlock _).bind fun _ => (blind_lift _).bind fun _ => (deaf_getCode _ _).bind
    fun _ => (blind_lift _).bind fun _ => (deaf_implementationIdentity _ _).bind
    fun _ => (deaf_readSnapshot _ _ _).bind fun _ => (deaf_attributeReceipt _ _ _ _ _ _ _).bind
    fun _ => (deaf_getTransactionReceipt _).bind fun _ => (deaf_getBlock _).bind
    fun _ => (blind_lift _).bind fun _ => blind_pure _

theorem deaf_runReconcile (token : TokenView) (rail : RailConfig) (payment : Payment)
    (believes : Bool) : Deaf (runReconcile token rail payment believes none : Proc σ ReconReport) :=
  Blind.bind ((deaf_observe _ _ _).bind fun _ => (blind_lift _).bind fun _ => blind_pure _)
    fun _ => deaf_now.bind fun _ => blind_lift _

theorem deaf_checkRailDrift (rail : RailConfig) :
    Deaf (checkRailDrift rail : Proc σ RailDriftCheck) :=
  deaf_chainId.bind fun _ => (blind_lift _).bind fun _ => (deaf_verifyReviewAnchor _).bind
    fun _ => (deaf_getBlock _).bind fun _ => (blind_lift _).bind fun _ => (deaf_getCode _ _).bind
    fun _ => (blind_lift _).bind fun _ => (deaf_implementationIdentity _ _).bind
    fun _ => (deaf_balanceOf _ _ _).bind fun _ => (deaf_authorizationUsed _ _ _ _).bind
    fun _ => blind_pure _

end Blind

/-! ### Sessions -/

section Sessions

variable {endpoint other : Option Str} {left right : List Warning}

/-- The lines of the log are about the same tools and rails. -/
def SameLog (left right : List Warning) : Prop :=
  left.map (fun warning => (warning.tool, warning.rail)) =
    right.map fun warning => (warning.tool, warning.rail)

/-- Either side has returned the same, and logged failures of the same tools. -/
def TellsTheSame {α : Type} (result : Except PyError α) (log : List Warning)
    (result' : Except PyError α) (log' : List Warning) : Prop :=
  ∃ answer, result = .ok answer ∧ result' = .ok answer ∧ SameLog log log'

/-- Sessions, or parts of them, that tell the same whatever failures say. -/
def Discreet {α : Type} (program other : Proc (List Warning) α) : Prop :=
  ∀ left right, SameLog left right →
    Related (S := interface) sameButText TellsTheSame program left other right

omit [Interpreter] in
theorem discreet_pure {α : Type} (value : α) :
    Discreet (pure value : Proc (List Warning) α) (pure value) :=
  fun _ _ same => .ret ⟨value, rfl, rfl, same⟩

omit [Interpreter] in
theorem Discreet.bind {α β : Type} {program program' : Proc (List Warning) α}
    {next next' : α → Proc (List Warning) β} (discreet : Discreet program program')
    (continues : ∀ value, Discreet (next value) (next' value)) :
    Discreet (program >>= next) (program' >>= next') := by
  intro left right same
  refine (discreet left right same).bind ?_ ?_
  · rintro _ _ _ _ ⟨_, ⟨⟩, ⟨⟩, sameLater⟩
    exact continues _ _ _ sameLater
  · rintro _ _ _ _ ⟨_, impossible, _⟩
    cases impossible

/-- Either both endpoints are configured, or neither is. -/
def BothConfigured (endpoint other : Option Str) : Prop :=
  stripText (endpoint.getD []) = [] ↔ stripText (other.getD []) = []

theorem BothConfigured.cases (both : BothConfigured endpoint other) :
    (rpcEndpoint endpoint = .error unconfigured ∧ rpcEndpoint other = .error unconfigured) ∨
      ∃ url url', rpcEndpoint endpoint = .ok url ∧ rpcEndpoint other = .ok url' := by
  by_cases missing : stripText (endpoint.getD []) = []
  · exact Or.inl ⟨if_pos missing, if_pos (both.mp missing)⟩
  · exact Or.inr ⟨_, _, if_neg missing, if_neg fun isMissing => missing (both.mpr isMissing)⟩

theorem discreet_onRail {tool rail told : String} (both : BothConfigured endpoint other)
    {run : RailConfig → Proc (List Warning) (List (String × Json))}
    (deaf : ∀ config, Deaf (run config)) :
    Discreet (onRail endpoint tool rail told run) (onRail other tool rail told run) := by
  rw [onRail, onRail]
  rcases both.cases with ⟨first, second⟩ | ⟨url, url', first, second⟩
  · rw [first, second]
    exact discreet_pure _
  · rw [first, second]
    dsimp only
    cases Cli.getRail rail with
    | error text => exact discreet_pure _
    | ok config =>
      intro left right same
      refine (deaf config left right).attempt_bind ?_
      rintro _ _ _ _ ⟨results, rfl, rfl⟩
      cases results with
      | ok members => exact .ret ⟨_, rfl, rfl, same⟩
      | error cause cause' =>
        refine .getLeft (.getRight (.setLeft (.setRight (.ret ⟨_, rfl, rfl, ?_⟩))))
        rw [SameLog, List.map_append, List.map_append]
        exact congrArg (· ++ [(tool, rail)]) same

theorem discreet_serve (both : BothConfigured endpoint other) (call : ToolCall) :
    Discreet (serve endpoint call) (serve other call) := by
  cases call with
  | listRails => exact discreet_pure _
  | reconcileSettlement rail payment believes =>
    exact discreet_onRail both fun config => (deaf_runReconcile _ _ _ _).bind fun _ => blind_pure _
  | railDrift rail =>
    exact discreet_onRail both fun config => (deaf_checkRailDrift _).bind fun _ => blind_pure _

theorem discreet_session (both : BothConfigured endpoint other) (calls : List ToolCall) :
    Discreet (session endpoint calls) (session other calls) := by
  induction calls with
  | nil => exact discreet_pure _
  | cons call calls ih =>
    exact (discreet_serve both call).bind fun _ => ih.bind fun _ => discreet_pure _

/-- In sessions of the same calls with two nodes that give the same results and fail at the same
questions, every call is told the same, and the logs name the same failures, whatever the endpoints
are called, whatever the texts of the failures are and whatever the nodes make of them later. -/
theorem session_alike {first second : World} {before earlier : Conversation}
    (both : BothConfigured endpoint other) (alike : AlikeWorlds first second)
    (histories : AlikeHistories (S := interface) sameButText before earlier)
    (same : SameLog left right) (calls : List ToolCall) :
    ∃ results, ((session endpoint calls).run first left before).result = .ok results ∧
      ((session other calls).run second right earlier).result = .ok results ∧
      SameLog ((session endpoint calls).run first left before).state
        ((session other calls).run second right earlier).state := by
  rcases ((discreet_session both calls left right same).run alike histories).1 with
    ⟨results, isFirst, isSecond, sameLater⟩
  exact ⟨results, isFirst, isSecond, sameLater⟩

/-- A node that is out of reach, as its client reports it. -/
def unreachable (text : String) : World
  | _, .rpc _ _ => .error text
  | _, .sign _ => .ok []
  | _, .clock => ⟨1, Int.zero_lt_one⟩
  | _, .now => ⟨true, .ok []⟩
  | _, .tokenHex _ => ""

omit [Interpreter] in
theorem alike_unreachable (text text' : String) :
    AlikeWorlds (unreachable text) (unreachable text') := by
  intro left right _ question
  cases question with
  | rpc method params => exact .error _ _
  | sign transaction => rfl
  | clock => rfl
  | now => rfl
  | tokenHex bytes => rfl

omit [Interpreter] in
/-- Two nodes with keys in their endpoints, which the texts of their failures quote. -/
theorem session_alike_unreachable : letI := asciiInterpreter []
    ∃ results,
      ((session (some "https://rpc/first-key".toList) [.listRails, .railDrift "mock-anvil"]).run
        (unreachable "https://rpc/first-key timed out") [] []).result = .ok results ∧
      ((session (some "https://rpc/second-key".toList) [.listRails, .railDrift "mock-anvil"]).run
        (unreachable "https://rpc/second-key refused") [] []).result = .ok results ∧
      SameLog
        ((session (some "https://rpc/first-key".toList) [.listRails, .railDrift "mock-anvil"]).run
          (unreachable "https://rpc/first-key timed out") [] []).state
        ((session (some "https://rpc/second-key".toList) [.listRails, .railDrift "mock-anvil"]).run
          (unreachable "https://rpc/second-key refused") [] []).state := by
  let := asciiInterpreter []
  have both : BothConfigured (some "https://rpc/first-key".toList)
      (some "https://rpc/second-key".toList) :=
    iff_of_false (by decide) (by decide)
  exact session_alike both (alike_unreachable _ _) .nil rfl _

end Sessions

/-! ### What answers rest on -/

section Answers

variable {endpoint : Option Str} {log later : List Warning} {said longer : Conversation}
  {call : ToolCall} {answer : ToolResult}

/-- The document is the report on a window of the conversation: valid, and graded by its own
evidence and the belief that was passed. -/
def Verified (said : Conversation) (rail : String) (payment : Payment) (believes : Bool)
    (members : List (String × Json)) : Prop :=
  ∃ (config : RailConfig) (window : Window) (report : ReconReport),
    Cli.getRail rail = .ok config ∧ window.Accepted (tokenForRail config) config payment ∧
    window.transcript (tokenForRail config) config payment <:+: said ∧
    report.evidence = window.evidence (tokenForRail config) config payment ∧
    report.validate = .ok () ∧ Verdict.Graded report believes ∧ members = report.toDict

/-- The document is the drift check of a window of the conversation. -/
def Observed (said : Conversation) (rail : String) (members : List (String × Json)) : Prop :=
  ∃ (config : RailConfig) (window : Verdict.DriftWindow), Cli.getRail rail = .ok config ∧
    window.Accepted config ∧ window.transcript config <:+: said ∧
    members = driftAnswer (window.check config)

/-- A text that says nothing about the node. -/
def Refused (endpoint : Option Str) (rail told : String) (text : Str) : Prop :=
  rpcEndpoint endpoint = .error text ∨ Cli.getRail rail = .error text ∨ text = told.toList

/-- What may be answered to a call. -/
inductive Answered (endpoint : Option Str) (said : Conversation) : ToolCall → ToolResult → Prop where
  | listed : Answered endpoint said .listRails (.rails listRails)
  | verified {rail : String} {payment : Payment} {believes : Bool}
      {members : List (String × Json)} (verified : Verified said rail payment believes members) :
      Answered endpoint said (.reconcileSettlement rail payment believes) (.document members)
  | unreconciled {rail : String} {payment : Payment} {believes : Bool} {text : Str}
      (refused : Refused endpoint rail "reconciliation could not be completed" text) :
      Answered endpoint said (.reconcileSettlement rail payment believes) (.error text)
  | observed {rail : String} {members : List (String × Json)}
      (observed : Observed said rail members) :
      Answered endpoint said (.railDrift rail) (.document members)
  | unobserved {rail : String} {text : Str}
      (refused : Refused endpoint rail "drift observation could not be completed" text) :
      Answered endpoint said (.railDrift rail) (.error text)

theorem Answered.mono (answered : Answered endpoint said call answer) (part : said <:+: longer) :
    Answered endpoint longer call answer := by
  cases answered with
  | listed => exact .listed
  | verified verified =>
    rcases verified with ⟨config, window, report, known, accepted, inside, rest⟩
    exact .verified ⟨config, window, report, known, accepted, inside.trans part, rest⟩
  | unreconciled refused => exact .unreconciled refused
  | observed observed =>
    rcases observed with ⟨config, window, known, accepted, inside, rest⟩
    exact .observed ⟨config, window, known, accepted, inside.trans part, rest⟩
  | unobserved refused => exact .unobserved refused

/-- A tool on a rail answers with what its program returns, or refuses. -/
theorem onRail_answers {tool rail told : String} {result : Except PyError ToolResult}
    {run : RailConfig → Proc (List Warning) (List (String × Json))}
    (replays : (onRail endpoint tool rail told run).Replays log said result later) :
    (∃ text, result = .ok (.error text) ∧ Refused endpoint rail told text) ∨
      ∃ config members middle, result = .ok (.document members) ∧ Cli.getRail rail = .ok config ∧
        (run config).Replays log said (.ok members) middle := by
  rw [onRail] at replays
  cases configured : rpcEndpoint endpoint with
  | error text =>
    rw [configured] at replays
    exact Or.inl ⟨text, replays.2.1, Or.inl configured⟩
  | ok url =>
    rw [configured] at replays
    dsimp only at replays
    cases known : Cli.getRail rail with
    | error text =>
      rw [known] at replays
      exact Or.inl ⟨text, replays.2.1, Or.inr (Or.inl known)⟩
    | ok config =>
      rw [known] at replays
      rcases replays_attempt_bind_iff.mp replays with
        ⟨outcome, middle, first, second, rfl, ended, rest⟩
      cases outcome with
      | error cause => exact Or.inl ⟨_, rest.2.1, Or.inr (Or.inr rfl)⟩
      | ok members =>
        rcases rest with ⟨rfl, isDocument, _⟩
        rw [List.append_nil]
        exact Or.inr ⟨config, members, middle, isDocument, rfl, ended⟩

theorem verified_of_replays {rail : String} {config : RailConfig} {payment : Payment}
    {believes : Bool} {report : ReconReport} (known : Cli.getRail rail = .ok config)
    (replays : Replays (runReconcile (tokenForRail config) config payment believes none :
      Proc (List Warning) _) log said (.ok report) later) :
    Verified said rail payment believes report.toDict := by
  rcases Verdict.window_of_runReconcile replays with
    ⟨window, divergence, moment, tail, accepted, rfl, detected, built⟩
  rcases (Verdict.build_eq_ok_iff accepted).mp built with ⟨_, text, code, _, coded, isReport⟩
  have evidence : report.evidence = window.evidence (tokenForRail config) config payment := by
    rw [isReport]
  have kind : report.kind = divergence.kind.value := by
    rw [isReport]
  rcases accepted.graded detected with ⟨graded, severity⟩
  refine ⟨config, window, report, known, accepted, (List.prefix_append _ tail).isInfix, evidence,
    ?_, ?_, rfl⟩
  · refine Verdict.validate_of_accepted accepted evidence ?_ ?_
    · rw [isReport]
    · rw [isReport]
      exact coded
  · refine Verdict.graded_of_grade accepted.point.status_cases ?_ kind ?_ ?_ severity
    · rw [evidence]
      rfl
    · rw [isReport]
    · rw [evidence]
      exact graded

theorem serve_answers {result : Except PyError ToolResult}
    (replays : (serve endpoint call).Replays log said result later) :
    ∃ answer, result = .ok answer ∧ Answered endpoint said call answer := by
  cases call with
  | listRails => exact ⟨_, replays.2.1, .listed⟩
  | reconcileSettlement rail payment believes =>
    rcases onRail_answers replays with ⟨text, rfl, refused⟩ |
      ⟨config, members, middle, rfl, known, replays⟩
    · exact ⟨_, rfl, .unreconciled refused⟩
    · rcases replays_bind_ok_iff.mp replays with ⟨report, _, _, _, rfl, ran, rfl, same, _⟩
      rw [List.append_nil]
      cases same
      exact ⟨_, rfl, .verified (verified_of_replays known ran)⟩
  | railDrift rail =>
    rcases onRail_answers replays with ⟨text, rfl, refused⟩ |
      ⟨config, members, middle, rfl, known, replays⟩
    · exact ⟨_, rfl, .unobserved refused⟩
    · rcases replays_bind_ok_iff.mp replays with ⟨check, _, _, _, rfl, ran, rfl, same, _⟩
      rw [List.append_nil]
      cases same
      rcases (Verdict.reads_checkRailDrift config _ _ _ _).mp ran with ⟨⟨window, accepted, rfl, rfl⟩, _⟩
      exact ⟨_, rfl, .observed ⟨config, window, known, accepted, List.infix_rfl, rfl⟩⟩

theorem session_replays {calls : List ToolCall} {result : Except PyError (List ToolResult)}
    (replays : (session endpoint calls).Replays log said result later) :
    ∃ results, result = .ok results ∧ List.Forall₂ (Answered endpoint said) calls results := by
  induction calls generalizing log said result later with
  | nil => exact ⟨[], replays.2.1, .nil⟩
  | cons call calls ih =>
    rcases replays_bind_iff.mp replays with
      ⟨answer, _, first, second, rfl, served, rest⟩ | ⟨error, _, served⟩
    · rcases serve_answers served with ⟨_, ⟨⟩, answered⟩
      rcases replays_bind_iff.mp rest with
        ⟨answers, _, middle, _, rfl, continued, rfl, rfl, _⟩ | ⟨error, _, continued⟩
      · rcases ih continued with ⟨_, ⟨⟩, others⟩
        rw [List.append_nil]
        refine ⟨_, rfl, .cons (answered.mono (List.prefix_append _ _).isInfix) ?_⟩
        exact others.imp fun _ _ other => other.mono (List.suffix_append _ _).isInfix
      · rcases ih continued with ⟨_, impossible, _⟩
        cases impossible
    · rcases serve_answers served with ⟨_, impossible, _⟩
      cases impossible

/-- In every session with any node, every call is answered: a reconciliation with the valid report
on a window of the conversation or a text that says nothing about the node, and the same for drift
observations. -/
theorem session_answers (world : World) (history : Conversation) (calls : List ToolCall) :
    ∃ results said, ((session endpoint calls).run world log history).result = .ok results ∧
      ((session endpoint calls).run world log history).history = history ++ said ∧
      Follows world history said ∧ List.Forall₂ (Answered endpoint said) calls results := by
  rcases ended : (session endpoint calls).run world log history with ⟨result, later, final⟩
  rcases (run_eq_iff _).mp ended with ⟨said, rfl, follows, replays⟩
  rcases session_replays replays with ⟨results, rfl, answered⟩
  exact ⟨results, said, rfl, rfl, follows, answered⟩

end Answers

end McpServer

end Psv
