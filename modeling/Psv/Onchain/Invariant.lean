import Psv.Onchain.Token

/-!
# The ledger of the mock token

Whatever is called, by whom and in which order, the balances sum up to the total
supply, the switches stay in their ranges and an authorization is settled at most
once.  A settled transfer debits the payer by the gross value and credits the
receiver and the administrator, whichever of the three accounts coincide, and no
addition of a transfer can overflow.
-/

namespace Psv

open Python Interaction Node Balances

namespace Onchain

/-! ### Arithmetic -/

theorem require_eq_ok_iff {condition : Prop} [Decidable condition] {reason : String}
    {result : Unit} : require condition reason = .ok result ↔ condition := by
  rw [require, refuse_eq_ok_iff, not_not]

/-- No addition of a computation overflows. -/
def Additive {α : Type} (computation : Except Revert α) : Prop :=
  FailsOnly (· ≠ .overflow .add) computation

theorem additive_require {condition : Prop} [Decidable condition] {reason : String} :
    Additive (require condition reason) := by
  apply failsOnly_refuse
  intro same
  cases same

theorem additive_checkedSub (a b : Word) : Additive (checkedSub a b) := by
  rw [checkedSub]
  split_ifs
  · exact failsOnly_ok _
  · apply failsOnly_error
    intro same
    cases same

theorem additive_checkedMul (a b : Word) : Additive (checkedMul a b) := by
  rw [checkedMul]
  split_ifs
  · exact failsOnly_ok _
  · apply failsOnly_error
    intro same
    cases same

theorem checkedAdd_eq_ok_iff {a b c : Word} :
    checkedAdd a b = .ok c ↔ c.toNat = a.toNat + b.toNat := by
  rw [checkedAdd]
  split_ifs with fits
  · have sum : (a + b).toNat = a.toNat + b.toNat := by
      rw [BitVec.toNat_add, Nat.mod_eq_of_lt fits]
    rw [Except.ok.injEq, ← sum, ← BitVec.toNat_inj, eq_comm]
  · constructor
    · intro impossible
      cases impossible
    · intro same
      exact absurd (same ▸ c.isLt) fits

theorem checkedSub_eq_ok_iff {a b c : Word} :
    checkedSub a b = .ok c ↔ c.toNat + b.toNat = a.toNat := by
  rw [checkedSub]
  split_ifs with covered
  · have difference : (a - b).toNat = a.toNat - b.toNat := BitVec.toNat_sub_of_le covered
    rw [Except.ok.injEq, ← BitVec.toNat_inj, difference]
    omega
  · constructor
    · intro impossible
      cases impossible
    · intro same
      omega

theorem checkedMul_eq_ok_iff {a b c : Word} :
    checkedMul a b = .ok c ↔ c.toNat = a.toNat * b.toNat := by
  rw [checkedMul]
  split_ifs with fits
  · have product : (a * b).toNat = a.toNat * b.toNat := by
      rw [BitVec.toNat_mul, Nat.mod_eq_of_lt fits]
    rw [Except.ok.injEq, ← product, ← BitVec.toNat_inj, eq_comm]
  · constructor
    · intro impossible
      cases impossible
    · intro same
      exact absurd (same ▸ c.isLt) fits

/-! ### Steps -/

/-- The balances of a state as numbers. -/
def State.balances (state : State) (who : Address) : ℕ := (state.balanceOf who).toNat

/-- Everything but the balances is as before. -/
structure SameRest (before after : State) : Prop where
  totalSupply : after.totalSupply = before.totalSupply
  authorizationState : after.authorizationState = before.authorizationState
  eventMode : after.eventMode = before.eventMode
  feeBps : after.feeBps = before.feeBps
  admin : after.admin = before.admin

theorem SameRest.trans {first second third : State} (left : SameRest first second)
    (right : SameRest second third) : SameRest first third :=
  ⟨right.totalSupply.trans left.totalSupply,
    right.authorizationState.trans left.authorizationState, right.eventMode.trans left.eventMode,
    right.feeBps.trans left.feeBps, right.admin.trans left.admin⟩

theorem setBalance_rest (state : State) (who : Address) (balance : Word) :
    SameRest state (state.setBalance who balance) :=
  ⟨rfl, rfl, rfl, rfl, rfl⟩

theorem setBalance_self (state : State) (who : Address) (balance : Word) :
    (state.setBalance who balance).balances who = balance.toNat :=
  congrArg BitVec.toNat (Function.update_self _ _ _)

theorem setBalance_of_ne (state : State) {who other : Address} (balance : Word)
    (different : other ≠ who) :
    (state.setBalance who balance).balances other = state.balances other :=
  congrArg BitVec.toNat (Function.update_of_ne different _ _)

theorem add_ok {state after : State} {who : Address} {amount : Word}
    (added : state.add who amount = .ok after) :
    Credited who amount.toNat state.balances after.balances ∧ SameRest state after := by
  rw [State.add, Checks.bind_eq_ok_iff] at added
  rcases added with ⟨balance, sum, same⟩
  cases same
  refine ⟨?_, setBalance_rest _ _ _⟩
  apply Credited.of_update
  · intro other different
    exact setBalance_of_ne _ _ different
  · rw [setBalance_self]
    exact checkedAdd_eq_ok_iff.mp sum

theorem sub_ok {state after : State} {who : Address} {amount : Word}
    (subtracted : state.sub who amount = .ok after) :
    Debited who amount.toNat state.balances after.balances ∧ SameRest state after := by
  rw [State.sub, Checks.bind_eq_ok_iff] at subtracted
  rcases subtracted with ⟨balance, difference, same⟩
  cases same
  refine ⟨?_, setBalance_rest _ _ _⟩
  have credited : Credited who amount.toNat (state.setBalance who balance).balances
      state.balances := by
    apply Credited.of_update
    · intro other different
      exact (setBalance_of_ne _ _ different).symm
    · rw [setBalance_self]
      exact (checkedSub_eq_ok_iff.mp difference).symm
  exact fun account => (credited account).symm

/-! ### Fees -/

/-- The fee on a value, as a number. -/
def feeAmount (state : State) (value : Word) : ℕ := value.toNat * state.feeBps.toNat / 10000

theorem feeOf_ok {state : State} {value fee : Word} (isFee : feeOf state value = .ok fee) :
    fee.toNat = feeAmount state value := by
  rw [feeOf, Checks.bind_eq_ok_iff] at isFee
  rcases isFee with ⟨product, isProduct, same⟩
  cases same
  rw [BitVec.toNat_udiv, checkedMul_eq_ok_iff.mp isProduct, feeAmount,
    BitVec.toNat_setWidth_of_le (by decide)]
  rfl

theorem feeAmount_le {state : State} (capped : state.feeBps.toNat ≤ 1000) (value : Word) :
    feeAmount state value ≤ value.toNat := by
  apply Nat.div_le_of_le_mul
  calc value.toNat * state.feeBps.toNat ≤ value.toNat * 1000 := Nat.mul_le_mul_left _ capped
    _ ≤ 10000 * value.toNat := by omega

/-! ### Transfers -/

/-- The payer is debited the value, the receiver credited the value without the fee, and the
administrator the fee. -/
def Moves (before after : State) (authorization : Authorization) : Prop :=
  ∀ account, after.balances account +
      (if account = authorization.fromAddr then authorization.value.toNat else 0) =
    before.balances account +
      (if account = authorization.toAddr then
        authorization.value.toNat - feeAmount before authorization.value else 0) +
      (if account = before.admin then feeAmount before authorization.value else 0)

/-- What moving funds does, step by step. -/
theorem moveFunds_steps {state after : State} {authorization : Authorization}
    (moved : moveFunds state authorization = .ok after) :
    ∃ (debited credited : State) (fee net : Word), feeOf state authorization.value = .ok fee ∧
      state.sub authorization.fromAddr authorization.value = .ok debited ∧
      checkedSub authorization.value fee = .ok net ∧
      debited.add authorization.toAddr net = .ok credited ∧
      Credited state.admin fee.toNat credited.balances after.balances ∧
      SameRest credited after := by
  simp only [moveFunds, Checks.bind_eq_ok_iff] at moved
  rcases moved with ⟨fee, isFee, debited, isDebited, net, isNet, credited, isCredited, rest⟩
  have admin : credited.admin = state.admin := by
    rw [(add_ok isCredited).2.admin, (sub_ok isDebited).2.admin]
  refine ⟨debited, credited, fee, net, isFee, isDebited, isNet, isCredited, ?_⟩
  split_ifs at rest with positive
  · rcases add_ok rest with ⟨parked, sameRest⟩
    rw [admin] at parked
    exact ⟨parked, sameRest⟩
  · cases rest
    have none_ : fee.toNat = 0 := by
      have small := BitVec.le_def.mp (BitVec.not_lt.mp positive)
      simpa using small
    rw [none_]
    exact ⟨credited_zero _ _, rfl, rfl, rfl, rfl, rfl⟩

theorem moveFunds_ok {state after : State} {authorization : Authorization}
    (moved : moveFunds state authorization = .ok after) :
    Moves state after authorization ∧ SameRest state after := by
  rcases moveFunds_steps moved with
    ⟨debited, credited, fee, net, isFee, isDebited, isNet, isCredited, parked, sameRest⟩
  rcases sub_ok isDebited with ⟨paid, firstRest⟩
  rcases add_ok isCredited with ⟨received, secondRest⟩
  refine ⟨?_, (firstRest.trans secondRest).trans sameRest⟩
  have feeEq := feeOf_ok isFee
  have netEq := checkedSub_eq_ok_iff.mp isNet
  intro account
  have first := paid account
  have second := received account
  have third := parked account
  have isNetAmount : net.toNat = authorization.value.toNat - feeAmount state authorization.value := by
    omega
  rw [isNetAmount] at second
  rw [feeEq] at third
  omega

theorem total_moves {state after : State} {authorization : Authorization}
    (moved : moveFunds state authorization = .ok after) :
    total after.balances = total state.balances := by
  rcases moveFunds_steps moved with
    ⟨debited, credited, fee, net, isFee, isDebited, isNet, isCredited, parked, _⟩
  have first := (sub_ok isDebited).1.total_eq
  have second := (add_ok isCredited).1.total_eq
  have third := parked.total_eq
  have netEq := checkedSub_eq_ok_iff.mp isNet
  omega

section Transfers

variable [Cryptography] {message : Message} {state after : State} {authorization : Authorization}
  {events : List Event}

/-- A settled authorization was unused, and is used afterwards; the funds have moved. -/
theorem transfer_ok
    (settled : transferWithAuthorization message state authorization = .ok (after, events)) :
    checkAuthorization message state authorization = .ok () ∧
      state.authorizationState authorization.fromAddr authorization.nonce = false ∧
      after.authorizationState =
        (state.markUsed authorization.fromAddr authorization.nonce).authorizationState ∧
      authorization.value ≤ state.balanceOf authorization.fromAddr ∧
      moveFunds (state.markUsed authorization.fromAddr authorization.nonce) authorization =
        .ok after ∧
      events = transferEvents after authorization := by
  simp only [transferWithAuthorization, Checks.bind_eq_ok_iff, require_eq_ok_iff,
    exists_const] at settled
  rcases settled with ⟨_, checked, covered, moved, isMoved, same⟩
  cases same
  have unused := checked
  simp only [checkAuthorization, Checks.bind_eq_ok_iff, require_eq_ok_iff, exists_const] at unused
  exact ⟨checked, unused.2.2.2.2.1, (moveFunds_ok isMoved).2.authorizationState, covered, isMoved,
    rfl⟩

theorem transfer_moves
    (settled : transferWithAuthorization message state authorization = .ok (after, events)) :
    Moves state after authorization :=
  (moveFunds_ok (transfer_ok settled).2.2.2.2.1).1

theorem additive_recover (digest : Word) (signature : List UInt8) :
    Additive (recover digest signature) := by
  apply FailsOnly.bind additive_require
  intro _ _
  apply FailsOnly.bind additive_require
  intro _ _
  apply FailsOnly.bind additive_require
  intro _ _
  exact failsOnly_ok _

theorem additive_checkAuthorization :
    Additive (checkAuthorization message state authorization) := by
  apply FailsOnly.bind additive_require
  intro _ _
  apply FailsOnly.bind additive_require
  intro _ _
  apply FailsOnly.bind additive_require
  intro _ _
  apply FailsOnly.bind additive_require
  intro _ _
  apply FailsOnly.bind additive_require
  intro _ _
  apply FailsOnly.bind (additive_recover _ _)
  intro _ _
  apply FailsOnly.bind additive_require
  intro _ _
  exact additive_require

omit [Cryptography] in
theorem additive_add {who : Address} {amount : Word}
    (small : state.balances who + amount.toNat < 2 ^ 256) : Additive (state.add who amount) := by
  have fits : (state.balanceOf who).toNat + amount.toNat < 2 ^ 256 := small
  rw [State.add, checkedAdd, if_pos fits]
  exact failsOnly_ok _

omit [Cryptography] in
/-- Whatever a transfer adds to a balance is part of what it has debited before. -/
theorem additive_moveFunds (small : total state.balances < 2 ^ 256) :
    Additive (moveFunds state authorization) := by
  apply FailsOnly.bind
  · apply FailsOnly.bind (additive_checkedMul _ _)
    intro _ _
    exact failsOnly_ok _
  intro fee isFee
  apply FailsOnly.bind
  · apply FailsOnly.bind (additive_checkedSub _ _)
    intro _ _
    exact failsOnly_ok _
  intro debited isDebited
  have paid := (sub_ok isDebited).1.total_eq
  apply FailsOnly.bind (additive_checkedSub _ _)
  intro net isNet
  have netEq := checkedSub_eq_ok_iff.mp isNet
  apply FailsOnly.bind
  · apply additive_add
    have share := le_total debited.balances authorization.toAddr
    omega
  intro credited isCredited
  have received := (add_ok isCredited).1.total_eq
  split_ifs
  · apply additive_add
    have share := le_total credited.balances credited.admin
    omega
  · exact failsOnly_ok _

theorem additive_transfer (small : total state.balances < 2 ^ 256) :
    Additive (transferWithAuthorization message state authorization) := by
  apply FailsOnly.bind additive_checkAuthorization
  intro _ _
  apply FailsOnly.bind additive_require
  intro _ _
  have moved : Additive (moveFunds
      (state.markUsed authorization.fromAddr authorization.nonce) authorization) :=
    additive_moveFunds small
  apply FailsOnly.bind moved
  intro _ _
  exact failsOnly_ok _

end Transfers

/-! ### One call -/

/-- The balances sum up to the total supply, the fee is capped and the event mode is known. -/
structure Sound (state : State) : Prop where
  sum : total state.balances = state.totalSupply.toNat
  fee : state.feeBps.toNat ≤ 1000
  mode : state.eventMode.toNat ≤ 1

theorem Sound.small {state : State} (sound : Sound state) : total state.balances < 2 ^ 256 := by
  rw [sound.sum]
  exact state.totalSupply.isLt

theorem deployed_sound (deployer : Address) : Sound (deployed deployer) := by
  refine ⟨?_, Nat.zero_le _, Nat.zero_le _⟩
  exact Finset.sum_const_zero

section Calls

variable {message : Message} {state after : State} {events : List Event}

theorem setEventMode_ok {mode : BitVec 8}
    (done : setEventMode message state mode = .ok (after, events)) :
    mode ≤ 1 ∧ after = { state with eventMode := mode } := by
  simp only [setEventMode, Checks.bind_eq_ok_iff, require_eq_ok_iff, exists_const] at done
  rcases done with ⟨_, known, same⟩
  cases same
  exact ⟨known, rfl⟩

theorem setFeeBps_ok {bps : BitVec 16}
    (done : setFeeBps message state bps = .ok (after, events)) :
    bps ≤ 1000 ∧ after = { state with feeBps := bps } := by
  simp only [setFeeBps, Checks.bind_eq_ok_iff, require_eq_ok_iff, exists_const] at done
  rcases done with ⟨_, capped, same⟩
  cases same
  exact ⟨capped, rfl⟩

theorem mint_ok {receiver : Address} {amount : Word}
    (done : mint state receiver amount = .ok (after, events)) :
    Credited receiver amount.toNat state.balances after.balances ∧
      after.totalSupply.toNat = state.totalSupply.toNat + amount.toNat ∧
      after.authorizationState = state.authorizationState ∧
      after.eventMode = state.eventMode ∧ after.feeBps = state.feeBps := by
  simp only [mint, Checks.bind_eq_ok_iff] at done
  rcases done with ⟨credited, isCredited, supply, isSupply, same⟩
  cases same
  rcases add_ok isCredited with ⟨received, rest⟩
  have sum := checkedAdd_eq_ok_iff.mp isSupply
  rw [rest.totalSupply] at sum
  exact ⟨received, sum, rest.authorizationState, rest.eventMode, rest.feeBps⟩

theorem markUsed_used (state : State) (who : Address) (nonce : Word) :
    (state.markUsed who nonce).authorizationState who nonce = true := by
  simp only [State.markUsed, Function.update_self]

theorem markUsed_keeps {who other : Address} {nonce another : Word}
    (used : state.authorizationState other another = true) :
    (state.markUsed who nonce).authorizationState other another = true := by
  by_cases sameAccount : other = who
  · simp only [State.markUsed, sameAccount, Function.update_self]
    by_cases sameNonce : another = nonce
    · rw [sameNonce, Function.update_self]
    · rw [Function.update_of_ne sameNonce, ← sameAccount, used]
  · simp only [State.markUsed, Function.update_of_ne sameAccount, used]

variable [Cryptography]

theorem transfer_sound {authorization : Authorization} (sound : Sound state)
    (settled : transferWithAuthorization message state authorization = .ok (after, events)) :
    Sound after := by
  have moved := (transfer_ok settled).2.2.2.2.1
  have rest := (moveFunds_ok moved).2
  refine ⟨?_, ?_, ?_⟩
  · rw [total_moves moved, rest.totalSupply]
    exact sound.sum
  · rw [rest.feeBps]
    exact sound.fee
  · rw [rest.eventMode]
    exact sound.mode

theorem execute_sound {call : Call} (sound : Sound state)
    (done : execute message state call = .ok (after, events)) : Sound after := by
  cases call with
  | setEventMode mode =>
    rcases setEventMode_ok done with ⟨known, same⟩
    rw [same]
    exact ⟨sound.sum, sound.fee, BitVec.le_def.mp known⟩
  | setFeeBps bps =>
    rcases setFeeBps_ok done with ⟨capped, same⟩
    rw [same]
    exact ⟨sound.sum, BitVec.le_def.mp capped, sound.mode⟩
  | mint receiver amount =>
    rcases mint_ok done with ⟨received, supply, _, mode, fee⟩
    refine ⟨?_, fee ▸ sound.fee, mode ▸ sound.mode⟩
    rw [received.total_eq, supply, sound.sum]
  | transferWithAuthorization authorization => exact transfer_sound sound done

theorem execute_keeps {call : Call} {who : Address} {nonce : Word}
    (done : execute message state call = .ok (after, events))
    (used : state.authorizationState who nonce = true) :
    after.authorizationState who nonce = true := by
  cases call with
  | setEventMode mode =>
    rw [(setEventMode_ok done).2]
    exact used
  | setFeeBps bps =>
    rw [(setFeeBps_ok done).2]
    exact used
  | mint receiver amount =>
    rw [(mint_ok done).2.2.1]
    exact used
  | transferWithAuthorization authorization =>
    rw [(transfer_ok done).2.2.1]
    exact markUsed_keeps used

/-! ### Runs -/

/-- A call leaves a state as it is, or executes. -/
theorem apply_cases (state : State) (call : Message × Call) :
    apply state call = state ∨
      ∃ events, execute call.1 state call.2 = .ok (apply state call, events) := by
  rw [apply]
  cases execute call.1 state call.2 with
  | error _ => exact .inl rfl
  | ok result => exact .inr ⟨result.2, rfl⟩

/-- What every executed call keeps, a run keeps. -/
theorem run_keeps {P : State → Prop}
    (step : ∀ {message state call after events}, P state →
      execute message state call = .ok (after, events) → P after)
    (state : State) (calls : List (Message × Call)) (initially : P state) :
    P (run state calls) := by
  induction calls generalizing state with
  | nil => exact initially
  | cons call calls ih =>
    apply ih
    rcases apply_cases state call with same | ⟨events, done⟩
    · rw [same]
      exact initially
    · exact step initially done

theorem run_sound (deployer : Address) (calls : List (Message × Call)) :
    Sound (run (deployed deployer) calls) :=
  run_keeps execute_sound _ calls (deployed_sound deployer)

/-- A used authorization stays used. -/
theorem run_used {who : Address} {nonce : Word} (state : State) (calls : List (Message × Call))
    (used : state.authorizationState who nonce = true) :
    (run state calls).authorizationState who nonce = true :=
  run_keeps (P := fun state => state.authorizationState who nonce = true)
    (fun used done => execute_keeps done used) state calls used

/-- The first call of a run settles nothing, or an authorization that was unused and is used
from then on. -/
theorem settled_cons (state : State) (call : Message × Call) (calls : List (Message × Call)) :
    settled state (call :: calls) = settled (apply state call) calls ∨
      ∃ who nonce, settled state (call :: calls) =
          (who, nonce) :: settled (apply state call) calls ∧
        state.authorizationState who nonce = false ∧
        (apply state call).authorizationState who nonce = true := by
  rcases call with ⟨message, call⟩
  cases call with
  | setEventMode mode => exact .inl rfl
  | setFeeBps bps => exact .inl rfl
  | mint receiver amount => exact .inl rfl
  | transferWithAuthorization authorization =>
    cases done : transferWithAuthorization message state authorization with
    | error error =>
      left
      simp only [settled, execute, done]
    | ok result =>
      rcases transfer_ok done with ⟨_, unused, marked, _⟩
      refine .inr ⟨authorization.fromAddr, authorization.nonce, ?_, unused, ?_⟩
      · simp only [settled, execute, done]
      simp only [apply, execute, done, marked]
      exact markUsed_used _ _ _

theorem settled_unused {who : Address} {nonce : Word} (state : State)
    (calls : List (Message × Call)) (used : state.authorizationState who nonce = true) :
    (who, nonce) ∉ settled state calls := by
  induction calls generalizing state with
  | nil => exact List.not_mem_nil
  | cons call calls ih =>
    have later := ih (apply state call) (run_used state [call] used)
    rcases settled_cons state call calls with same | ⟨account, number, same, unused, _⟩
    · rw [same]
      exact later
    · rw [same, List.mem_cons, not_or]
      refine ⟨?_, later⟩
      intro isFirst
      cases isFirst
      rw [used] at unused
      cases unused

theorem settled_nodup (state : State) (calls : List (Message × Call)) :
    (settled state calls).Nodup := by
  induction calls generalizing state with
  | nil => exact List.nodup_nil
  | cons call calls ih =>
    rcases settled_cons state call calls with same | ⟨who, nonce, same, _, used⟩
    · rw [same]
      exact ih _
    · rw [same, List.nodup_cons]
      exact ⟨settled_unused _ _ used, ih _⟩

/-- The ledger after any calls: the balances sum up to the total supply, the switches are in
their ranges, used authorizations stay used and are settled once, and a transfer moves exactly
the value and its fee without any addition overflowing. -/
theorem ledger_in_order (deployer : Address) (calls : List (Message × Call)) :
    let state := run (deployed deployer) calls
    total state.balances = state.totalSupply.toNat ∧ state.totalSupply.toNat < 2 ^ 256 ∧
      state.feeBps.toNat ≤ 1000 ∧ state.eventMode.toNat ≤ 1 ∧
      (∀ later who nonce, state.authorizationState who nonce = true →
        (run state later).authorizationState who nonce = true) ∧
      (settled (deployed deployer) calls).Nodup ∧
      (∀ message authorization after events,
        transferWithAuthorization message state authorization = .ok (after, events) →
          Moves state after authorization) ∧
      ∀ message authorization,
        transferWithAuthorization message state authorization ≠ .error (.overflow .add) := by
  have sound := run_sound deployer calls
  exact ⟨sound.sum, BitVec.isLt _, sound.fee, sound.mode,
    fun later who nonce used => run_used _ later used, settled_nodup _ _,
    fun message authorization after events done => transfer_moves done,
    fun message authorization failed => additive_transfer sound.small _ failed rfl⟩

end Calls

/-! ### A settlement

The payer is minted 1000 and pays 100 of it under a fee of one percent. -/

namespace Settling

def payer : Address := 0xa1

def payee : Address := 0xb2

def deployer : Address := 0xd4

/-- Every signature is the payer's. -/
@[reducible]
def cryptography : Cryptography := ⟨fun _ => 0, fun _ _ _ _ => payer⟩

def message : Message := ⟨deployer, 5, 84532, 0xe5⟩

def signed : Authorization := ⟨payer, payee, 100, 0, 10, 7, List.replicate 64 0 ++ [27]⟩

def minting : List (Message × Call) := [(message, .mint payer 1000), (message, .setFeeBps 100)]

def paying : Message × Call := (message, .transferWithAuthorization signed)

section

attribute [local instance] cryptography

def minted : State := run (deployed deployer) minting

end

end Settling

open Settling in
/-- The mint and the settlement succeed: the payer has 900 left, the payee 99, the administrator
the fee. -/
theorem ledger_in_order_settled : letI := cryptography
    minted.balanceOf payer = 1000 ∧ total minted.balances = 1000 ∧
      settled (deployed deployer) (minting ++ [paying]) = [(payer, 7)] ∧
      ∃ after events, transferWithAuthorization message minted signed = .ok (after, events) ∧
        Moves minted after signed ∧ after.balanceOf payer = 900 ∧ after.balanceOf payee = 99 ∧
        after.balanceOf deployer = 1 := by
  let := cryptography
  have balances : (transferWithAuthorization message minted signed).toOption.map
      (fun result => (result.1.balanceOf payer, result.1.balanceOf payee,
        result.1.balanceOf deployer)) = some (900, 99, 1) := by
    decide +kernel
  rcases ledger_in_order deployer minting with ⟨sum, _, _, _, _, _, moves, _⟩
  refine ⟨by decide +kernel, ?_, by decide +kernel, ?_⟩
  · have supply : minted.totalSupply.toNat = 1000 := by decide +kernel
    exact sum.trans supply
  · cases done : transferWithAuthorization message minted signed with
    | error error =>
      rw [done] at balances
      cases balances
    | ok result =>
      rw [done] at balances
      have same := Option.some.inj balances
      rw [Prod.mk.injEq, Prod.mk.injEq] at same
      exact ⟨result.1, result.2, rfl, moves message signed result.1 result.2 done, same⟩

end Onchain

end Psv
