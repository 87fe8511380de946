import Psv.Document.Short
import Psv.Pqc.Spelling

/-!
# Tamper evidence of version 2 receipts

The canonical payload determines a receipt up to its two signature values: the
text of the payload can be read back, sorting the keys keeps what stands at every
path, and blanking changes only the two paths of the signatures.  A verification
that ends with `verified` has asked the backend about this payload, with trusted
keys for the identifiers the receipt names, and was told yes twice.
-/

namespace Psv

open Python Interaction Program Document

namespace Pqc

variable {φ : Type}

/-! ### The payload -/

/-- The path of a signature, or one below it. -/
def InSignature (path : List Step) : Prop :=
  [.key "sig_v2".toText, .key "classical".toText, .key "signature".toText] <+: path ∨
    [.key "sig_v2".toText, .key "pqc".toText, .key "signature".toText] <+: path

/-- Receipts that agree as maps, at every depth, except possibly at the signatures. -/
def SameUpToSignatures (first second : Members φ) : Prop :=
  ∀ path, ¬InSignature path →
    (Document.object first).shapeAt path = (Document.object second).shapeAt path

/-- What blanking does to one of the two entries. -/
theorem blankSignature_spec {sigV2 blank : Members φ} {name : String}
    (blanked : blankSignature sigV2 name = .ok blank) (Changed : List Step → Prop)
    (changed : ∀ path, Changed (.key name.toText :: .key "signature".toText :: path)) :
    ((Document.object sigV2).Keyed → (Document.object blank).Keyed) ∧
      ∀ path, ¬Changed path →
        (Document.object blank).shapeAt path = (Document.object sigV2).shapeAt path := by
  unfold blankSignature at blanked
  split at blanked
  · rename_i entry isEntry
    cases blanked
    constructor
    · intro keyed
      have entryKeyed : (Document.object entry).Keyed :=
        keyed.part (show (Document.object sigV2).part (.key name.toText) = _ from isEntry)
      exact keyed_setMember keyed (keyed_setMember entryKeyed trivial)
    · intro path outside
      apply shapeAt_setMember Changed _ outside
      intro rest restOutside
      rw [isEntry, Option.bind_some]
      apply shapeAt_setMember (fun inner => Changed (.key name.toText :: inner)) _ restOutside
      intro inner innerOutside
      exact absurd (changed inner) innerOutside
  · cases blanked

/-- Only the two signature values are blanked. -/
theorem unsignedReceipt_spec {receipt unsigned : Members φ}
    (isUnsigned : unsignedReceipt receipt = .ok unsigned) :
    ((Document.object receipt).Keyed → (Document.object unsigned).Keyed) ∧
      SameUpToSignatures unsigned receipt := by
  unfold unsignedReceipt at isUnsigned
  split at isUnsigned
  · rename_i sigV2 isSigV2
    rcases Checks.bind_eq_ok_iff.mp isUnsigned with ⟨classicalBlank, first, others⟩
    rcases Checks.bind_eq_ok_iff.mp others with ⟨blank, second, same⟩
    cases same
    let Changed : List Step → Prop := fun path => InSignature (.key "sig_v2".toText :: path)
    rcases blankSignature_spec first Changed fun path => Or.inl (List.prefix_append _ path) with
      ⟨firstKeyed, firstSame⟩
    rcases blankSignature_spec second Changed fun path => Or.inr (List.prefix_append _ path) with
      ⟨secondKeyed, secondSame⟩
    constructor
    · intro keyed
      have sigV2Keyed : (Document.object sigV2).Keyed :=
        keyed.part (show (Document.object receipt).part (.key "sig_v2".toText) = _ from isSigV2)
      exact keyed_setMember keyed (secondKeyed (firstKeyed sigV2Keyed))
    · intro path outside
      apply shapeAt_setMember InSignature _ outside
      intro rest restOutside
      rw [isSigV2, Option.bind_some, secondSame rest restOutside, firstSame rest restOutside]
  · cases isUnsigned

section Injective

variable [FloatText φ]

/-- Receipts with the same payload agree up to their signatures. -/
theorem canonicalReceiptPayload_injective {first second : Members φ}
    (firstKeyed : (Document.object first).Keyed) (secondKeyed : (Document.object second).Keyed)
    {payload : Bytes} (isFirst : canonicalReceiptPayload first = .ok payload)
    (isSecond : canonicalReceiptPayload second = .ok payload) :
    SameUpToSignatures first second := by
  have parts : ∀ receipt : Members φ, canonicalReceiptPayload receipt = .ok payload →
      ∃ unsigned text, unsignedReceipt receipt = .ok unsigned ∧
        dumps .unicode (sortKeys (.object unsigned)) = some text ∧
        payload = domain ++ utf8 text := by
    intro receipt isPayload
    simp only [canonicalReceiptPayload, Checks.bind_eq_ok_iff, orRaise_eq_ok_iff] at isPayload
    rcases isPayload with ⟨unsigned, isUnsigned, _, _, text, written, same⟩
    cases same
    exact ⟨unsigned, text, isUnsigned, written, rfl⟩
  rcases parts first isFirst with ⟨firstUnsigned, text, firstIs, firstWritten, rfl⟩
  rcases parts second isSecond with ⟨secondUnsigned, other, secondIs, secondWritten, same⟩
  have sameText : text = other := utf8_injective (List.append_cancel_left same)
  subst sameText
  rcases unsignedReceipt_spec firstIs with ⟨keepsFirst, firstSame⟩
  rcases unsignedReceipt_spec secondIs with ⟨keepsSecond, secondSame⟩
  intro path outside
  rw [← firstSame path outside, ← secondSame path outside]
  exact shapeAt_eq_of_sorted (keepsFirst firstKeyed) (keepsSecond secondKeyed) firstWritten
    secondWritten path

end Injective

/-! ### Decoding -/

theorem uniqueObject_eq_ok_iff (pairs result : Members φ) :
    uniqueObject pairs = .ok result ↔ (pairs.map Prod.fst).Nodup ∧ result = pairs := by
  have grows : ∀ (pairs seen : Members φ), (seen.map Prod.fst).Nodup →
      (uniqueObject.go seen pairs = .ok result ↔
        ((seen ++ pairs).map Prod.fst).Nodup ∧ result = seen ++ pairs) := by
    intro pairs
    induction pairs with
    | nil =>
        intro seen nodup
        change (.ok seen : Except ReadError (Members φ)) = .ok result ↔ _
        rw [List.append_nil, Except.ok.injEq]
        exact ⟨fun same => ⟨nodup, same.symm⟩, fun same => same.2.symm⟩
    | cons pair pairs ih =>
        intro seen nodup
        rcases pair with ⟨key, value⟩
        change (if key ∈ seen.map Prod.fst then .error (.refused key)
          else uniqueObject.go (seen ++ [(key, value)]) pairs) = .ok result ↔ _
        split_ifs with mem
        · constructor
          · intro impossible
            cases impossible
          · rintro ⟨together, _⟩
            rw [List.map_append, List.map_cons, List.nodup_append] at together
            exact absurd rfl (together.2.2 key mem key List.mem_cons_self)
        · have extended : ((seen ++ [(key, value)]).map Prod.fst).Nodup := by
            rw [List.map_append, List.map_cons, List.map_nil]
            apply List.nodup_append.mpr ⟨nodup, List.nodup_singleton _, _⟩
            intro name nameMem other otherMem same
            rw [same, List.mem_singleton.mp otherMem] at nameMem
            exact mem nameMem
          rw [ih _ extended, List.append_assoc, List.singleton_append]
  exact grows pairs [] List.nodup_nil

section Accepted

variable [FloatText φ]

section Decoding

variable [Interpreter]

/-- The bytes hold a JSON object with these members, as they stand in the text. -/
def Decodes (receiptBytes : Bytes) (receipt : Members φ) : Prop :=
  ∃ text, decodeJsonBytes receiptBytes = some text ∧
    (parse Interpreter.readLevels text : Except ReadError (Document φ)) = .ok (.object receipt)

theorem Decodes.unique {receiptBytes : Bytes} {receipt other : Members φ}
    (decodes : Decodes receiptBytes receipt) (again : Decodes receiptBytes other) :
    receipt = other := by
  rcases decodes with ⟨text, decoded, parsed⟩
  rcases again with ⟨otherText, otherDecoded, otherParsed⟩
  rw [decoded] at otherDecoded
  cases otherDecoded
  rw [parsed] at otherParsed
  cases otherParsed
  rfl

theorem loadReceipt_object {receiptBytes : Bytes} {receipt : Members φ}
    (loaded : (loadReceipt receiptBytes : Except ReceiptError (Document φ)) = .ok (.object receipt)) :
    Decodes receiptBytes receipt ∧ (Document.object receipt).Keyed := by
  rcases Checks.bind_eq_ok_iff.mp loaded with ⟨text, decoded, accepted⟩
  rw [orRaise_eq_ok_iff] at decoded
  rw [mapError_eq_ok_iff] at accepted
  rcases Checks.bind_eq_ok_iff.mp accepted with ⟨raw, parsed, rebuilt⟩
  rcases (rebuild_eq_ok_iff uniqueObject_eq_ok_iff).mp rebuilt with ⟨keyed, same⟩
  rw [← same] at parsed keyed
  exact ⟨⟨text, decoded, parsed⟩, keyed⟩

end Decoding

omit [FloatText φ] in
/-- A dictionary with exactly these names consists of one member for each of them. -/
theorem perm_of_hasExactly {members : Members φ} {names : List String}
    (nodup : (members.map Prod.fst).Nodup) (namesNodup : (names.map String.toText).Nodup)
    (exactly : hasExactly members names = true) :
    members.Perm (names.map fun name => (name.toText, member members name)) := by
  rw [hasExactly, Bool.and_eq_true, List.all_eq_true, List.all_eq_true] at exactly
  rcases exactly with ⟨known, present⟩
  have nodupMembers : members.Nodup := nodup.of_map
  have nodupNames : (names.map fun name => (name.toText, member members name)).Nodup := by
    apply List.Nodup.of_map Prod.fst
    rw [List.map_map]
    exact namesNodup
  rw [List.perm_ext_iff_of_nodup nodupMembers nodupNames]
  rintro ⟨key, value⟩
  rw [List.mem_map]
  constructor
  · intro mem
    have isName := known _ mem
    rw [List.contains_iff_mem, List.mem_map] at isName
    rcases isName with ⟨name, nameMem, same⟩
    refine ⟨name, nameMem, ?_⟩
    have found : members.lookup name.toText = some value := by
      rw [same]
      exact (lookup_eq_some_iff_mem nodup).mpr mem
    rw [member, found, same]
    rfl
  · rintro ⟨name, nameMem, same⟩
    have isKey := present name nameMem
    rw [List.contains_iff_mem, List.mem_map] at isKey
    rcases isKey with ⟨⟨first, inner⟩, innerMem, firstEq⟩
    have firstName : first = name.toText := firstEq
    rw [firstName] at innerMem
    have found := (lookup_eq_some_iff_mem nodup).mpr innerMem
    rw [member, found, Prod.mk.injEq] at same
    rcases same with ⟨rfl, rfl⟩
    exact innerMem

/-- `{"alg": alg, "kid": kid, "signature": signature}` -/
def IsEntry (entry : Members φ) (alg kid signature : Text) : Prop :=
  entry.Perm [("alg".toText, .str alg), ("kid".toText, .str kid),
    ("signature".toText, .str signature)]

omit [FloatText φ] in
theorem signatureEntry_ok {sigV2 : Members φ} (keyed : (Document.object sigV2).Keyed)
    {name : String} {algorithm kid : Text} {signature : Bytes}
    (accepted : signatureEntry sigV2 name algorithm = .ok (kid, signature)) :
    ∃ entry text, member sigV2 name = .object entry ∧ IsEntry entry algorithm kid text ∧
      decodeSignature (.str text : Document φ) = .ok signature := by
  unfold signatureEntry at accepted
  split at accepted
  · rename_i entry isEntry
    have entryKeyed : (Document.object entry).Keyed :=
      keyed.part (show (Document.object sigV2).part (.key name.toText) = _ from isEntry)
    simp only [Checks.bind_eq_ok_iff, refuse_eq_ok_iff, exists_const, Bool.not_eq_false] at accepted
    rcases accepted with ⟨exactly, _, isAlg, given, isKid, decoded, isDecoded, same⟩
    cases same
    have entries := perm_of_hasExactly (keyed_object_iff.mp entryKeyed).1 (by decide) exactly
    unfold requireAlg at isAlg
    unfold requireKid at isKid
    unfold decodeSignature at isDecoded
    split at isAlg
    · rename_i alg algEq
      rw [refuse_eq_ok_iff, not_not] at isAlg
      subst isAlg
      split at isKid
      · rename_i text kidEq
        simp only [Checks.bind_eq_ok_iff, refuse_eq_ok_iff, exists_const] at isKid
        rcases isKid with ⟨_, same⟩
        cases same
        split at isDecoded
        · rename_i text textEq
          refine ⟨entry, text, by rw [member, isEntry]; rfl, ?_, isDecoded⟩
          rw [IsEntry]
          simpa only [List.map_cons, List.map_nil, algEq, kidEq, textEq] using entries
        · cases isDecoded
      · cases isKid
    · cases isAlg
  · cases accepted

omit [FloatText φ] in
/-- A document in the profile has no float at any path. -/
theorem noFloat_of_profile {document : Document φ} (profile : validateJsonProfile document = .ok ())
    (path : List Step) (value : Number φ) : document.shapeAt path ≠ some (.float value) := by
  have items : ∀ (items : List (Document φ)), validateItems items = .ok () →
      ∀ item ∈ items, validateJsonProfile item = .ok () := by
    intro items
    induction items with
    | nil =>
        intro _ item mem
        cases mem
    | cons first items ih =>
        intro accepted item mem
        rcases Checks.bind_eq_ok_iff.mp accepted with ⟨_, isFirst, others⟩
        rcases List.mem_cons.mp mem with rfl | later
        · exact isFirst
        · exact ih others item later
  have members : ∀ (members : Members φ), validateMembers members = .ok () →
      ∀ member ∈ members, validateJsonProfile member.2 = .ok () := by
    intro members
    induction members with
    | nil =>
        intro _ member mem
        cases mem
    | cons first members ih =>
        intro accepted member mem
        rcases Checks.bind_eq_ok_iff.mp accepted with ⟨_, _, inner⟩
        rcases Checks.bind_eq_ok_iff.mp inner with ⟨_, isFirst, others⟩
        rcases List.mem_cons.mp mem with rfl | later
        · exact isFirst
        · exact ih others member later
  induction path generalizing document with
  | nil =>
      intro isFloat
      cases document with
      | float value => cases profile
      | _ => cases isFloat
  | cons step path ih =>
      intro isFloat
      rw [shapeAt] at isFloat
      rcases isPart : document.part step with _ | inner
      · rw [isPart] at isFloat
        cases isFloat
      · rw [isPart, Option.bind_some] at isFloat
        refine ih ?_ isFloat
        cases document with
        | list all =>
            cases step with
            | key name => cases isPart
            | index position => exact items all profile inner (List.mem_of_getElem? isPart)
        | object all =>
            cases step with
            | key name => exact members all profile (name, inner) (mem_of_lookup isPart)
            | index position => cases isPart
        | _ => cases step <;> cases isPart

/-- The version of a receipt with a payload is the integer two. -/
theorem version_of_payload {receipt sigV2 : Members φ} {payload : Bytes}
    (isSigV2 : receipt.lookup "sig_v2".toText = some (.object sigV2))
    (isVersion : requireVersion (member sigV2 "version") = .ok ())
    (isPayload : canonicalReceiptPayload receipt = .ok payload) :
    member sigV2 "version" = .int 2 := by
  unfold requireVersion at isVersion
  split at isVersion
  · rename_i n isInt
    rw [refuse_eq_ok_iff, not_not] at isVersion
    rw [isInt, isVersion]
  · rename_i x isFloat
    rcases Checks.bind_eq_ok_iff.mp isPayload with ⟨unsigned, isUnsigned, rest⟩
    rcases Checks.bind_eq_ok_iff.mp rest with ⟨_, profile, _⟩
    have outside : ¬InSignature [.key "sig_v2".toText, .key "version".toText] := by
      unfold InSignature
      decide
    have found : sigV2.lookup "version".toText = some (.float (.finite x)) := by
      unfold member at isFloat
      rcases isSome : sigV2.lookup "version".toText with _ | value
      · rw [isSome] at isFloat
        cases isFloat
      · rw [isSome] at isFloat
        exact congrArg some isFloat
    have shape : (Document.object receipt).shapeAt [.key "sig_v2".toText, .key "version".toText] =
        some (.float (.finite x)) := by
      rw [shapeAt_object, isSigV2, Option.bind_some, shapeAt_object, found]
      rfl
    rw [← (unsignedReceipt_spec isUnsigned).2 _ outside] at shape
    exact absurd shape (noFloat_of_profile profile _ _)
  · cases isVersion

/-- The questions to the backend, all answered with yes. -/
def agreed (policy : PqcConfig) (given : Bool) (prepared : Prepared) : History backend :=
  (if given then [] else [⟨ProviderAsk.load policy.provider, .ok ()⟩]) ++
    [⟨ProviderAsk.ecdsaP256Sha256 prepared.classicalKey prepared.payload
        prepared.classicalSignature, .ok true⟩,
      ⟨ProviderAsk.mldsa65 prepared.pqcKey prepared.payload prepared.pqcSignature, .ok true⟩]

/-- What a verified receipt and the conversation about it look like. -/
structure Accepted (classicalKeys pqcKeys : Registry) (policy : PqcConfig) (given : Bool)
    (receipt : Members φ) (prepared : Prepared) (said : History backend) : Prop where
  keyed : (Document.object receipt).Keyed
  isPayload : canonicalReceiptPayload receipt = .ok prepared.payload
  signed : ∃ (sigV2 classical pqc : Members φ) (classicalKid classicalText pqcKid pqcText : Text),
    receipt.lookup "sig_v2".toText = some (.object sigV2) ∧
      sigV2.Perm [("version".toText, .int 2), ("classical".toText, .object classical),
        ("pqc".toText, .object pqc)] ∧
      IsEntry classical classicalAlg classicalKid classicalText ∧
      IsEntry pqc pqcAlg pqcKid pqcText ∧
      decodeSignature (.str classicalText : Document φ) = .ok prepared.classicalSignature ∧
      decodeSignature (.str pqcText : Document φ) = .ok prepared.pqcSignature ∧
      classicalKeys classicalKid = some prepared.classicalKey ∧
      pqcKeys pqcKid = some prepared.pqcKey
  said_eq : said = agreed policy given prepared

omit [FloatText φ] in
theorem loadProvider_ok {policy : PqcConfig} {given : Bool} {said : History backend} {state : Unit}
    (replays : (loadProvider policy given).Replays () said (.ok ()) state) :
    said = if given then [] else [⟨ProviderAsk.load policy.provider, .ok ()⟩] := by
  unfold loadProvider at replays
  split_ifs at replays ⊢ with isGiven
  · exact replays.1
  · rcases replays with ⟨answer, rest, rfl, continues⟩
    rcases answer with error | loaded
    · rcases continues with ⟨_, impossible, _⟩
      cases impossible
    · rcases continues with ⟨rfl, _, _⟩
      rfl

omit [FloatText φ] in
theorem verifySignatures_ok {prepared : Prepared} {said : History backend} {state : Unit}
    (replays : (verifySignatures prepared).Replays () said (.ok ()) state) :
    said = [⟨ProviderAsk.ecdsaP256Sha256 prepared.classicalKey prepared.payload
        prepared.classicalSignature, .ok true⟩,
      ⟨ProviderAsk.mldsa65 prepared.pqcKey prepared.payload prepared.pqcSignature, .ok true⟩] := by
  rcases replays with ⟨classicalAnswer, rest, rfl, replays⟩
  rcases classicalAnswer with error | classicalValid
  · rcases replays with ⟨_, impossible, _⟩
    cases impossible
  · rcases replays with ⟨pqcAnswer, rest, rfl, replays⟩
    rcases pqcAnswer with error | pqcValid
    · rcases replays with ⟨_, impossible, _⟩
      cases impossible
    · cases classicalValid with
      | false =>
          rcases replays with ⟨_, impossible, _⟩
          cases impossible
      | true =>
          cases pqcValid with
          | false =>
              rcases replays with ⟨_, impossible, _⟩
              cases impossible
          | true =>
              rcases replays with ⟨rfl, _, _⟩
              rfl

variable [Interpreter]

theorem prepare_ok {classicalKeys pqcKeys : Registry} {receipt : Members φ} {sigV2 : Document φ}
    (keyed : (Document.object receipt).Keyed) (isSigV2 : receipt.lookup "sig_v2".toText = some sigV2)
    {prepared : Prepared} (isPrepared : prepare classicalKeys pqcKeys receipt sigV2 = .ok prepared)
    (policy : PqcConfig) (given : Bool) :
    Accepted classicalKeys pqcKeys policy given receipt prepared
      (agreed policy given prepared) := by
  unfold prepare at isPrepared
  split at isPrepared
  · rename_i members
    have sigV2Keyed : (Document.object members).Keyed :=
      keyed.part (show (Document.object receipt).part (.key "sig_v2".toText) = _ from isSigV2)
    simp only [Checks.bind_eq_ok_iff, refuse_eq_ok_iff, exists_const, Bool.not_eq_false, trustedKey,
      orRaise_eq_ok_iff, Prod.exists] at isPrepared
    rcases isPrepared with ⟨exactly, _, isVersion, classicalKid, classicalSignature, isClassical,
      pqcKid, pqcSignature, isPqc, classicalKey, classicalTrusted, pqcKey, pqcTrusted, _, payload,
      isPayload, same⟩
    cases same
    rcases signatureEntry_ok sigV2Keyed isClassical with ⟨classical, classicalText, classicalEq,
      classicalEntry, classicalDecoded⟩
    rcases signatureEntry_ok sigV2Keyed isPqc with ⟨pqc, pqcText, pqcEq, pqcEntry, pqcDecoded⟩
    have version := version_of_payload isSigV2 isVersion isPayload
    have names := perm_of_hasExactly (keyed_object_iff.mp sigV2Keyed).1 (by decide) exactly
    simp only [List.map_cons, List.map_nil, version, classicalEq, pqcEq] at names
    exact ⟨keyed, isPayload, ⟨members, classical, pqc, classicalKid, classicalText, pqcKid, pqcText,
      isSigV2, names, classicalEntry, pqcEntry, classicalDecoded, pqcDecoded, classicalTrusted,
      pqcTrusted⟩, rfl⟩
  · cases isPrepared

/-- A run that ends with `verified` has decoded a receipt and was told yes twice about it. -/
theorem verifyReceipt_verified {receiptBytes : Bytes} {classicalKeys pqcKeys : Registry}
    {policy : PqcConfig} {given : Bool} {said : History backend} {state : Unit}
    {verification : ReceiptVerification} (enabled : policy.enabled = true)
    (replays : (verifyReceipt φ receiptBytes classicalKeys pqcKeys policy given).Replays () said
      (.ok verification) state) (verified : verification.status = .verified) :
    ∃ (receipt : Members φ) (prepared : Prepared), Decodes receiptBytes receipt ∧
      Accepted classicalKeys pqcKeys policy given receipt prepared said := by
  have notDisabled : ¬policy.enabled = false := by
    rw [enabled]
    decide
  rw [verifyReceipt, if_neg notDisabled, replays_handle_iff] at replays
  rcases replays with ⟨_, same, replays⟩ | ⟨error, _, first, second, rfl, failed, handled⟩
  · cases same
    rcases replays_lift_bind_ok_iff.mp replays with ⟨document, loaded, replays⟩
    split at replays
    · rename_i receipt
      rcases loadReceipt_object loaded with ⟨decodes, keyed⟩
      split at replays
      · rcases replays with ⟨_, same, _⟩
        cases same
        cases verified
      · rcases replays with ⟨_, same, _⟩
        cases same
        cases verified
      · rename_i sigV2 _ isSigV2
        rcases replays_lift_bind_ok_iff.mp replays with ⟨prepared, isPrepared, replays⟩
        rcases replays_bind_ok_iff.mp replays with ⟨_, _, before, after, rfl, load, replays⟩
        rcases replays_bind_ok_iff.mp replays with ⟨_, _, middle, last, rfl, asked, done, _⟩
        refine ⟨receipt, prepared, decodes, ?_⟩
        have isSaid : before ++ (middle ++ last) = agreed policy given prepared := by
          rw [loadProvider_ok load, verifySignatures_ok asked, done, List.append_nil]
          rfl
        rw [isSaid]
        exact prepare_ok keyed isSigV2 isPrepared policy given
    · rcases replays with ⟨_, impossible, _⟩
      cases impossible
  · cases error with
    | uncaught typeName =>
        rcases handled with ⟨_, impossible, _⟩
        cases impossible
    | _ =>
        rcases handled with ⟨_, same, _⟩
        cases same
        cases verified

/-- The backend was asked about this payload. -/
def AskedAbout (payload : Bytes) (said : History backend) : Prop :=
  ∃ key signature, (∃ answer, ⟨.ecdsaP256Sha256 key payload signature, answer⟩ ∈ said) ∨
    ∃ answer, ⟨.mldsa65 key payload signature, answer⟩ ∈ said

omit [FloatText φ] [Interpreter] in
theorem payload_of_agreed {policy : PqcConfig} {given : Bool} {prepared : Prepared}
    {payload : Bytes} (asked : AskedAbout payload (agreed policy given prepared)) :
    payload = prepared.payload := by
  rcases asked with ⟨key, signature, ⟨answer, mem⟩ | ⟨answer, mem⟩⟩
  all_goals
    rcases List.mem_append.mp mem with load | mem
    · cases given with
      | true => cases load
      | false =>
          have same := List.mem_singleton.mp load
          cases same
    · rcases List.mem_cons.mp mem with same | mem
      · cases same <;> rfl
      · have same := List.mem_singleton.mp mem
        cases same <;> rfl

/-- The text of an object with members is read back from its bytes. -/
theorem loadReceipt_dumps {first : Text × Document φ} {others : Members φ} {text : Str}
    (keyed : (Document.object (first :: others)).Keyed)
    (written : dumps .plain (.object (first :: others)) = some text)
    (shallow : (Document.object (first :: others)).depth ≤ Interpreter.readLevels) :
    loadReceipt (utf8 text) = .ok (.object (first :: others)) := by
  have head : ∃ more, text = Char.ofNat 123 :: '"' :: more := by
    rcases first with ⟨key, value⟩
    simp only [dumps, write, Option.bind_eq_bind, Option.bind_eq_some_iff] at written
    rcases written with ⟨name, isName, _, _, _, _, same⟩
    rcases quote_eq_cons isName with ⟨more, rfl⟩
    cases same
    exact ⟨_, rfl⟩
  have isUtf8 : detectEncoding (utf8 text) = .utf8 := by
    rcases head with ⟨more, rfl⟩
    have front : utf8 (Char.ofNat 123 :: '"' :: more) = 0x7b :: 0x22 :: utf8 more := rfl
    rw [front]
    rcases utf8 more with _ | ⟨third, _ | ⟨fourth, rest⟩⟩
    · rfl
    · rfl
    · rfl
  have parsed : parse Interpreter.readLevels (text ++ []) = .ok (.object (first :: others)) :=
    parse_dumps written shallow (List.forall_mem_nil _)
  rw [List.append_nil] at parsed
  rw [loadReceipt, decodeJsonBytes, isUtf8]
  simp only [decodeUtf8_utf8, orRaise, Checks.ok_bind]
  rw [loadsWith, parsed, Checks.ok_bind, (rebuild_eq_ok_iff uniqueObject_eq_ok_iff).mpr ⟨keyed, rfl⟩]
  rfl

/-- When everything stands as it has to and the backend says yes twice, the receipt is verified. -/
theorem verifyReceipt_of_agreed {receiptBytes : Bytes} {classicalKeys pqcKeys : Registry}
    {policy : PqcConfig} {given : Bool} {receipt : Members φ} {sigV2 : Members φ}
    {prepared : Prepared} (enabled : policy.enabled = true)
    (loaded : loadReceipt receiptBytes = .ok (Document.object receipt))
    (isSigV2 : receipt.lookup "sig_v2".toText = some (.object sigV2))
    (isPrepared : prepare classicalKeys pqcKeys receipt (.object sigV2) = .ok prepared) :
    (verifyReceipt φ receiptBytes classicalKeys pqcKeys policy given).Replays ()
      (agreed policy given prepared) (.ok ⟨.verified, receiptBytes, none, .empty⟩) () := by
  have notDisabled : ¬policy.enabled = false := by
    rw [enabled]
    decide
  rw [verifyReceipt, if_neg notDisabled, replays_handle_iff]
  refine Or.inl ⟨_, rfl, ?_⟩
  rw [replays_lift_bind_ok_iff]
  refine ⟨_, loaded, ?_⟩
  simp only [isSigV2]
  rw [replays_lift_bind_ok_iff]
  refine ⟨prepared, isPrepared, ?_⟩
  rw [replays_bind_ok_iff]
  refine ⟨(), (), _, _, rfl, ?_, ?_⟩
  · unfold loadProvider
    cases given with
    | true => exact ⟨rfl, rfl, rfl⟩
    | false => exact ⟨.ok (), [], rfl, rfl, rfl, rfl⟩
  · rw [replays_bind_ok_iff]
    refine ⟨(), (), _, [], (List.append_nil _).symm, ?_, rfl, rfl, rfl⟩
    exact ⟨.ok true, _, rfl, .ok true, [], rfl, rfl, rfl, rfl⟩

end Accepted

/-- Tamper evidence: the payload determines a receipt up to its signatures; a verified receipt was
decoded from the bytes, is closed, and was accepted twice over its own payload; so two verified
receipts whose backends were asked about one payload agree up to their signatures. -/
theorem receipt_tamper_evidence [Interpreter] [FloatText φ] :
    (∀ (first second : Members φ) (payload : Bytes), (Document.object first).Keyed →
      (Document.object second).Keyed → canonicalReceiptPayload first = .ok payload →
      canonicalReceiptPayload second = .ok payload → SameUpToSignatures first second) ∧
    (∀ (receiptBytes : Bytes) (classicalKeys pqcKeys : Registry) (policy : PqcConfig) (given : Bool)
      (provider : Environment backend) (history finalHistory : History backend)
      (verification : ReceiptVerification), policy.enabled = true →
      Returns provider (verifyReceipt φ receiptBytes classicalKeys pqcKeys policy given) () history
        verification () finalHistory →
      verification.status = .verified →
      ∃ (receipt : Members φ) (prepared : Prepared) (said : History backend),
        finalHistory = history ++ said ∧ Decodes receiptBytes receipt ∧
        Accepted classicalKeys pqcKeys policy given receipt prepared said) ∧
    ∀ (receiptBytes otherBytes : Bytes) (classicalKeys pqcKeys otherClassicalKeys otherPqcKeys :
      Registry) (policy otherPolicy : PqcConfig) (given otherGiven : Bool)
      (provider otherProvider : Environment backend) (said otherSaid : History backend)
      (verification otherVerification : ReceiptVerification) (payload : Bytes)
      (receipt other : Members φ), policy.enabled = true → otherPolicy.enabled = true →
      Returns provider (verifyReceipt φ receiptBytes classicalKeys pqcKeys policy given) () []
        verification () said →
      Returns otherProvider (verifyReceipt φ otherBytes otherClassicalKeys otherPqcKeys otherPolicy
        otherGiven) () [] otherVerification () otherSaid →
      verification.status = .verified → otherVerification.status = .verified →
      AskedAbout payload said → AskedAbout payload otherSaid →
      Decodes receiptBytes receipt → Decodes otherBytes other → SameUpToSignatures receipt other := by
  refine ⟨?_, ?_, ?_⟩
  · intro first second payload firstKeyed secondKeyed isFirst isSecond
    exact canonicalReceiptPayload_injective firstKeyed secondKeyed isFirst isSecond
  · intro receiptBytes classicalKeys pqcKeys policy given provider history finalHistory verification
      enabled returns verified
    rcases returns_iff.mp returns with ⟨said, same, _, replays⟩
    rcases verifyReceipt_verified enabled replays verified with ⟨receipt, prepared, decodes, accepted⟩
    exact ⟨receipt, prepared, said, same, decodes, accepted⟩
  · intro receiptBytes otherBytes classicalKeys pqcKeys otherClassicalKeys otherPqcKeys policy
      otherPolicy given otherGiven provider otherProvider said otherSaid verification
      otherVerification payload receipt other enabled otherEnabled returns otherReturns verified
      otherVerified asked otherAsked decodes otherDecodes
    rcases returns_iff.mp returns with ⟨_, rfl, _, replays⟩
    rcases returns_iff.mp otherReturns with ⟨_, rfl, _, otherReplays⟩
    rcases verifyReceipt_verified enabled replays verified with ⟨found, prepared, isFound, accepted⟩
    rcases verifyReceipt_verified otherEnabled otherReplays otherVerified with
      ⟨otherFound, otherPrepared, isOtherFound, otherAccepted⟩
    rw [accepted.said_eq] at asked
    rw [otherAccepted.said_eq] at otherAsked
    rw [decodes.unique isFound, otherDecodes.unique isOtherFound]
    apply canonicalReceiptPayload_injective accepted.keyed otherAccepted.keyed accepted.isPayload
    rw [← payload_of_agreed asked, payload_of_agreed otherAsked]
    exact otherAccepted.isPayload

/-! ### A signed receipt

An amount, under two signatures of the lengths that are asked for. -/

namespace Signed

def classicalKey : Bytes := List.replicate 65 4

def classicalSignature : Bytes := [7]

def pqcKey : Bytes := List.replicate 1952 5

def pqcSignature : Bytes := List.replicate 3309 6

def entry (alg kid signature : Text) : Document Unit :=
  .object [("alg".toText, .str alg), ("kid".toText, .str kid), ("signature".toText, .str signature)]

def sigV2 (classical pqc : Text) : Members Unit :=
  [("classical".toText, entry classicalAlg "c1".toText classical),
    ("pqc".toText, entry pqcAlg "p1".toText pqc), ("version".toText, .int 2)]

def receipt (classical pqc : Text) : Members Unit :=
  [("amount".toText, .str "100".toText), ("sig_v2".toText, .object (sigV2 classical pqc))]

def signed : Members Unit :=
  receipt (encodeSignature classicalSignature) (encodeSignature pqcSignature)

def policy : PqcConfig := ⟨true, "cryptography"⟩

def classicalKeys : Registry := fun kid => if kid = "c1".toText then some classicalKey else none

def pqcKeys : Registry := fun kid => if kid = "p1".toText then some pqcKey else none

/-- A backend that finds every signature valid. -/
def valid : Environment backend
  | _, .load _ => .ok ()
  | _, .ecdsaP256Sha256 _ _ _ => .ok true
  | _, .mldsa65 _ _ _ => .ok true

section

attribute [local instance] zeroText

/-- An interpreter that knows no digest, for none is asked for. -/
@[reducible]
def interpreter : Interpreter := asciiInterpreter []

attribute [local instance] interpreter

variable (classical pqc : Text)

theorem two_short : (2 : ℤ).natAbs < 10 ^ maxStrDigits :=
  lt_of_lt_of_le (by decide : 2 < 10) (Nat.le_self_pow (by decide) 10)

theorem short_entry (alg kid signature : Text) : (entry alg kid signature).Short := by
  apply Short.object
  simp only [List.forall_mem_cons]
  exact ⟨.str _, .str _, .str _, List.forall_mem_nil _⟩

theorem short_receipt : (Document.object (receipt classical pqc)).Short := by
  apply Short.object
  simp only [receipt, List.forall_mem_cons]
  refine ⟨.str _, .object ?_, List.forall_mem_nil _⟩
  simp only [sigV2, List.forall_mem_cons]
  exact ⟨short_entry _ _ _, short_entry _ _ _, .int two_short, List.forall_mem_nil _⟩

theorem keyed_entry (alg kid signature : Text) : (entry alg kid signature).Keyed := by
  have names : ["alg".toText, "kid".toText, "signature".toText].Nodup := by decide
  exact ⟨names, trivial, trivial, trivial, trivial⟩

theorem keyed_receipt : (Document.object (receipt classical pqc)).Keyed := by
  have inner : ["classical".toText, "pqc".toText, "version".toText].Nodup := by decide
  have outer : ["amount".toText, "sig_v2".toText].Nodup := by decide
  have isSigV2 : (Document.object (sigV2 classical pqc)).Keyed :=
    ⟨inner, keyed_entry _ _ _, keyed_entry _ _ _, trivial, trivial⟩
  exact ⟨outer, trivial, isSigV2, trivial⟩

theorem sortKeys_entry (alg kid signature : Text) :
    sortKeys (entry alg kid signature) = entry alg kid signature :=
  congrArg Document.object (orderMembers_of_sorted
    (by decide : ["alg".toText, "kid".toText, "signature".toText].Pairwise (· ≤ ·)))

theorem sortKeys_receipt :
    sortKeys (.object (receipt classical pqc)) = .object (receipt classical pqc) := by
  have inner : ["classical".toText, "pqc".toText, "version".toText].Pairwise (· ≤ ·) := by decide
  have outer : ["amount".toText, "sig_v2".toText].Pairwise (· ≤ ·) := by decide
  simp only [receipt, sigV2, sortKeys, sortMembers, sortKeys_entry]
  rw [orderMembers_of_sorted (by exact outer), orderMembers_of_sorted (by exact inner)]

theorem exists_payload :
    ∃ payload, canonicalReceiptPayload (receipt classical pqc) = .ok payload := by
  have unsigned : unsignedReceipt (receipt classical pqc) = .ok (receipt .empty .empty) := rfl
  have profile : validateJsonProfile (.object (receipt .empty .empty)) = .ok () := rfl
  have version : intStr 2 = some (decDigits 2) := if_pos two_short
  have blank : quote false .empty = some ['"', '"'] := rfl
  rw [canonicalReceiptPayload, unsigned, Checks.ok_bind, profile, Checks.ok_bind, sortKeys_receipt]
  simp only [dumps, receipt, sigV2, entry, classicalAlg, pqcAlg, write, writeMembers, quote_toText,
    version, blank, Style.unicode, Option.bind_eq_bind, Option.bind_some, Option.pure_def, orRaise,
    Checks.ok_bind]
  exact ⟨_, rfl⟩

theorem signatureEntry_entry {alg kid : Text} {data : Bytes} {name : String}
    {members : Members Unit}
    (found : members.lookup name.toText = some (entry alg kid (encodeSignature data)))
    (isKid : requireKid (.str kid : Document Unit) name = .ok kid) (nonempty : data ≠ []) :
    signatureEntry members name alg = .ok (kid, data) := by
  have isAlg : requireAlg (.str alg : Document Unit) name alg = .ok () := by
    rw [requireAlg, refuse_eq_ok_iff, not_not]
  rw [signatureEntry, found]
  simp only [entry, Checks.bind_eq_ok_iff, refuse_eq_ok_iff, exists_const]
  exact ⟨Bool.noConfusion, (), isAlg, kid, isKid, data, decodeSignature_encode nonempty, rfl⟩

theorem exists_prepared : ∃ prepared, prepare classicalKeys pqcKeys signed
    (.object (sigV2 (encodeSignature classicalSignature) (encodeSignature pqcSignature))) =
      .ok prepared := by
  rcases exists_payload (encodeSignature classicalSignature) (encodeSignature pqcSignature) with
    ⟨payload, isPayload⟩
  generalize isEntries : sigV2 (encodeSignature classicalSignature) (encodeSignature pqcSignature) =
    entries
  have isClassical : signatureEntry entries "classical" classicalAlg =
      .ok ("c1".toText, classicalSignature) := by
    rw [← isEntries]
    exact signatureEntry_entry rfl rfl (by decide)
  have isPqc : signatureEntry entries "pqc" pqcAlg = .ok ("p1".toText, pqcSignature) := by
    rw [← isEntries]
    exact signatureEntry_entry rfl rfl (by decide)
  have lengths :
      ¬(classicalKey.length ≠ 65 ∨ pqcKey.length ≠ 1952 ∨ pqcSignature.length ≠ 3309) := by
    simp only [classicalKey, pqcKey, pqcSignature, List.length_replicate, ne_eq, not_true_eq_false,
      or_self, not_false_eq_true]
  refine ⟨⟨classicalKey, classicalSignature, pqcKey, pqcSignature, payload⟩, ?_⟩
  simp only [prepare, signed, isClassical, isPqc, isPayload, trustedKey, orRaise_eq_ok_iff,
    Checks.bind_eq_ok_iff, refuse_eq_ok_iff, exists_const, Checks.ok_bind]
  subst isEntries
  exact ⟨Bool.noConfusion, (), rfl, classicalKey, rfl, pqcKey, rfl, lengths, rfl⟩

end

end Signed

section

attribute [local instance] zeroText Signed.interpreter

/-- The text of the signed receipt is verified, with one conversation of two questions. -/
theorem receipt_tamper_evidence_signed :
    ∃ (receiptBytes : Bytes) (said : History backend),
      Returns Signed.valid (verifyReceipt Unit receiptBytes Signed.classicalKeys Signed.pqcKeys
        Signed.policy true) () [] ⟨.verified, receiptBytes, none, .empty⟩ () said ∧
      ∃ (receipt : Members Unit) (prepared : Prepared), Decodes receiptBytes receipt ∧
        Accepted Signed.classicalKeys Signed.pqcKeys Signed.policy true receipt prepared said := by
  rcases (Signed.short_receipt _ _).write .plain 0 rfl with ⟨text, written⟩
  have loaded : loadReceipt (utf8 text) = .ok (.object Signed.signed) :=
    loadReceipt_dumps (Signed.keyed_receipt _ _) written (by decide : 3 ≤ 900)
  rcases Signed.exists_prepared with ⟨prepared, isPrepared⟩
  have replays : (verifyReceipt Unit (utf8 text) Signed.classicalKeys Signed.pqcKeys Signed.policy
      true).Replays () (agreed Signed.policy true prepared)
      (.ok ⟨.verified, utf8 text, none, .empty⟩) () :=
    verifyReceipt_of_agreed rfl loaded rfl isPrepared
  have follows : Follows Signed.valid [] (agreed Signed.policy true prepared) :=
    ⟨rfl, rfl, trivial⟩
  have returns := returns_iff.mpr ⟨_, (List.nil_append _).symm, follows, replays⟩
  refine ⟨utf8 text, agreed Signed.policy true prepared, returns, ?_⟩
  rcases receipt_tamper_evidence.2.1 (utf8 text) Signed.classicalKeys Signed.pqcKeys Signed.policy
    true Signed.valid [] _ _ rfl returns rfl with ⟨receipt, accepted, said, rfl, found⟩
  exact ⟨receipt, accepted, found⟩

end

end Pqc

end Psv
