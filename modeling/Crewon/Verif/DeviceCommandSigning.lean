import Crewon.Contracts.DeviceCommandSigning
import Crewon.Verif.CanonicalJson
import Mathlib

/-!
# What the signature of a device command binds

The signed text of a command tells every field of the command and of its authorization but the
signature, up to the order of keys. A command that is signed keeps the text that was computed before
it was signed.
-/

namespace Crewon.Verif.DeviceCommandSigning

open Crewon.Js Crewon.Checked Crewon.Lib
open Crewon.Contracts (isSignature)
open Crewon.Contracts.DeviceCommandSigning Json

/-! ## Records that agree -/

/-- Two records have the same fields up to the order of keys, but for one key. -/
def AgreeBut (key : String) (left right : Fields) : Prop :=
  ∀ name, name ≠ js key → Option.Rel SameUpToOrder (findIn name left) (findIn name right)

/-- Two commands agree on every field of theirs and of their authorizations but the signature. -/
structure AgreeButSignature (left right : Fields) : Prop where
  terms : AgreeBut "authorization" left right
  authorization : AgreeBut "signature" (spread (valueOf left "authorization"))
    (spread (valueOf right "authorization"))

/-- Fields that have their values in others have them one by one. -/
theorem fieldsIn_of_mem {others fields : Fields}
    (found : ∀ field ∈ fields, ∃ other, (field.1, other) ∈ others ∧ SameUpToOrder field.2 other) :
    FieldsIn others fields := by
  induction fields with
  | nil => trivial
  | cons field rest hypothesis =>
    exact ⟨found field List.mem_cons_self,
      hypothesis fun later member => found later (List.mem_cons_of_mem _ member)⟩

/-- Records are the same up to the order of keys exactly when their fields are. -/
theorem sameObject_iff {left right : Fields} (leftDistinct : (names left).Nodup)
    (rightDistinct : (names right).Nodup) :
    SameUpToOrder (.object left) (.object right) ↔
      ∀ name, Option.Rel SameUpToOrder (findIn name left) (findIn name right) := by
  constructor
  · rintro ⟨sameNames, found⟩ name
    cases held : findIn name left with
    | none =>
      have absent : name ∉ names right := fun member =>
        findIn_eq_none_iff.mp held (sameNames.mem_iff.mpr member)
      rw [findIn_eq_none_iff.mpr absent]
      exact .none
    | some value =>
      obtain ⟨other, listed, same⟩ := fieldsIn_mem found (mem_of_findIn held)
      rw [findIn_of_mem rightDistinct listed]
      exact .some same
  · intro each
    constructor
    · refine (List.perm_ext_iff_of_nodup leftDistinct rightDistinct).mpr fun name => ?_
      have related := each name
      rw [← not_iff_not, ← findIn_eq_none_iff, ← findIn_eq_none_iff]
      constructor
      · intro absent
        rw [absent] at related
        cases other : findIn name right with
        | none => rfl
        | some value =>
          rw [other] at related
          cases related
      · intro absent
        rw [absent] at related
        cases other : findIn name left with
        | none => rfl
        | some value =>
          rw [other] at related
          cases related
    · refine fieldsIn_of_mem fun field member => ?_
      have related := each field.1
      rw [findIn_of_mem leftDistinct member] at related
      cases other : findIn field.1 right with
      | none =>
        rw [other] at related
        cases related
      | some value =>
        rw [other] at related
        cases related with
        | some same => exact ⟨value, mem_of_findIn other, same⟩

/-- Reading a record without a key. -/
theorem findIn_without (fields : Fields) (key : String) (name : JsString) :
    findIn name (without fields key) = if name = js key then none else findIn name fields :=
  findIn_filter_ne (js key) name fields

/-- Records without a key are the same up to the order of keys exactly when they agree but for
it. -/
theorem sameWithout_iff {left right : Fields} (leftDistinct : (names left).Nodup)
    (rightDistinct : (names right).Nodup) (key : String) :
    SameUpToOrder (.object (without left key)) (.object (without right key)) ↔
      AgreeBut key left right := by
  have kept {fields : Fields} (distinct : (names fields).Nodup) :
      (names (without fields key)).Nodup :=
    distinct.sublist (List.filter_sublist.map Prod.fst)
  rw [sameObject_iff (kept leftDistinct) (kept rightDistinct)]
  constructor
  · intro each name other
    have related := each name
    rwa [findIn_without, findIn_without, if_neg other, if_neg other] at related
  · intro agree name
    rw [findIn_without, findIn_without]
    by_cases same : name = js key
    · rw [if_pos same, if_pos same]
      exact .none
    · rw [if_neg same, if_neg same]
      exact agree name same

/-! ## The signed text -/

/-- A proper record stays so without a key. -/
theorem proper_without {fields : Fields} (proper : Proper (.object fields)) (key : String) :
    Proper (.object (without fields key)) := by
  refine ⟨proper.1.sublist (List.filter_sublist.map Prod.fst), ?_⟩
  have inside := proper.2
  clear proper
  induction fields with
  | nil => trivial
  | cons field rest hypothesis =>
    unfold without
    by_cases kept : field.1 ≠ js key
    · rw [List.filter_cons_of_pos (by simpa using kept)]
      exact ⟨inside.1, hypothesis inside.2⟩
    · rw [List.filter_cons_of_neg (by simpa using kept)]
      exact hypothesis inside.2

/-- The fields of a proper value are proper. -/
theorem proper_spread {value : Json} (proper : Proper value) : Proper (.object (spread value)) := by
  cases value with
  | object fields => exact proper
  | null | bool | number | string | array => exact ⟨List.nodup_nil, trivial⟩

/-- A value of a proper record is proper. -/
theorem proper_valueOf {fields : Fields} (proper : Proper (.object fields)) (key : String) :
    Proper (valueOf fields key) := by
  unfold valueOf
  cases found : findIn (js key) fields with
  | none => trivial
  | some value => exact proper_of_mem proper.2 (mem_of_findIn found)

/-- The parts of the value that a signature is over. -/
theorem signingValue_same_iff {leftTerms rightTerms leftAuthorization rightAuthorization : Fields}
    {version : Json} (proper : Proper version) :
    SameUpToOrder
        (.object [(js "schemaVersion", version), (js "command", .object leftTerms),
          (js "authorization", .object leftAuthorization)])
        (.object [(js "schemaVersion", version), (js "command", .object rightTerms),
          (js "authorization", .object rightAuthorization)]) ↔
      SameUpToOrder (.object leftTerms) (.object rightTerms) ∧
        SameUpToOrder (.object leftAuthorization) (.object rightAuthorization) := by
  have keys : [js "schemaVersion", js "command", js "authorization"].Nodup := by decide
  have distinct (terms authorization : Fields) : (names
      [(js "schemaVersion", version), (js "command", .object terms),
        (js "authorization", .object authorization)]).Nodup := keys
  have command (terms authorization : Fields) : findIn (js "command")
      [(js "schemaVersion", version), (js "command", .object terms),
        (js "authorization", .object authorization)] = some (.object terms) := rfl
  have authorized (terms authorization : Fields) : findIn (js "authorization")
      [(js "schemaVersion", version), (js "command", .object terms),
        (js "authorization", .object authorization)] = some (.object authorization) := rfl
  constructor
  · intro same
    have each := (sameObject_iff (distinct _ _) (distinct _ _)).mp same
    have terms := each (js "command")
    have authorization := each (js "authorization")
    rw [command, command] at terms
    rw [authorized, authorized] at authorization
    exact ⟨Option.rel_some_some.mp terms, Option.rel_some_some.mp authorization⟩
  · rintro ⟨terms, authorization⟩
    refine ⟨.refl _, ⟨version, by simp, .refl proper⟩, ⟨.object rightTerms, by simp, terms⟩,
      ⟨.object rightAuthorization, by simp, authorization⟩, trivial⟩

/-- Two commands have the same signed text exactly when they agree but for the signature. -/
theorem signingText_iff {left right : Fields} (leftProper : Proper (.object left))
    (rightProper : Proper (.object right)) :
    stringify (sortJson (signingValue left)) = stringify (sortJson (signingValue right)) ↔
      AgreeButSignature left right := by
  have leftSpread := proper_spread (proper_valueOf leftProper "authorization")
  have rightSpread := proper_spread (proper_valueOf rightProper "authorization")
  have keys : [js "schemaVersion", js "command", js "authorization"].Nodup := by decide
  have proper {command : Fields} (terms : Proper (.object command))
      (authorization : Proper (.object (spread (valueOf command "authorization")))) :
      Proper (signingValue command) :=
    ⟨keys, trivial, proper_without terms _, proper_without authorization _, trivial⟩
  have version : Proper (.string (js "crewon.device-command-signature-payload.v0")) := trivial
  unfold sortJson
  rw [stringify_eq_iff (proper leftProper leftSpread) (proper rightProper rightSpread),
    signingValue, signingValue, signingValue_same_iff version,
    sameWithout_iff leftProper.1 rightProper.1, sameWithout_iff leftSpread.1 rightSpread.1]
  exact ⟨fun agree => ⟨agree.1, agree.2⟩, fun agree => ⟨agree.terms, agree.authorization⟩⟩

/-! ## Signing a command -/

/-- A command before it is signed. -/
def unsigned (command : Fields) : Fields :=
  setIn (js "authorization")
    (.object (without (spread (valueOf command "authorization")) "signature")) command

/-- Setting a key of a record and leaving it away. -/
theorem without_setIn (fields : Fields) (key : String) (value : Json) :
    without (setIn (js key) value fields) key = without fields key := by
  unfold without
  induction fields with
  | nil => simp [setIn]
  | cons field rest hypothesis =>
    obtain ⟨name, held⟩ := field
    rw [setIn]
    split_ifs with same
    · rw [List.filter_cons_of_neg (by simp), List.filter_cons_of_neg (by simp [same])]
    · rw [List.filter_cons_of_pos (by simp [same]), List.filter_cons_of_pos (by simp [same]),
        hypothesis]

/-- The later of two values of a key is kept. -/
theorem setIn_setIn (fields : Fields) (key : JsString) (first second : Json) :
    setIn key second (setIn key first fields) = setIn key second fields := by
  induction fields with
  | nil => simp [setIn]
  | cons field rest hypothesis =>
    obtain ⟨name, held⟩ := field
    rw [setIn, setIn]
    split_ifs with same
    · rw [setIn, if_pos rfl]
    · rw [setIn, if_neg same, hypothesis]

/-- A key that a record does not have is set behind the others. -/
theorem setIn_without (fields : Fields) (key : String) (value : Json) :
    setIn (js key) value (without fields key) = without fields key ++ [(js key, value)] := by
  unfold without
  induction fields with
  | nil => rfl
  | cons field rest hypothesis =>
    by_cases kept : field.1 ≠ js key
    · rw [List.filter_cons_of_pos (by simpa using kept), setIn, if_neg kept, hypothesis,
        List.cons_append]
    · rw [List.filter_cons_of_neg (by simpa using kept), hypothesis]

/-- A value of a record in which another key was set. -/
theorem valueOf_setIn_of_ne (fields : Fields) {key other : String} (value : Json)
    (different : js other ≠ js key) :
    valueOf (setIn (js key) value fields) other = valueOf fields other := by
  rw [valueOf, findIn_setIn, if_neg different]
  rfl

/-- The value of the key that was set. -/
theorem valueOf_setIn_self (fields : Fields) (key : String) (value : Json) :
    valueOf (setIn (js key) value fields) key = value := by
  rw [valueOf, findIn_setIn, if_pos rfl]
  rfl

/-- The keys of a record are the expected ones, in any order. -/
theorem requireExactKeys_eq_ok {fields : Fields} {expected : List String} :
    requireExactKeys fields expected = .ok () ↔ (names fields).Perm (expected.map js) := by
  rw [requireExactKeys, rejectIf_eq_ok, not_not]
  constructor
  · intro same
    have sorted := List.perm_insertionSort (· ≤ ·) (names fields)
    rw [same] at sorted
    exact sorted.symm.trans (List.perm_insertionSort _ _)
  · intro same
    have sorted : ((names fields).insertionSort (· ≤ ·)).Perm
        ((expected.map js).insertionSort (· ≤ ·)) :=
      (List.perm_insertionSort _ _).trans (same.trans (List.perm_insertionSort _ _).symm)
    exact sorted.eq_of_pairwise (fun _ _ _ _ => le_antisymm) (List.pairwise_insertionSort _ _)
      (List.pairwise_insertionSort _ _)

/-- The terms of a command are read from its keys but the authorization. -/
theorem parseCommandTerms_congr {left right : Fields}
    (same : ∀ key, js key ≠ js "authorization" → valueOf left key = valueOf right key) :
    parseCommandTerms left = parseCommandTerms right := by
  unfold parseCommandTerms commandIds
  simp (disch := decide) only [forEach, same]

/-- The terms of an authorization are read from its keys but the signature. -/
theorem parseAuthorizationTerms_congr {left right : Fields}
    (same : ∀ key, js key ≠ js "signature" → valueOf left key = valueOf right key)
    (commandExpiresAt : JsString) :
    parseAuthorizationTerms left commandExpiresAt =
      parseAuthorizationTerms right commandExpiresAt := by
  unfold parseAuthorizationTerms
  simp (disch := decide) only [same]

/-- The record that a value is. -/
theorem requireObject_eq_ok {value : Json} {code : String} {fields : Fields} :
    requireObject value code = .ok fields ↔ value = .object fields := by
  cases value <;> simp [requireObject]

/-- What a command that is read has passed. -/
theorem parse_eq_ok {input : Json} {command : Fields} :
    parseDeviceExecutionCommand input = .ok command ↔
      input = .object command ∧ requireExactKeys command commandKeys = .ok () ∧
        ∃ expiresAt, parseCommandTerms command = .ok expiresAt ∧
          parseDeviceCommandAuthorization (valueOf command "authorization")
            (valueOf command "actionDigest") expiresAt = .ok () ∧
          requireBoundedJson (.object command) (128 * 1024) "device_command_too_large" =
            .ok () := by
  simp only [parseDeviceExecutionCommand, bind_eq_ok, exists_unit, pure_eq_ok,
    requireObject_eq_ok]
  constructor
  · rintro ⟨fields, rfl, keys, expiresAt, terms, authorization, bounded, rfl⟩
    exact ⟨rfl, keys, expiresAt, terms, authorization, bounded⟩
  · rintro ⟨rfl, keys, expiresAt, terms, authorization, bounded⟩
    exact ⟨command, rfl, keys, expiresAt, terms, authorization, bounded, rfl⟩

/-! ## The bytes of a signed command -/

section Size

variable (width : FiniteNumber → Nat)

/-- The bytes of a record in which a key was set. -/
theorem fieldsSize_setIn {fields : Fields} {key : JsString} {old : Json} (value : Json)
    (found : findIn key fields = some old) :
    (setIn key value fields).length = fields.length ∧
      JsonForm.fieldsSize width (setIn key value fields) + old.encodedSize width =
        JsonForm.fieldsSize width fields + value.encodedSize width := by
  induction fields with
  | nil => cases found
  | cons field rest hypothesis =>
    obtain ⟨name, held⟩ := field
    rw [findIn] at found
    rw [setIn]
    split_ifs at found ⊢ with same
    · rw [Option.some.inj found, same]
      simp only [List.length_cons, JsonForm.fieldsSize, true_and]
      omega
    · obtain ⟨length, size⟩ := hypothesis found
      simp only [List.length_cons, JsonForm.fieldsSize, length, true_and]
      omega

/-- The bytes of a record with a field behind the others. -/
theorem fieldsSize_concat (fields : Fields) (key : JsString) (value : Json) :
    JsonForm.fieldsSize width (fields ++ [(key, value)]) =
      JsonForm.fieldsSize width fields + (quotedWidth key + 1 + value.encodedSize width) := by
  induction fields with
  | nil => simp [JsonForm.fieldsSize]
  | cons field rest hypothesis =>
    obtain ⟨name, held⟩ := field
    rw [List.cons_append, JsonForm.fieldsSize, JsonForm.fieldsSize, hypothesis]
    omega

/-- The bytes of a record without a key. -/
theorem fieldsSize_without {fields : Fields} (distinct : (names fields).Nodup) {key : String}
    {value : Json} (found : findIn (js key) fields = some value) :
    fields.length = (without fields key).length + 1 ∧
      JsonForm.fieldsSize width fields = JsonForm.fieldsSize width (without fields key) +
        (quotedWidth (js key) + 1 + value.encodedSize width) := by
  induction fields with
  | nil => cases found
  | cons field rest hypothesis =>
    obtain ⟨name, held⟩ := field
    obtain ⟨apart, distinct⟩ := List.nodup_cons.mp distinct
    rw [findIn] at found
    unfold without at hypothesis ⊢
    split_ifs at found with same
    · have absent : rest.filter (fun field => field.1 ≠ js key) = rest := by
        refine List.filter_eq_self.mpr fun field member => ?_
        have other : field.1 ≠ js key := fun equal =>
          apart (List.mem_map.mpr ⟨field, member, equal.trans same.symm⟩)
        simpa using other
      rw [List.filter_cons_of_neg (by simp [same]), absent, ← Option.some.inj found, ← same]
      simp only [List.length_cons, JsonForm.fieldsSize, true_and]
      omega
    · obtain ⟨length, size⟩ := hypothesis distinct found
      rw [List.filter_cons_of_pos (by simp [same])]
      simp only [List.length_cons, JsonForm.fieldsSize, true_and, length]
      omega

end Size

/-- Units that are no high surrogates are code points. -/
theorem pointsOf_plain {points : List UInt16}
    (plain : ∀ point ∈ points, JsString.isHigh point = false) :
    JsString.pointsOf points = points.map UInt16.toNat := by
  induction points with
  | nil => rfl
  | cons first rest hypothesis =>
    have others := hypothesis fun point member => plain point (List.mem_cons_of_mem _ member)
    cases rest with
    | nil => rfl
    | cons second later =>
      rw [JsString.pointsOf, plain first List.mem_cons_self, Bool.false_and, if_neg (by decide),
        others]
      rfl

/-- A signature is written with 86 bytes between its quotes. -/
theorem quotedWidth_signature {text : JsString} (signature : isSignature text = true) :
    quotedWidth text = 88 := by
  unfold isSignature at signature
  obtain ⟨length, plain⟩ := Bool.and_eq_true_iff.mp signature
  have letters : ∀ point ∈ text.units, point.toNat < 0x80 ∧ 0x2D ≤ point.toNat ∧
      point.toNat ≠ 0x5C := by
    intro point member
    have letter := List.all_eq_true.mp plain point member
    simp only [isAlphanumeric, isDigit, isLowerLetter, Bool.or_eq_true, Bool.and_eq_true,
      decide_eq_true_eq, beq_iff_eq, UInt16.le_iff_toNat_le,
      show (unit '0').toNat = 48 from rfl, show (unit '9').toNat = 57 from rfl,
      show (unit 'a').toNat = 97 from rfl, show (unit 'z').toNat = 122 from rfl,
      show (unit 'A').toNat = 65 from rfl, show (unit 'Z').toNat = 90 from rfl] at letter
    rcases letter with (letter | rfl) | rfl
    · omega
    · decide
    · decide
  have low : ∀ point ∈ text.units, JsString.isHigh point = false := by
    intro point member
    have bound := (letters point member).1
    simp only [JsString.isHigh, Bool.and_eq_false_iff, decide_eq_false_iff_not,
      UInt16.le_iff_toNat_le, UInt16.lt_iff_toNat_lt, UInt16.reduceToNat]
    omega
  have each : ∀ width ∈ text.codePoints.map escapedWidth, width = 1 := by
    intro width member
    rw [JsString.codePoints, pointsOf_plain low, List.map_map] at member
    obtain ⟨point, held, rfl⟩ := List.mem_map.mp member
    have bounds := letters point held
    unfold Function.comp escapedWidth JsString.utf8Width
    rw [if_neg (by omega), if_neg (by omega), if_pos (by omega)]
  rw [quotedWidth, List.sum_eq_card_nsmul _ 1 each, List.length_map, JsString.codePoints,
    pointsOf_plain low, List.length_map]
  have count : text.units.length = 86 := by simpa [JsString.length] using length
  rw [count]
  rfl

/-! ## A command that is signed is accepted -/

/-- Fields are nested as their values are. -/
theorem isJsonFields_iff {fields : Fields} {depth : Nat} : isJsonFields fields depth = true ↔
    ∀ field ∈ fields, isJsonValue field.2 depth = true := by
  induction fields with
  | nil => simp [isJsonFields]
  | cons field rest hypothesis =>
    obtain ⟨name, value⟩ := field
    rw [isJsonFields, Bool.and_eq_true, hypothesis, List.forall_mem_cons]

/-- A record is nested as its fields are. -/
theorem isJsonValue_object {fields : Fields} {depth : Nat} (shallow : depth ≤ maxDepth) :
    isJsonValue (.object fields) depth = true ↔
      ∀ field ∈ fields, isJsonValue field.2 (depth + 1) = true := by
  rw [isJsonValue, if_neg (Nat.not_lt.mpr shallow), isJsonFields_iff]

/-- A field of a record in which a key was set is the new one or an old one. -/
theorem mem_setIn {fields : Fields} {key : JsString} {value : Json} {field : JsString × Json}
    (member : field ∈ setIn key value fields) : field = (key, value) ∨ field ∈ fields := by
  induction fields with
  | nil => exact .inl (List.mem_singleton.mp member)
  | cons first rest hypothesis =>
    obtain ⟨name, held⟩ := first
    rw [setIn] at member
    split_ifs at member
    · rcases List.mem_cons.mp member with here | later
      · exact .inl here
      · exact .inr (List.mem_cons_of_mem _ later)
    · rcases List.mem_cons.mp member with here | later
      · exact .inr (here ▸ List.mem_cons_self)
      · exact (hypothesis later).imp_right (List.mem_cons_of_mem _)

/-- An authorization with another signature. -/
def signed (authorization : Fields) : Fields :=
  without authorization "signature" ++ [(js "signature", JsonForm.string placeholderSignature)]

/-- The placeholder is a signature. -/
theorem placeholder_isSignature : isSignature placeholderSignature = true := by decide

section Signed

variable {command authorization : Fields} (proper : Proper (.object command))
  (held : findIn (js "authorization") command = some (.object authorization))

include proper held

/-- The authorization is one of the fields. -/
theorem proper_authorization : Proper (.object authorization) :=
  proper_of_mem proper.2 (mem_of_findIn held)

/-- Another signature makes a command neither deeper nor longer. -/
theorem bounded_signed {signature : JsString}
    (signs : findIn (js "signature") authorization = some (.string signature))
    (plain : isSignature signature = true) {maxBytes : Nat} {code : String}
    (bounded : requireBoundedJson (.object command) maxBytes code = .ok ()) :
    requireBoundedJson (.object (setIn (js "authorization") (.object (signed authorization))
      command)) maxBytes code = .ok () := by
  simp only [requireBoundedJson, bind_eq_ok, exists_unit, rejectIf_eq_ok, not_lt,
    Bool.not_eq_false] at bounded ⊢
  obtain ⟨nested, short⟩ := bounded
  constructor
  · rw [isJsonValue_object (Nat.zero_le _)] at nested ⊢
    intro field member
    rcases mem_setIn member with rfl | old
    · have inside := nested _ (mem_of_findIn held)
      rw [isJsonValue_object (by decide)] at inside ⊢
      intro other listed
      rcases List.mem_append.mp listed with kept | added
      · exact inside other (List.mem_of_mem_filter kept)
      · rw [List.mem_singleton.mp added]
        decide
    · exact nested field old
  · have inner := fieldsSize_without (fun number => number.text.length)
      (proper_authorization proper held).1 signs
    have outer := fieldsSize_setIn (fun number => number.text.length)
      (.object (signed authorization)) held
    have behind := fieldsSize_concat (fun number => number.text.length)
      (without authorization "signature") (js "signature") (.string placeholderSignature)
    have length : (signed authorization).length = authorization.length := by
      rw [signed, List.length_append, inner.1]
      rfl
    have old := quotedWidth_signature plain
    have new := quotedWidth_signature placeholder_isSignature
    unfold encodedBytes at short ⊢
    simp only [JsonForm.encodedSize] at inner outer behind short ⊢
    rw [← signed] at behind
    rw [length] at outer
    omega

end Signed

/-- A record that is the value of a key is found under it. -/
theorem findIn_of_valueOf {fields record : Fields} {key : String}
    (same : valueOf fields key = .object record) :
    findIn (js key) fields = some (.object record) := by
  unfold valueOf at same
  cases found : findIn (js key) fields with
  | none =>
    rw [found] at same
    cases same
  | some value =>
    rw [found] at same
    exact congrArg some same

/-- A text of a signature is found under its key. -/
theorem signature_of_required {fields : Fields}
    (required : requireSignature (valueOf fields "signature") = .ok ()) :
    ∃ signature, findIn (js "signature") fields = some (.string signature) ∧
      isSignature signature = true := by
  unfold valueOf at required
  cases found : findIn (js "signature") fields with
  | none => simp [found, requireSignature, requireText] at required
  | some value =>
    cases value with
    | string signature =>
      refine ⟨signature, rfl, ?_⟩
      simpa [found, requireSignature, requireText] using required
    | null | bool | number | array | object =>
      simp [found, requireSignature, requireText] at required

/-- What an authorization that is read has passed. -/
theorem parseAuthorization_eq_ok {value actionDigest : Json} {commandExpiresAt : JsString} :
    parseDeviceCommandAuthorization value actionDigest commandExpiresAt = .ok () ↔
      ∃ authorization, value = .object authorization ∧
        requireExactKeys authorization authorizationKeys = .ok () ∧
        ∃ issuedAt, parseAuthorizationTerms authorization commandExpiresAt = .ok issuedAt ∧
          requireSignature (valueOf authorization "signature") = .ok () ∧
          parseOptionalProof (valueOf authorization "approvalProof") actionDigest issuedAt =
            .ok () := by
  simp only [parseDeviceCommandAuthorization, bind_eq_ok, exists_unit, requireObject_eq_ok]

/-- Another signature leaves the keys of an authorization. -/
theorem names_signed {authorization : Fields} (distinct : (names authorization).Nodup)
    {signature : Json} (signs : findIn (js "signature") authorization = some signature) :
    (names (signed authorization)).Perm (names authorization) := by
  have member : js "signature" ∈ names authorization :=
    List.mem_map_of_mem (mem_of_findIn signs)
  have parts := List.filter_append_perm (fun name => name ≠ js "signature") (names authorization)
  have alone : (names authorization).filter (fun name => !decide (name ≠ js "signature")) =
      [js "signature"] := by
    have equal : (fun name => !decide (name ≠ js "signature")) =
        fun name => name == js "signature" := by
      funext name
      by_cases same : name = js "signature" <;> simp [same]
    rw [equal, List.filter_beq, List.count_eq_one_of_mem distinct member]
    rfl
  rw [alone, names, List.filter_map] at parts
  unfold signed without
  rw [names, List.map_append]
  exact parts

/-- A command with the placeholder is read like a signed one. -/
theorem parse_signed {command : Fields} (proper : Proper (.object command))
    (accepted : parseDeviceExecutionCommand (.object command) = .ok command) :
    ∃ authorization, valueOf command "authorization" = .object authorization ∧
      parseDeviceExecutionCommand (.object (setIn (js "authorization")
          (.object (signed authorization)) command)) =
        .ok (setIn (js "authorization") (.object (signed authorization)) command) := by
  obtain ⟨_, keys, expiresAt, terms, authorized, bounded⟩ := parse_eq_ok.mp accepted
  obtain ⟨authorization, same, inner, issuedAt, granted, required, proof⟩ :=
    parseAuthorization_eq_ok.mp authorized
  have held := findIn_of_valueOf same
  obtain ⟨signature, signs, plain⟩ := signature_of_required required
  have distinct := (proper_authorization proper held).1
  refine ⟨authorization, same, parse_eq_ok.mpr ⟨rfl, ?_, expiresAt, ?_, ?_, ?_⟩⟩
  · rw [requireExactKeys_eq_ok] at keys ⊢
    have member : js "authorization" ∈ command.map Prod.fst :=
      List.mem_map_of_mem (mem_of_findIn held)
    rw [names, setIn_keys, if_pos member]
    exact keys
  · rw [← terms]
    exact parseCommandTerms_congr fun key other => valueOf_setIn_of_ne command _ other
  · rw [valueOf_setIn_self, valueOf_setIn_of_ne command _ (by decide)]
    have inside (key : String) (other : js key ≠ js "signature") :
        valueOf (signed authorization) key = valueOf authorization key := by
      rw [signed, ← setIn_without, valueOf_setIn_of_ne _ _ other, valueOf, findIn_without,
        if_neg other]
      rfl
    have newSignature : valueOf (signed authorization) "signature" =
        .string placeholderSignature := by
      rw [signed, ← setIn_without, valueOf_setIn_self]
    refine parseAuthorization_eq_ok.mpr ⟨_, rfl, ?_, issuedAt, ?_, ?_, ?_⟩
    · rw [requireExactKeys_eq_ok] at inner ⊢
      exact (names_signed distinct signs).trans inner
    · rw [← granted]
      exact parseAuthorizationTerms_congr inside expiresAt
    · rw [newSignature]
      simp [requireSignature, requireText, placeholder_isSignature]
    · rw [inside _ (by decide)]
      exact proof
  · exact bounded_signed proper held signs plain bounded

/-- The signed text of a command that is read. -/
theorem payload_of_parse {command : Fields}
    (accepted : parseDeviceExecutionCommand (.object command) = .ok command) :
    canonicalDeviceCommandSigningPayload (.object command) =
      .ok (stringify (sortJson (signingValue command))) := by
  rw [canonicalDeviceCommandSigningPayload, accepted]
  rfl

/-- The signed text does not depend on the signature. -/
theorem signingValue_signed {command authorization : Fields}
    (same : valueOf command "authorization" = .object authorization) :
    signingValue (setIn (js "authorization") (.object (signed authorization)) command) =
      signingValue command := by
  have left : without (signed authorization) "signature" = without authorization "signature" := by
    rw [signed, ← setIn_without, without_setIn]
    unfold without
    rw [List.filter_filter]
    simp
  rw [signingValue, signingValue, without_setIn, valueOf_setIn_self, same, spread, spread, left]

/-- The text that is computed for a command before it is signed is that of the signed command. -/
theorem unsignedPayload_eq {command : Fields} (proper : Proper (.object command))
    (accepted : parseDeviceExecutionCommand (.object command) = .ok command) :
    canonicalUnsignedDeviceCommandSigningPayload (unsigned command) =
      canonicalDeviceCommandSigningPayload (.object command) := by
  obtain ⟨authorization, same, signedAccepted⟩ := parse_signed proper accepted
  rw [canonicalUnsignedDeviceCommandSigningPayload, unsigned, same, valueOf_setIn_self,
    setIn_setIn]
  dsimp only [spread]
  rw [setIn_without, ← signed, payload_of_parse signedAccepted, payload_of_parse accepted,
    signingValue_signed same]

/-- The signed text binds the whole command: two commands that were read have the same text exactly
when they agree on every field but the signature, and a command has the text that is computed for it
before it is signed. -/
theorem signature_binds_command :
    (∀ (left right : Json) (leftCommand rightCommand : Fields), Proper left → Proper right →
      parseDeviceExecutionCommand left = .ok leftCommand →
      parseDeviceExecutionCommand right = .ok rightCommand →
      ∃ leftText rightText,
        canonicalDeviceCommandSigningPayload (.object leftCommand) = .ok leftText ∧
        canonicalDeviceCommandSigningPayload (.object rightCommand) = .ok rightText ∧
        (leftText = rightText ↔ AgreeButSignature leftCommand rightCommand)) ∧
    (∀ (input : Json) (command : Fields), Proper input →
      parseDeviceExecutionCommand input = .ok command →
      canonicalUnsignedDeviceCommandSigningPayload (unsigned command) =
        canonicalDeviceCommandSigningPayload (.object command)) := by
  constructor
  · intro left right leftCommand rightCommand leftProper rightProper leftRead rightRead
    obtain ⟨rfl, _⟩ := parse_eq_ok.mp leftRead
    obtain ⟨rfl, _⟩ := parse_eq_ok.mp rightRead
    exact ⟨_, _, payload_of_parse leftRead, payload_of_parse rightRead,
      signingText_iff leftProper rightProper⟩
  · intro input command proper read
    obtain ⟨rfl, _⟩ := parse_eq_ok.mp read
    exact unsignedPayload_eq proper read

/-- The number one. -/
def oneNumber : FiniteNumber where
  negative := false
  mantissa := 2 ^ 52
  exponent := -52
  bounded := by decide
  lowest := by decide
  highest := by decide
  normal := by decide

/-- A literal text. -/
def literal (value : String) : Json := .string (js value)

/-- An authorization with a signature. -/
def sampleAuthorization (signature : JsString) : Fields :=
  [(js "schemaVersion", literal "crewon.device-authorization.v0"),
    (js "scheme", literal "ed25519"), (js "keyId", literal "k"),
    (js "issuedAt", literal "2026-01-01T00:00:00Z"),
    (js "expiresAt", literal "2026-01-01T00:00:01Z"), (js "approvalProof", .null),
    (js "signature", .string signature)]

/-- A command with a signature. -/
def sampleCommand (signature : JsString) : Fields :=
  [(js "schemaVersion", literal "crewon.device-command.v0"),
    (js "protocolVersion", .number oneNumber), (js "deviceId", literal "d"),
    (js "leaseId", literal "l"), (js "leaseEpoch", .number oneNumber),
    (js "expiresAt", literal "2026-01-01T00:00:01Z"), (js "runId", literal "r"),
    (js "stepId", literal "s"), (js "attemptId", literal "a"), (js "executionId", literal "e"),
    (js "workspaceBindingId", literal "w"), (js "capability", literal "workspace.read"),
    (js "actionDigest", .string ⟨(js "sha256:").units ++ List.replicate 64 (unit 'a')⟩),
    (js "arguments", .object [(js "path", literal "p")]), (js "payloadRef", .null),
    (js "limits", .object [(js "timeoutMs", .number oneNumber),
      (js "maxOutputBytes", .number oneNumber), (js "maxArtifactBytes", .number oneNumber)]),
    (js "idempotencyKey", literal "i"),
    (js "traceContext", .object [(js "traceparent", .null), (js "tracestate", .null)]),
    (js "authorization", .object (sampleAuthorization signature))]

/-- The sample command has no key twice. -/
theorem sampleCommand_proper (signature : JsString) :
    Proper (.object (sampleCommand signature)) := by
  have keys : (names (sampleCommand placeholderSignature)).Nodup := by decide
  refine ⟨keys, ?_⟩
  simp only [sampleCommand, sampleAuthorization, ProperFields, Proper, literal, names, List.map_cons,
    List.map_nil, and_true, true_and]
  decide

/-- Another signature than the placeholder. -/
def otherSignature : JsString := ⟨List.replicate 86 (unit 'b')⟩

set_option maxRecDepth 20000 in
/-- The sample command is read with either signature. -/
theorem sampleCommand_read :
    parseDeviceExecutionCommand (.object (sampleCommand placeholderSignature)) =
        .ok (sampleCommand placeholderSignature) ∧
      parseDeviceExecutionCommand (.object (sampleCommand otherSignature)) =
        .ok (sampleCommand otherSignature) := by
  decide_cbv

/-- The sample commands agree but for their signatures. -/
theorem sampleCommand_agree :
    AgreeButSignature (sampleCommand placeholderSignature) (sampleCommand otherSignature) := by
  have first := sampleCommand_proper placeholderSignature
  have second := sampleCommand_proper otherSignature
  have firstSpread := proper_spread (proper_valueOf first "authorization")
  have secondSpread := proper_spread (proper_valueOf second "authorization")
  constructor
  · refine (sameWithout_iff first.1 second.1 _).mp ?_
    exact SameUpToOrder.refl (proper_without first _)
  · refine (sameWithout_iff firstSpread.1 secondSpread.1 _).mp ?_
    exact SameUpToOrder.refl (proper_without firstSpread _)

/-- The two sample commands have the same signed text, which is also that of the unsigned one. -/
theorem signature_binds_command_sample :
    ∃ text, canonicalDeviceCommandSigningPayload
          (.object (sampleCommand placeholderSignature)) = .ok text ∧
        canonicalDeviceCommandSigningPayload (.object (sampleCommand otherSignature)) = .ok text ∧
        canonicalUnsignedDeviceCommandSigningPayload
          (unsigned (sampleCommand placeholderSignature)) = .ok text := by
  obtain ⟨firstRead, secondRead⟩ := sampleCommand_read
  have first := sampleCommand_proper placeholderSignature
  have second := sampleCommand_proper otherSignature
  obtain ⟨text, other, firstText, secondText, same⟩ :=
    signature_binds_command.1 _ _ _ _ first second firstRead secondRead
  have before := signature_binds_command.2 _ _ first firstRead
  exact ⟨text, firstText, (same.mpr sampleCommand_agree) ▸ secondText, before.trans firstText⟩

end Crewon.Verif.DeviceCommandSigning
