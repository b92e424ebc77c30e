import AttestationVerify.Bundle
import AttestationVerify.Wire.Hole

namespace AttestationVerify

open Wire Wire.Json Wire.Hole

/-!
# Stringified integers

protojson writes 64-bit integers as strings, and a bundle has four of them in every log entry.  They
are read with `str::parse::<u64>`, which is stricter than most readers but not as strict as the
helper's own comment has it: one leading `+` is taken.

* `IntegerField`, `RawBundle.fill` — the four places, and the document with a string in one of them;
* `passes_fromRaw` — the bundle is converted or refused as the string in that place is;
* `readsStrictly_iff` — so the string is read as digits only, unless it is digits behind a `+`.
-/

/-! ### Digits -/

/-- `s` is a run of ASCII digits and denotes `n`. -/
def DigitRun (s : Str) (n : ℕ) : Prop :=
  s ≠ [] ∧ s.all Char.isDigit = true ∧ n = Nat.ofDigitChars 10 s 0

/-- `s` is a run of digits behind a `+`. -/
def IsSigned (s : Str) : Prop := ∃ digits n, s = '+' :: digits ∧ DigitRun digits n ∧ n < 2 ^ 64

/-- A run of digits is read as its number. -/
theorem parseU64_digitRun {s : Str} {n : ℕ} (h : DigitRun s n) (hn : n < 2 ^ 64) :
    parseU64 s = some (UInt64.ofNat n) := by
  obtain ⟨hne, hall, rfl⟩ := h
  have hhead : s.head? ≠ some '+' := by
    intro hplus
    have hdigit := List.all_eq_true.mp hall _ (List.mem_of_mem_head? hplus)
    cases hdigit
  simp only [parseU64, if_neg hhead]
  exact if_pos ⟨hne, hall, hn⟩

/-- One plus before a run of digits changes nothing. -/
theorem parseU64_signed {digits : Str} {n : ℕ} (h : DigitRun digits n) (hn : n < 2 ^ 64) :
    parseU64 ('+' :: digits) = some (UInt64.ofNat n) := by
  obtain ⟨hne, hall, rfl⟩ := h
  simp only [parseU64, List.head?_cons, if_pos, List.tail_cons]
  exact if_pos ⟨hne, hall, hn⟩

/-- Nothing else is read. -/
theorem parseU64_none {s : Str} (h : ¬ ∃ n < 2 ^ 64, DigitRun s n) (hsigned : ¬ IsSigned s) :
    parseU64 s = none := by
  rw [Option.eq_none_iff_forall_ne_some]
  intro n hn
  obtain ⟨digits, hs, hne, hall, hvalue⟩ := parseU64_eq_some hn
  have hdigits : DigitRun digits n.toNat := ⟨hne, hall, hvalue⟩
  rcases hs with rfl | rfl
  · exact h ⟨n.toNat, n.toNat_lt, hdigits⟩
  · exact hsigned ⟨digits, n.toNat, rfl, hdigits, n.toNat_lt⟩

/-! ### The four places -/

/-- The four stringified integers of an entry. -/
inductive IntegerField
  | logIndex
  | integratedTime
  | proofLogIndex
  | proofTreeSize

/-- The field as an error names it. -/
def IntegerField.path : IntegerField → String
  | .logIndex => "tlogEntries[].logIndex"
  | .integratedTime => "tlogEntries[].integratedTime"
  | .proofLogIndex => "inclusionProof.logIndex"
  | .proofTreeSize => "inclusionProof.treeSize"

/-- The entry with `s` in that place. -/
def RawTlogEntry.fill (field : IntegerField) (s : Str) (raw : RawTlogEntry) : RawTlogEntry :=
  match field with
  | .logIndex => { raw with logIndex := s }
  | .integratedTime => { raw with integratedTime := s }
  | .proofLogIndex =>
    { raw with inclusionProof := raw.inclusionProof.map fun p => { p with logIndex := s } }
  | .proofTreeSize =>
    { raw with inclusionProof := raw.inclusionProof.map fun p => { p with treeSize := s } }

/-- The entry has the place: the proof's are there when the proof is. -/
def RawTlogEntry.Has (field : IntegerField) (raw : RawTlogEntry) : Prop :=
  match field with
  | .logIndex | .integratedTime => True
  | .proofLogIndex | .proofTreeSize => raw.inclusionProof ≠ none

/-- What was decoded there. -/
def TlogEntry.get (field : IntegerField) (entry : TlogEntry) : Option UInt64 :=
  match field with
  | .logIndex => some entry.logIndex
  | .integratedTime => some entry.integratedTime
  | .proofLogIndex => entry.inclusionProof.map InclusionProof.logIndex
  | .proofTreeSize => entry.inclusionProof.map InclusionProof.treeSize

/-- The document with `s` in that place of its entry `i`. -/
def RawBundle.fill (i : ℕ) (field : IntegerField) (s : Str) (raw : RawBundle) : RawBundle :=
  { raw with verificationMaterial := { raw.verificationMaterial with
      tlogEntries := raw.verificationMaterial.tlogEntries.modify i (RawTlogEntry.fill field s) } }

/-- The `i`-th entry of the document has the field. -/
def RawBundle.Has (i : ℕ) (field : IntegerField) (raw : RawBundle) : Prop :=
  ∃ entry, raw.verificationMaterial.tlogEntries[i]? = some entry ∧ entry.Has field

/-- The field's value in the parsed bundle. -/
def Bundle.get (i : ℕ) (field : IntegerField) (bundle : Bundle) : Option UInt64 :=
  bundle.verificationMaterial.tlogEntries[i]?.bind (TlogEntry.get field)

/-! ### The conversion around a place -/

/-- The proof's index is checked by `strict_stringified_u64` alone. -/
theorem InclusionProof.passes_logIndex (raw : RawInclusionProof) :
    Passes (strictStringifiedU64 "inclusionProof.logIndex") (fun p => some p.logIndex)
      fun s => InclusionProof.fromRaw { raw with logIndex := s } := by
  simp only [InclusionProof.fromRaw]
  refine passes_self.bind ?_
  iterate 3 refine Carries.after _ fun _ => ?_
  exact carries_pure fun _ => rfl

/-- The proof's tree size is checked by it alone. -/
theorem InclusionProof.passes_treeSize (raw : RawInclusionProof) :
    Passes (strictStringifiedU64 "inclusionProof.treeSize") (fun p => some p.treeSize)
      fun s => InclusionProof.fromRaw { raw with treeSize := s } := by
  simp only [InclusionProof.fromRaw]
  iterate 2 refine Passes.after _ fun _ => ?_
  refine passes_self.bind ?_
  refine Carries.after _ fun _ => ?_
  exact carries_pure fun _ => rfl

/-- Each of the entry's fields is checked by it alone. -/
theorem TlogEntry.passes {raw : RawTlogEntry} {field : IntegerField} (h : raw.Has field) :
    Passes (strictStringifiedU64 field.path) (TlogEntry.get field)
      fun s => TlogEntry.fromRaw (raw.fill field s) := by
  cases field with
  | logIndex =>
    simp only [TlogEntry.fromRaw, RawTlogEntry.fill]
    refine passes_self.bind ?_
    iterate 5 refine Carries.after _ fun _ => ?_
    exact carries_pure fun _ => rfl
  | integratedTime =>
    simp only [TlogEntry.fromRaw, RawTlogEntry.fill]
    iterate 2 refine Passes.after _ fun _ => ?_
    refine passes_self.bind ?_
    iterate 3 refine Carries.after _ fun _ => ?_
    exact carries_pure fun _ => rfl
  | proofLogIndex =>
    obtain ⟨proof, hproof⟩ := Option.ne_none_iff_exists'.mp h
    simp only [TlogEntry.fromRaw, RawTlogEntry.fill, hproof, Option.map_some]
    iterate 4 refine Passes.after _ fun _ => ?_
    refine (InclusionProof.passes_logIndex proof).optionMapM.bind ?_
    refine Carries.after _ fun _ => ?_
    exact carries_pure fun o => by cases o <;> rfl
  | proofTreeSize =>
    obtain ⟨proof, hproof⟩ := Option.ne_none_iff_exists'.mp h
    simp only [TlogEntry.fromRaw, RawTlogEntry.fill, hproof, Option.map_some]
    iterate 4 refine Passes.after _ fun _ => ?_
    refine (InclusionProof.passes_treeSize proof).optionMapM.bind ?_
    refine Carries.after _ fun _ => ?_
    exact carries_pure fun o => by cases o <;> rfl

/-- The number of entries stays what it is. -/
theorem checkCount_modify {α : Type} (items : List α) (i : ℕ) (f : α → α) (limit : ℕ)
    (makeErr : ℕ → ℕ → ResourceLimitError) :
    checkCount (items.modify i f) limit makeErr = checkCount items limit makeErr := by
  unfold checkCount
  rw [List.length_modify]

/-- **A bundle goes as its integer does.** -/
theorem Bundle.passes {raw : RawBundle} {i : ℕ} {field : IntegerField} (h : raw.Has i field) :
    Passes (strictStringifiedU64 field.path) (Bundle.get i field)
      fun s => Bundle.fromRaw (raw.fill i field s) := by
  obtain ⟨entry, hentry, hfield⟩ := h
  have hmaterial : Passes (strictStringifiedU64 field.path)
      (fun m : VerificationMaterial => m.tlogEntries[i]?.bind (TlogEntry.get field))
      fun s => VerificationMaterial.fromRaw (raw.fill i field s).verificationMaterial := by
    simp only [VerificationMaterial.fromRaw, RawBundle.fill, checkCount_modify]
    iterate 2 refine Passes.after _ fun _ => ?_
    refine ((TlogEntry.passes hfield).mapM_modify hentry).bind ?_
    refine Carries.after _ fun _ => ?_
    exact carries_pure fun _ => rfl
  show Passes _ _ fun s => do
    ensure (raw.mediaType = bundleMediaType) (.unsupported (.mediaType raw.mediaType))
    let verificationMaterial ←
      VerificationMaterial.fromRaw (raw.fill i field s).verificationMaterial
    let dsseEnvelope ← DsseEnvelope.fromRaw raw.dsseEnvelope
    pure (Bundle.mk raw.mediaType verificationMaterial dsseEnvelope)
  refine Passes.after _ fun _ => ?_
  refine hmaterial.bind ?_
  refine Carries.after _ fun _ => ?_
  exact carries_pure fun _ => rfl

/-! ### Documents -/

/-- The text is a bundle document within the limits, with `s` in the place, that would convert with
    some other string there. -/
structure Placed (X : Externals) (bytes : Bytes) (raw : RawBundle) (i : ℕ) (field : IntegerField)
    (s : Str) : Prop where
  size : bytes.length ≤ maxInputBytes
  reading : ∃ value, parseStrict X bytes = .ok value ∧ rawBundle value = some (raw.fill i field s)
  has : raw.Has i field
  valid : ∃ s₀ bundle, Bundle.fromRaw (raw.fill i field s₀) = .ok bundle

/-- The string is read as digits and nothing else: a run that fits 64 bits is its value, and any
    other string is refused for what it is. -/
def ReadsStrictly (X : Externals) (bytes : Bytes) (i : ℕ) (field : IntegerField) (s : Str) : Prop :=
  (∀ n < 2 ^ 64, DigitRun s n →
    ∃ bundle, Bundle.fromJson X bytes = .ok bundle ∧ bundle.get i field = some (UInt64.ofNat n)) ∧
  ((¬ ∃ n < 2 ^ 64, DigitRun s n) →
    Bundle.fromJson X bytes = .error (.parse (.notAnInteger field.path s)))

section Document

variable {X : Externals} {bytes : Bytes} {raw : RawBundle} {i : ℕ} {field : IntegerField} {s : Str}

/-- A document with `s` in the field's place is parsed as the raw bundle with `s` there. -/
theorem fromJson_placed (h : Placed X bytes raw i field s) :
    Bundle.fromJson X bytes = Bundle.fromRaw (raw.fill i field s) := by
  obtain ⟨value, hparse, hraw⟩ := h.reading
  have hsize : checkInputSize bytes = .ok () := checkInputSize_eq_ok.mpr h.size
  rw [Bundle.fromJson, hsize, ok_bind, hparse, ok_bind, fromValue, hraw,
    okOr_some, ok_bind]

/-- What is parsed in the place is what the document is converted with. -/
theorem fromJson_of_parseU64 (h : Placed X bytes raw i field s) {n : UInt64}
    (hn : parseU64 s = some n) :
    ∃ bundle, Bundle.fromJson X bytes = .ok bundle ∧ bundle.get i field = some n := by
  obtain ⟨s₀, bundle₀, hvalid⟩ := h.valid
  rw [fromJson_placed h]
  exact (Bundle.passes h.has s₀ bundle₀ hvalid s).1 n (okOr_eq_ok.mpr hn)

/-- A text that `str::parse` refuses is reported under the field's path. -/
theorem fromJson_of_parseU64_none (h : Placed X bytes raw i field s) (hnone : parseU64 s = none) :
    Bundle.fromJson X bytes = .error (.parse (.notAnInteger field.path s)) := by
  obtain ⟨s₀, bundle₀, hvalid⟩ := h.valid
  rw [fromJson_placed h]
  exact (Bundle.passes h.has s₀ bundle₀ hvalid s).2 _ (okOr_eq_error.mpr ⟨hnone, rfl⟩)

/-- **Integers are read strictly, a leading `+` aside.** -/
theorem readsStrictly_iff (h : Placed X bytes raw i field s) :
    ReadsStrictly X bytes i field s ↔ ¬ IsSigned s := by
  constructor
  · rintro ⟨-, hrefused⟩ ⟨digits, n, rfl, hdigits, hn⟩
    -- the sign is no digit, and yet the document is accepted
    have hnot : ¬ ∃ m < 2 ^ 64, DigitRun ('+' :: digits) m := by
      rintro ⟨m, -, -, hall, -⟩
      cases List.all_eq_true.mp hall '+' List.mem_cons_self
    obtain ⟨bundle, hok, -⟩ := fromJson_of_parseU64 h (parseU64_signed hdigits hn)
    rw [hrefused hnot] at hok
    cases hok
  · intro hsigned
    constructor
    · intro n hn hdigits
      exact fromJson_of_parseU64 h (parseU64_digitRun hdigits hn)
    · intro hnot
      exact fromJson_of_parseU64_none h (parseU64_none hnot hsigned)

end Document

/-! ### A signed log index -/

/-- A smallest bundle with one log entry, whose index is 5 behind a `+`. -/
def signedSample : Value := .object
  [("mediaType".toList, .string bundleMediaType),
   ("verificationMaterial".toList, .object
     [("certificate".toList, .object [("rawBytes".toList, .string "AA==".toList)]),
      ("tlogEntries".toList, .array [.object
        [("logIndex".toList, .string "+5".toList),
         ("logId".toList, .object [("keyId".toList, .string "AA==".toList)]),
         ("kindVersion".toList, .object
           [("kind".toList, .string "dsse".toList), ("version".toList, .string "0.0.1".toList)]),
         ("integratedTime".toList, .string "1".toList),
         ("canonicalizedBody".toList, .string "AA==".toList)]])]),
   ("dsseEnvelope".toList, .object
     [("payload".toList, .string "AA==".toList), ("payloadType".toList, .string "t".toList),
      ("signatures".toList, .array [.object [("sig".toList, .string "AA==".toList)]])])]

/-- The text of the sample. -/
def signedText : Bytes :=
  utf8 ("\x7b\"mediaType\":\"application/vnd.dev.sigstore.bundle.v0.3+json\",".toList ++
    "\"verificationMaterial\":\x7b\"certificate\":\x7b\"rawBytes\":\"AA==\"\x7d,".toList ++
    "\"tlogEntries\":[\x7b\"logIndex\":\"+5\",\"logId\":\x7b\"keyId\":\"AA==\"\x7d,".toList ++
    "\"kindVersion\":\x7b\"kind\":\"dsse\",\"version\":\"0.0.1\"\x7d,".toList ++
    "\"integratedTime\":\"1\",\"canonicalizedBody\":\"AA==\"\x7d]\x7d,".toList ++
    "\"dsseEnvelope\":\x7b\"payload\":\"AA==\",\"payloadType\":\"t\",".toList ++
    "\"signatures\":[\x7b\"sig\":\"AA==\"\x7d]\x7d\x7d".toList)

/-- Libraries that read the sample's text. -/
def signedExternals : Externals := .ofTexts [(signedText, ⟨signedSample.toTree, true⟩)]

/-- The document, whatever its log index. -/
def rawSample : RawBundle where
  mediaType := bundleMediaType
  verificationMaterial :=
    { certificate := ⟨"AA==".toList⟩
      tlogEntries := [⟨[], ⟨"AA==".toList⟩, ⟨"dsse".toList, "0.0.1".toList⟩, "1".toList, none, none,
        "AA==".toList⟩]
      timestampVerificationData := ⟨[]⟩ }
  dsseEnvelope := ⟨"AA==".toList, "t".toList, [⟨"AA==".toList, none⟩]⟩

set_option maxRecDepth 4000 in
/-- The sample is within the size limit. -/
private theorem length_signedText : signedText.length ≤ maxInputBytes := by
  have hbound : 3200 ≤ maxInputBytes := by decide
  refine le_trans ?_ hbound
  rw [signedText]
  iterate 6 refine length_utf8_append_le ?_ (length_utf8_literal_le (n := 400) _ (by decide))
  exact length_utf8_literal_le (n := 800) _ (by decide)

/-- The sample has `+5` for its log index. -/
theorem placed_signedSample :
    Placed signedExternals signedText rawSample 0 .logIndex "+5".toList where
  size := length_signedText
  reading := by
    refine ⟨signedSample, parseStrict_eq_ok.mpr ⟨readJson_ofTexts_head _ _ _, ?_, ?_⟩, rfl⟩
    · simp [signedSample]
    · decide +kernel
  has := ⟨_, rfl, trivial⟩
  valid := ⟨"5".toList, _, rfl⟩

/-- A plus and one digit. -/
theorem isSigned_sample : IsSigned "+5".toList :=
  ⟨"5".toList, 5, rfl, ⟨by decide, by decide, by decide⟩, by decide⟩

/-- The document is accepted with log index 5, though its string is not one of digits. -/
theorem not_readsStrictly_sample :
    Placed signedExternals signedText rawSample 0 .logIndex "+5".toList ∧
      ¬ ReadsStrictly signedExternals signedText 0 .logIndex "+5".toList := by
  refine ⟨placed_signedSample, ?_⟩
  rintro ⟨-, hrefused⟩
  have hnot : ¬ ∃ m < 2 ^ 64, DigitRun "+5".toList m := by
    rintro ⟨m, -, -, hall, -⟩
    cases hall
  obtain ⟨digits, n, hs, hdigits, hn⟩ := isSigned_sample
  have hparse := parseU64_signed hdigits hn
  rw [← hs] at hparse
  obtain ⟨bundle, hok, -⟩ := fromJson_of_parseU64 placed_signedSample hparse
  rw [hrefused hnot] at hok
  cases hok

/-- The sample is one of the texts at which the two readings part. -/
theorem readsStrictly_sample_iff :
    ReadsStrictly signedExternals signedText 0 .logIndex "+5".toList ↔ ¬ IsSigned "+5".toList :=
  readsStrictly_iff placed_signedSample

end AttestationVerify
