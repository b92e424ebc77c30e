import AttestationVerify.BundleProtojson
import AttestationVerify.Wire.Records

namespace AttestationVerify

open Wire Wire.Records

/-!
# Bundles, one a line

`from_json_lines` against `from_json`: the container is the list of its lines' documents.

* `bundleLines` — the lines the loop parses, which are those of a layout by `records_iff`;
* `fromJsonLines_eq_ok`, `fromJsonLines_eq_error` — the two outcomes, in terms of `from_json` on
  each line;
* `fromJsonLines_spec` — these, joining containers, and reading back any layout of printed bundles.
-/

/-- `u8::is_ascii_whitespace`. -/
def isAsciiSpace (b : UInt8) : Bool := b ∈ ([9, 10, 12, 13, 32] : Bytes)

/-- The lines that are not blank, trimmed. -/
def bundleLines (bytes : Bytes) : List Bytes := records 10 isAsciiSpace bytes

variable {X : Externals} {bytes : Bytes}

/-- A line of a container within the size limit is within it too. -/
theorem length_bundleLine_le {line : Bytes} (h : line ∈ bundleLines bytes) :
    line.length ≤ bytes.length :=
  (laidOut_records 10 isAsciiSpace bytes).length_le line h

/-- The loop parses every line as a document of its own. -/
theorem fromJsonLines_eq (hsize : bytes.length ≤ maxInputBytes) :
    BundleSet.fromJsonLines X bytes = (do
      let bundles ← (bundleLines bytes).mapM (Bundle.fromJson X)
      ensure (bundles ≠ []) (.parse (.emptyContainer "BundleSet: no bundle lines in JSONL input"))
      checkCount bundles maxBundlesPerSet .tooManyBundles
      pure ⟨bundles, []⟩) := by
  have hcheck : checkInputSize bytes = .ok () := checkInputSize_eq_ok.mpr hsize
  -- no line is larger than the container
  have hlines (lines : List Bytes) (h : ∀ line ∈ lines, line ∈ bundleLines bytes) :
      (lines.mapM fun line => do
        let value ← parseStrict X line
        let raw ← fromValue rawBundle value
        Bundle.fromRaw raw) = lines.mapM (Bundle.fromJson X) := by
    induction lines with
    | nil => rfl
    | cons line lines ih =>
      obtain ⟨hline, hlines⟩ := List.forall_mem_cons.mp h
      have hline : checkInputSize line = .ok () :=
        checkInputSize_eq_ok.mpr ((length_bundleLine_le hline).trans hsize)
      rw [List.mapM_cons, List.mapM_cons, ih hlines, Bundle.fromJson, hline, ok_bind]
  rw [BundleSet.fromJsonLines, hcheck, ok_bind, ← hlines _ fun _ h => h]
  rfl

/-- A container is its lines, each of them a bundle. -/
theorem fromJsonLines_eq_ok {set : BundleSet} :
    BundleSet.fromJsonLines X bytes = .ok set ↔ bytes.length ≤ maxInputBytes ∧
      List.Forall₂ (fun line bundle => Bundle.fromJson X line = .ok bundle) (bundleLines bytes)
        set.bundles ∧
      set.bundles ≠ [] ∧ set.bundles.length ≤ maxBundlesPerSet ∧ set.entries = [] := by
  by_cases hsize : bytes.length ≤ maxInputBytes
  · obtain ⟨bundles, entries⟩ := set
    simp only [fromJsonLines_eq hsize, bind_eq_ok, mapM_eq_ok, ensure_eq_ok, checkCount_eq_ok,
      pure_eq_ok, Except.ok.injEq, BundleSet.mk.injEq]
    constructor
    · rintro ⟨_, hlines, _, hne, _, hcount, rfl, rfl⟩
      exact ⟨hsize, hlines, hne, hcount, rfl⟩
    · rintro ⟨-, hlines, hne, hcount, rfl⟩
      exact ⟨bundles, hlines, (), hne, (), hcount, rfl, rfl⟩
  · refine iff_of_false ?_ fun h => hsize h.1
    simp only [BundleSet.fromJsonLines, bind_eq_ok, checkInputSize_eq_ok, hsize, false_and,
      exists_const, not_false_eq_true]

/-- `e` is what the first line that is no bundle is refused with. -/
def FirstLineFails (X : Externals) (lines : List Bytes) (e : Error) : Prop :=
  ∃ before line after, lines = before ++ line :: after ∧ Bundle.fromJson X line = .error e ∧
    ∀ l ∈ before, ∃ bundle, Bundle.fromJson X l = .ok bundle

/-- The five ways a container is refused, of which only the second looks into a line. -/
inductive JsonLinesError (X : Externals) (bytes : Bytes) : Error → Prop
  | size (h : maxInputBytes < bytes.length) :
    JsonLinesError X bytes (.resourceLimit (.inputTooLarge bytes.length maxInputBytes))
  | line {e : Error} (hsize : bytes.length ≤ maxInputBytes)
    (h : FirstLineFails X (bundleLines bytes) e) : JsonLinesError X bytes e
  | empty (hsize : bytes.length ≤ maxInputBytes) (h : bundleLines bytes = []) :
    JsonLinesError X bytes
      (.parse (.emptyContainer "BundleSet: no bundle lines in JSONL input"))
  | count (hsize : bytes.length ≤ maxInputBytes)
    (hlines : ∀ l ∈ bundleLines bytes, ∃ bundle, Bundle.fromJson X l = .ok bundle)
    (h : maxBundlesPerSet < (bundleLines bytes).length) :
    JsonLinesError X bytes
      (.resourceLimit (.tooManyBundles (bundleLines bytes).length maxBundlesPerSet))

/-- Reading fails in one of four ways. -/
theorem fromJsonLines_eq_error {e : Error} :
    BundleSet.fromJsonLines X bytes = .error e ↔ JsonLinesError X bytes e := by
  by_cases hsize : bytes.length ≤ maxInputBytes
  · rw [fromJsonLines_eq hsize]
    simp only [bind_eq_error, mapM_eq_error, mapM_eq_ok, ensure_eq_error, ensure_eq_ok, checkCount,
      pure_eq_ok, reduceCtorEq, and_false, exists_const, or_false, not_not]
    constructor
    · rintro (h | ⟨bundles, hlines, ⟨rfl, rfl⟩ | ⟨-, hcount, rfl⟩⟩)
      · exact .line hsize h
      · exact .empty hsize (List.forall₂_nil_right_iff.mp hlines)
      · -- one bundle a line
        rw [← hlines.length_eq] at hcount ⊢
        refine .count hsize (fun l hl => ?_) (not_le.mp hcount)
        obtain ⟨bundle, -, h⟩ := exists_partner hlines hl
        exact ⟨bundle, h⟩
    · intro h
      cases h with
      | size h => exact absurd hsize (not_le.mpr h)
      | line _ h => exact .inl h
      | empty _ h => exact .inr ⟨[], by rw [h]; exact .nil, .inl ⟨rfl, rfl⟩⟩
      | count _ hlines h =>
        obtain ⟨bundles, hbundles⟩ := exists_forall₂ hlines
        have hlength := hbundles.length_eq
        rw [hlength] at h ⊢
        refine .inr ⟨bundles, hbundles, .inr ⟨?_, not_le.mpr h, rfl⟩⟩
        rintro rfl
        simp at h
  · simp only [BundleSet.fromJsonLines, bind_eq_error, checkInputSize, ensure_eq_error, hsize,
      not_false_eq_true, true_and, ensure_eq_ok, false_and, exists_const, or_false]
    constructor
    · rintro rfl
      exact .size (not_le.mp hsize)
    · intro h
      cases h with
      | size => rfl
      | line h => exact absurd h hsize
      | empty h => exact absurd h hsize
      | count h => exact absurd h hsize

/-! ### Joining and writing -/

/-- A container of two parts has the bundles of both, where it is not too large. -/
theorem fromJsonLines_append {a b : Bytes} {set set' : BundleSet}
    (h : BundleSet.fromJsonLines X a = .ok set) (h' : BundleSet.fromJsonLines X b = .ok set')
    (hsize : (a ++ 10 :: b).length ≤ maxInputBytes)
    (hcount : set.bundles.length + set'.bundles.length ≤ maxBundlesPerSet) :
    BundleSet.fromJsonLines X (a ++ 10 :: b) = .ok ⟨set.bundles ++ set'.bundles, []⟩ := by
  obtain ⟨-, hlines, hne, -, -⟩ := fromJsonLines_eq_ok.mp h
  obtain ⟨-, hlines', -, -, -⟩ := fromJsonLines_eq_ok.mp h'
  refine fromJsonLines_eq_ok.mpr ⟨hsize, ?_, List.append_ne_nil_of_left_ne_nil hne _,
    by simpa using hcount, rfl⟩
  rw [bundleLines, records_append]
  exact List.rel_append hlines hlines'

/-- `line` is a printed form of the bundle, none of whose integers is left out. -/
structure Bundle.PrintsLine (X : Externals) (bundle : Bundle) (line : Bytes) : Prop where
  printed : bundle.IsPrinted X line
  noZero : bundle.NoZero

/-- A printed line is read as its bundle. -/
theorem fromJson_of_printsLine {bundle : Bundle} {line : Bytes} (h : bundle.PrintsLine X line) :
    Bundle.fromJson X line = .ok bundle := by
  rw [fromJson_toProto h.printed, fromValue, rawBundle_toProto h.printed.printable h.noZero]
  exact Bundle.fromRaw_toRaw h.printed.printable.mediaType h.printed.printable.count

/-- **Every layout of printed bundles is read back**, in order: any blanks around a line, line
    endings of Windows among them, and any blank lines. -/
theorem fromJsonLines_of_laidOut {bundles : List Bundle} {lines : List Bytes}
    (hlines : List.Forall₂ (Bundle.PrintsLine X) bundles lines)
    (hlayout : LaidOut 10 isAsciiSpace lines bytes) (hne : bundles ≠ [])
    (hcount : bundles.length ≤ maxBundlesPerSet) (hsize : bytes.length ≤ maxInputBytes) :
    BundleSet.fromJsonLines X bytes = .ok ⟨bundles, []⟩ := by
  refine fromJsonLines_eq_ok.mpr ⟨hsize, ?_, hne, hcount, rfl⟩
  rw [bundleLines, records_iff.mpr hlayout]
  exact hlines.flip.imp fun line bundle h => fromJson_of_printsLine h

/-- A bundle whose entry has log index 7. -/
def laterEntrySample : Bundle where
  mediaType := bundleMediaType
  verificationMaterial :=
    { certificate := ⟨[0]⟩
      tlogEntries := [⟨7, [0], "dsse".toList, "0.0.1".toList, 1, none, none, [0]⟩]
      timestampVerificationData := ⟨[]⟩ }
  dsseEnvelope := ⟨[0], "t".toList, ⟨[0], none⟩⟩

/-- The printed form of that bundle. -/
def laterEntryText : Bytes :=
  utf8 ("\x7b\"mediaType\":\"application/vnd.dev.sigstore.bundle.v0.3+json\",".toList ++
    "\"verificationMaterial\":\x7b\"certificate\":\x7b\"rawBytes\":\"AA==\"\x7d,".toList ++
    "\"tlogEntries\":[\x7b\"logIndex\":\"7\",\"logId\":\x7b\"keyId\":\"AA==\"\x7d,".toList ++
    "\"kindVersion\":\x7b\"kind\":\"dsse\",\"version\":\"0.0.1\"\x7d,".toList ++
    "\"integratedTime\":\"1\",\"canonicalizedBody\":\"AA==\"\x7d],".toList ++
    "\"timestampVerificationData\":\x7b\x7d\x7d,".toList ++
    "\"dsseEnvelope\":\x7b\"payload\":\"AA==\",\"payloadType\":\"t\",".toList ++
    "\"signatures\":[\x7b\"sig\":\"AA==\"\x7d]\x7d\x7d".toList)

/-- A reader that knows that text. -/
def laterEntryExternals : Externals :=
  .ofTexts [(laterEntryText, ⟨laterEntrySample.toProto.toTree, true⟩)]

/-- The text twice, on lines that end as on Windows and with a blank line between them. -/
def laterEntryLines : Bytes :=
  (laterEntryText ++ [13]) ++ 10 :: ([32, 13] ++ 10 :: (laterEntryText ++ [13]) ++ 10 :: [])

/-- The length of the text. -/
private theorem length_laterEntryText : laterEntryText.length = 387 := by decide +kernel

/-- The text is one line. -/
private theorem laterEntryText_line : 10 ∉ [] ++ laterEntryText ++ [13] := by decide +kernel

/-- The text has no blanks at its ends. -/
private theorem laterEntryText_trimmed : Trimmed isAsciiSpace laterEntryText := by
  have hends : laterEntryText.head? = some 123 ∧ laterEntryText.getLast? = some 125 := by
    decide +kernel
  unfold Trimmed
  rw [hends.1, hends.2]
  simp [isAsciiSpace]

/-- The text prints the bundle on one line. -/
theorem printsLine_laterEntry :
    laterEntrySample.PrintsLine laterEntryExternals laterEntryText where
  printed :=
    { printable :=
        { mediaType := rfl
          certificate := nofun
          count := by decide
          tlogEntries := by
            intro e he
            obtain rfl := List.mem_singleton.mp he
            exact ⟨nofun, nofun, nofun, nofun, nofun, nofun⟩
          timestamps := nofun
          payload := nofun
          payloadType := nofun
          sig := nofun
          keyid := nofun }
      reading := readJson_ofTexts_head _ _ _
      size := by
        rw [length_laterEntryText]
        decide
      nodes := by decide +kernel }
  noZero := by
    intro e he
    obtain rfl := List.mem_singleton.mp he
    exact ⟨nofun, nofun, nofun⟩

/-- Two such lines are read as two bundles. -/
theorem fromJsonLines_laterEntryLines :
    BundleSet.fromJsonLines laterEntryExternals laterEntryLines =
      .ok ⟨[laterEntrySample, laterEntrySample], []⟩ := by
  have hne : laterEntryText ≠ [] := List.ne_nil_of_length_eq_add_one length_laterEntryText
  have hline : LaidOut 10 isAsciiSpace [laterEntryText] ([] ++ laterEntryText ++ [13]) :=
    .line laterEntryText_line nofun laterEntryText_trimmed hne (by simp [isAsciiSpace])
  have hblank : LaidOut 10 isAsciiSpace [] [32, 13] := .blank (by decide) (by simp [isAsciiSpace])
  have hend : LaidOut 10 isAsciiSpace [] [] := .blank nofun nofun
  refine fromJsonLines_of_laidOut (.cons printsLine_laterEntry (.cons printsLine_laterEntry .nil))
    (.append hline (.append hblank (.append hline hend))) nofun (by decide) ?_
  simp only [laterEntryLines, List.length_append, List.length_cons, List.length_nil,
    length_laterEntryText]
  decide

/-- **The container is its lines.**  It is accepted precisely when every line that is not blank is
    a bundle by `from_json`, and there is at least one and not too many; otherwise it is refused
    for its size, as its first bad line is, as empty, or for the number of lines; and two
    containers joined by a line feed are one with the bundles of both. -/
theorem fromJsonLines_spec (X : Externals) :
    (∀ bytes set, BundleSet.fromJsonLines X bytes = .ok set ↔ bytes.length ≤ maxInputBytes ∧
      List.Forall₂ (fun line bundle => Bundle.fromJson X line = .ok bundle) (bundleLines bytes)
        set.bundles ∧
      set.bundles ≠ [] ∧ set.bundles.length ≤ maxBundlesPerSet ∧ set.entries = []) ∧
    (∀ bytes e, BundleSet.fromJsonLines X bytes = .error e ↔ JsonLinesError X bytes e) ∧
    (∀ bytes lines, bundleLines bytes = lines ↔ LaidOut 10 isAsciiSpace lines bytes) ∧
    ∀ a b set set', BundleSet.fromJsonLines X a = .ok set → BundleSet.fromJsonLines X b = .ok set' →
      (a ++ 10 :: b).length ≤ maxInputBytes →
      set.bundles.length + set'.bundles.length ≤ maxBundlesPerSet →
      BundleSet.fromJsonLines X (a ++ 10 :: b) = .ok ⟨set.bundles ++ set'.bundles, []⟩ :=
  ⟨fun _ _ => fromJsonLines_eq_ok, fun _ _ => fromJsonLines_eq_error, fun _ _ => records_iff,
    fun _ _ _ _ h h' hsize hcount => fromJsonLines_append h h' hsize hcount⟩

end AttestationVerify
