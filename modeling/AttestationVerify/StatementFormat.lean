import AttestationVerify.Statement
import AttestationVerify.Wire.Proto3

namespace AttestationVerify

open Wire Wire.Json Wire.Serde

/-!
# The statement format

Which payloads are statements, what is read off them, and which of their subjects a digest finds.

* `fromDigestHex_eq_ok` — the texts of a digest, in either case;
* `StatementRead` — what `from_raw` takes over from the raw mirror, `malformedReason` what it
  refuses a subject for;
* `RawStatement.toValue` — a statement written as JSON, read back by `rawStatement_toValue`;
* `fromPayload_spec` — acceptance, the error of the first malformed subject, and what
  `find_subject` finds, all said of the document.
-/

/-! ### Digests -/

/-- The accepted texts are the digest in hex, up to the case of its letters. -/
theorem fromDigestHex_eq_ok {s : Str} {subject : Subject} :
    Subject.fromDigestHex s = .ok subject ↔ eqIgnoreAsciiCase s subject.toHex := by
  -- an encoding has no letters to lower
  have hlower : subject.toHex.map Char.toLower = subject.toHex :=
    Hex.decode_eq_some.mp (Hex.decode_encode subject.digest.bytes)
  rw [eqIgnoreAsciiCase, hlower, Subject.toHex, ← Hex.decodeTo_eq_some, Subject.fromDigestHex]
  cases hs : Hex.decodeTo 32 s with
  | none => simp [Except.map]
  | some o =>
    obtain ⟨digest⟩ := subject
    simp [Except.map]

/-! ### Subjects -/

/-- The text a subject has under `sha256`. -/
def RawStatementSubject.sha256 (raw : RawStatementSubject) : Option Str :=
  raw.digest.lookup "sha256".toList

/-- The digest map is not empty, and what it has under `sha256` is a digest. -/
structure SubjectRead (raw : RawStatementSubject) (s : StatementSubject) : Prop where
  digest_ne : raw.digest ≠ []
  name : s.name = raw.name
  sha256 : Option.Rel (fun hex subject => eqIgnoreAsciiCase hex subject.toHex) raw.sha256 s.sha256

/-- What a subject is refused for. -/
def malformedReason (raw : RawStatementSubject) : Option String :=
  if raw.digest = [] then some "has an empty digest map"
  else
    match raw.sha256 with
    | some hex =>
      if (Hex.decodeTo 32 hex).isSome then none else some "has a malformed sha256 digest"
    | none => none

/-- `from_raw` reads a subject just as `SubjectRead` says. -/
theorem fromRaw_eq_ok {index : ℕ} {raw : RawStatementSubject} {s : StatementSubject} :
    StatementSubject.fromRaw index raw = .ok s ↔ SubjectRead raw s := by
  obtain ⟨name, sha256⟩ := s
  unfold StatementSubject.fromRaw
  split
  · rename_i hempty
    exact iff_of_false (by simp) fun h => h.digest_ne hempty
  · rename_i hne
    constructor
    · intro h
      split at h
      · rename_i hex hlookup
        split at h
        · rename_i subject hsubject
          obtain ⟨rfl, rfl⟩ := StatementSubject.mk.inj (Except.ok.inj h)
          refine ⟨hne, rfl, ?_⟩
          rw [RawStatementSubject.sha256, hlookup]
          exact .some (fromDigestHex_eq_ok.mp hsubject)
        · cases h
      · rename_i hlookup
        obtain ⟨rfl, rfl⟩ := StatementSubject.mk.inj (Except.ok.inj h)
        refine ⟨hne, rfl, ?_⟩
        rw [RawStatementSubject.sha256, hlookup]
        exact .none
    · rintro ⟨-, hname, hsha256⟩
      obtain rfl : name = raw.name := hname
      rw [RawStatementSubject.sha256] at hsha256
      cases hlookup : raw.digest.lookup "sha256".toList with
      | none =>
        rw [hlookup] at hsha256
        obtain rfl : sha256 = none := by cases hsha256; rfl
        rfl
      | some hex =>
        rw [hlookup] at hsha256
        cases hsha256 with
        | some hhex => simp only [fromDigestHex_eq_ok.mpr hhex]

/-- A subject is refused for the one reason there is, under its index. -/
theorem fromRaw_eq_error {index : ℕ} {raw : RawStatementSubject} {e : Error} :
    StatementSubject.fromRaw index raw = .error e ↔
      ∃ what, malformedReason raw = some what ∧ e = malformedSubject index what := by
  unfold StatementSubject.fromRaw malformedReason RawStatementSubject.sha256
  split
  · simp [eq_comm]
  · cases raw.digest.lookup "sha256".toList with
    | none => simp
    | some hex =>
      cases hhex : Hex.decodeTo 32 hex with
      | none => simp [Subject.fromDigestHex, hhex, Except.map, eq_comm]
      | some o => simp [Subject.fromDigestHex, hhex, Except.map]

/-- A subject is read exactly if no reason is found against it. -/
theorem exists_subjectRead_iff {raw : RawStatementSubject} :
    (∃ s, SubjectRead raw s) ↔ malformedReason raw = none := by
  constructor
  · rintro ⟨s, h⟩
    rw [Option.eq_none_iff_forall_ne_some]
    intro what hwhat
    have herror : StatementSubject.fromRaw 0 raw = .error (malformedSubject 0 what) :=
      fromRaw_eq_error.mpr ⟨what, hwhat, rfl⟩
    rw [fromRaw_eq_ok.mpr h] at herror
    cases herror
  · intro h
    cases hraw : StatementSubject.fromRaw 0 raw with
    | ok s => exact ⟨s, fromRaw_eq_ok.mp hraw⟩
    | error e =>
      obtain ⟨what, hwhat, -⟩ := fromRaw_eq_error.mp hraw
      rw [h] at hwhat
      cases hwhat

/-! ### Statements -/

/-- A statement of the supported type and number of subjects, each read in its place. -/
structure StatementRead (raw : RawStatement) (statement : Statement) : Prop where
  type_ : raw.type_ = statementType
  count : raw.subject.length ≤ maxStatementSubjects
  subjects : List.Forall₂ SubjectRead raw.subject statement.subjects
  predicateType : statement.predicateType = raw.predicateType
  predicate : statement.predicate = raw.predicate

/-- `from_raw` reads a statement just as `StatementRead` says. -/
theorem statementFromRaw_eq_ok {raw : RawStatement} {statement : Statement} :
    Statement.fromRaw raw = .ok statement ↔ StatementRead raw statement := by
  have hsubjects (subjects : List StatementSubject) :
      raw.subject.zipIdx.mapM (fun s => StatementSubject.fromRaw s.2 s.1) = .ok subjects ↔
        List.Forall₂ SubjectRead raw.subject subjects := by
    simp only [mapM_eq_ok, fromRaw_eq_ok]
    -- the indices are not read
    have hmap : raw.subject = raw.subject.zipIdx.map Prod.fst := by simp
    conv_rhs => rw [hmap]
    rw [List.forall₂_map_left_iff]
  obtain ⟨subjects, predicateType, predicate⟩ := statement
  simp only [Statement.fromRaw, bind_eq_ok, ensure_eq_ok, checkCount_eq_ok, hsubjects, pure_eq_ok,
    Except.ok.injEq, Statement.mk.injEq]
  constructor
  · rintro ⟨_, htype, _, hcount, _, hread, rfl, rfl, rfl⟩
    exact ⟨htype, hcount, hread, rfl, rfl⟩
  · rintro ⟨htype, hcount, hread, rfl, rfl⟩
    exact ⟨(), htype, (), hcount, _, hread, rfl, rfl, rfl⟩

/-- The first malformed subject is the one reported. -/
theorem statementFromRaw_eq_error {raw : RawStatement} (htype : raw.type_ = statementType)
    (hcount : raw.subject.length ≤ maxStatementSubjects) {e : Error} :
    Statement.fromRaw raw = .error e ↔
      ∃ before subject after what, raw.subject = before ++ subject :: after ∧
        malformedReason subject = some what ∧ (∀ s ∈ before, malformedReason s = none) ∧
        e = malformedSubject before.length what := by
  have hcheck : checkCount raw.subject maxStatementSubjects .tooManySubjects = .ok () :=
    checkCount_eq_ok.mpr hcount
  rw [Statement.fromRaw, ensure_of htype, ok_bind, hcheck, ok_bind]
  simp only [bind_eq_error, pure_eq_ok, reduceCtorEq, and_false, exists_const, or_false,
    mapM_eq_error, fromRaw_eq_ok, fromRaw_eq_error]
  constructor
  · rintro ⟨before, ⟨subject, index⟩, after, hsplit, ⟨what, hwhat, rfl⟩, hbefore⟩
    -- the index of an element is the number of elements before it
    obtain ⟨before', rest, hraw, rfl, hrest⟩ := List.zipIdx_eq_append_iff.mp hsplit
    obtain ⟨subject', after', rfl, heq, -⟩ := List.zipIdx_eq_cons_iff.mp hrest.symm
    obtain ⟨rfl, rfl⟩ := Prod.mk.inj heq
    refine ⟨before', subject, after', what, hraw, hwhat, ?_, by simp⟩
    intro s hs
    obtain ⟨i, hi, rfl⟩ := List.getElem_of_mem hs
    refine exists_subjectRead_iff.mp (hbefore (before'[i], 0 + i) ?_)
    exact List.mk_mem_zipIdx_iff_getElem?.mpr (by simp [hi])
  · rintro ⟨before, subject, after, what, hraw, hwhat, hbefore, rfl⟩
    refine ⟨before.zipIdx, (subject, before.length), after.zipIdx (before.length + 1), ?_,
      ⟨what, hwhat, rfl⟩, ?_⟩
    · rw [hraw, List.zipIdx_append, List.zipIdx_cons, Nat.zero_add]
    · intro s hs
      exact exists_subjectRead_iff.mpr (hbefore s.1 (List.fst_mem_of_mem_zipIdx hs))

/-- The document's subject names the digest, in either case. -/
def RawStatementSubject.Names (subject : Subject) (raw : RawStatementSubject) : Prop :=
  ∃ hex ∈ raw.sha256, eqIgnoreAsciiCase hex subject.toHex

/-- The document names a digest exactly if the parsed subject has it. -/
theorem SubjectRead.names_iff {raw : RawStatementSubject} {s : StatementSubject}
    (h : SubjectRead raw s) (subject : Subject) :
    raw.Names subject ↔ s.sha256 = some subject := by
  have hsha256 := h.sha256
  unfold RawStatementSubject.Names
  generalize raw.sha256 = found at hsha256
  generalize s.sha256 = read at hsha256
  cases hsha256 with
  | none => simp
  | @some hex digest hhex =>
    constructor
    · rintro ⟨_, ⟨⟩, hnames⟩
      -- one text is of one digest
      rw [Except.ok.inj ((fromDigestHex_eq_ok.mpr hhex).symm.trans
        (fromDigestHex_eq_ok.mpr hnames))]
    · rintro ⟨⟩
      exact ⟨hex, rfl, hhex⟩

/-- `find_subject` finds the first subject of the document that names the digest. -/
theorem findSubject_eq_some {raw : RawStatement} {statement : Statement}
    (h : StatementRead raw statement) {subject : Subject} {matched : StatementSubject} :
    statement.findSubject subject = some matched ↔
      ∃ before first after, raw.subject = before ++ first :: after ∧ first.Names subject ∧
        (∀ s ∈ before, ¬ s.Names subject) ∧ matched = ⟨first.name, some subject⟩ := by
  obtain ⟨subjects, predicateType, predicate⟩ := statement
  have hread := h.subjects
  simp only [Statement.findSubject] at hread ⊢
  generalize raw.subject = raws at hread ⊢
  clear h
  induction hread with
  | nil => simp
  | @cons r s raws subjects hrs _ ih =>
    have hfirst := @first_cons_iff RawStatementSubject
      (fun r => r.Names subject ∧ matched = ⟨r.name, some subject⟩) (fun r => ¬ r.Names subject) r
      raws
    have hreorder (l : List RawStatementSubject) :
        (∃ before first after, l = before ++ first :: after ∧ first.Names subject ∧
          (∀ s ∈ before, ¬ s.Names subject) ∧ matched = ⟨first.name, some subject⟩) ↔
        ∃ before first after, l = before ++ first :: after ∧
          (first.Names subject ∧ matched = ⟨first.name, some subject⟩) ∧
          ∀ s ∈ before, ¬ s.Names subject := by
      constructor
      · rintro ⟨before, first, after, heq, hnames, hbefore, hmatched⟩
        exact ⟨before, first, after, heq, ⟨hnames, hmatched⟩, hbefore⟩
      · rintro ⟨before, first, after, heq, ⟨hnames, hmatched⟩, hbefore⟩
        exact ⟨before, first, after, heq, hnames, hbefore, hmatched⟩
    rw [hreorder, hfirst, ← hreorder, hrs.names_iff]
    refine Iff.trans ?_ (or_congr_right (and_congr_right' ih))
    by_cases hs : s.sha256 = some subject
    · have hname := hrs.name
      obtain ⟨name, sha256⟩ := s
      obtain rfl : sha256 = some subject := hs
      obtain rfl : name = r.name := hname
      simp [eq_comm]
    · simp [hs]

/-! ### Writing a statement -/

/-- A subject as a JSON object. -/
def RawStatementSubject.toValue (raw : RawStatementSubject) : Value :=
  .object (fields [("name", raw.name.map .string),
    ("digest", some (.object (raw.digest.map fun d => (d.1, .string d.2))))])

/-- A statement as a JSON object. -/
def RawStatement.toValue (raw : RawStatement) : Value :=
  .object (fields [("_type", some (.string raw.type_)),
    ("subject", some (.array (raw.subject.map RawStatementSubject.toValue))),
    ("predicateType", some (.string raw.predicateType)), ("predicate", some raw.predicate)])

/-- A written subject is deserialised to itself. -/
theorem rawStatementSubject_toValue (raw : RawStatementSubject) :
    rawStatementSubject raw.toValue = some raw := by
  have hdigest : map string (.object (raw.digest.map fun d => (d.1, .string d.2))) =
      some raw.digest := mapM_map_some fun d _ => rfl
  rw [rawStatementSubject, RawStatementSubject.toValue, struct_object,
    Proto3.optional_step (d := string) .string id raw.name nofun (fun _ _ => rfl) (by simp),
    defaulted_step (by simp) hdigest, Option.map_id]
  rfl

/-- A written statement is deserialised to itself. -/
theorem rawStatement_toValue (raw : RawStatement) : rawStatement raw.toValue = some raw := by
  have hsubjects : seq rawStatementSubject
      (.array (raw.subject.map RawStatementSubject.toValue)) = some raw.subject := by
    simpa using seq_map (f := id) fun r (_ : r ∈ raw.subject) => rawStatementSubject_toValue r
  rw [rawStatement, RawStatement.toValue, struct_object, string_step (s := raw.type_) (by simp),
    defaulted_step (by simp) hsubjects, string_step (s := raw.predicateType) (by simp),
    defaulted_step (d := value) (v := raw.predicate) (by simp) rfl]
  rfl

/-- The digest maps have each key once, and the predicate is strict JSON. -/
structure RawStatement.Writable (raw : RawStatement) : Prop where
  digests : ∀ s ∈ raw.subject, (s.digest.map Prod.fst).Nodup
  predicate : raw.predicate.Strict

/-- A written statement repeats no key. -/
theorem RawStatement.strict_toValue {raw : RawStatement} (h : raw.Writable) :
    raw.toValue.Strict := by
  have hsubject : ∀ s ∈ raw.subject, s.toValue.Strict := by
    intro s hs
    have hdigest : (Value.object (s.digest.map fun d => (d.1, .string d.2))).Strict := by
      rw [strict_object, List.map_map]
      exact ⟨h.digests s hs, List.forall_mem_map.mpr fun d _ => strict_string d.2⟩
    have hname : StrictField (s.name.map Value.string) :=
      strictField_map fun n _ => strict_string n
    exact strict_fields (by simp) (by simp [hdigest, hname])
  have hsubjects : (Value.array (raw.subject.map RawStatementSubject.toValue)).Strict := by
    rw [strict_array]
    exact List.forall_mem_map.mpr hsubject
  exact strict_fields (by simp) (by simp [hsubjects, h.predicate])

/-! ### Payloads -/

section Payload

variable {X : Externals} {payload : Bytes}

/-- The payload is within the limits and is a document that reads as `raw`. -/
structure PayloadReads (X : Externals) (payload : Bytes) (raw : RawStatement) : Prop where
  size : payload.length ≤ maxInputBytes
  reads : ∃ value, parseStrict X payload = .ok value ∧ rawStatement value = some raw

/-- Once the payload's JSON is read, what is left is `from_raw`. -/
theorem fromPayload_of_reads {raw : RawStatement} (h : PayloadReads X payload raw) :
    Statement.fromPayload X payload = Statement.fromRaw raw := by
  obtain ⟨value, hparse, hraw⟩ := h.reads
  have hsize : checkInputSize payload = .ok () := checkInputSize_eq_ok.mpr h.size
  rw [Statement.fromPayload, hsize, ok_bind, hparse, ok_bind, fromValue_eq_ok.mpr hraw, ok_bind]

/-- The accepted payloads are those that spell a readable statement. -/
theorem fromPayload_eq_ok {statement : Statement} :
    Statement.fromPayload X payload = .ok statement ↔
      ∃ raw, PayloadReads X payload raw ∧ StatementRead raw statement := by
  simp only [Statement.fromPayload, bind_eq_ok, checkInputSize_eq_ok, fromValue_eq_ok,
    statementFromRaw_eq_ok]
  constructor
  · rintro ⟨_, hsize, value, hparse, raw, hraw, hread⟩
    exact ⟨raw, ⟨hsize, value, hparse, hraw⟩, hread⟩
  · rintro ⟨raw, ⟨hsize, value, hparse, hraw⟩, hread⟩
    exact ⟨(), hsize, value, hparse, raw, hraw, hread⟩

/-- A written statement is read as it was written. -/
theorem payloadReads_toValue {raw : RawStatement} (h : raw.Writable)
    (hread : X.readJson payload = ⟨raw.toValue.toTree, true⟩)
    (hsize : payload.length ≤ maxInputBytes) (hnodes : raw.toValue.toTree.nodes ≤ maxJsonNodes) :
    PayloadReads X payload raw where
  size := hsize
  reads := ⟨raw.toValue, parseStrict_eq_ok.mpr ⟨hread, raw.strict_toValue h, hnodes⟩,
    rawStatement_toValue raw⟩

/-- **The statement format is exact.**  A payload is a statement precisely when it reads as a
    document of the supported type, with few enough subjects and each of them readable; a document
    that fails at a subject only fails at the first such one, by its index and reason; the subject
    found for a digest is the document's first that names it in hex of either case; and every
    statement that can be written is read as it was written. -/
theorem fromPayload_spec (X : Externals) (payload : Bytes) :
    (∀ statement, Statement.fromPayload X payload = .ok statement ↔
      ∃ raw, PayloadReads X payload raw ∧ StatementRead raw statement) ∧
    (∀ raw, PayloadReads X payload raw → raw.type_ = statementType →
      raw.subject.length ≤ maxStatementSubjects → ∀ e,
      (Statement.fromPayload X payload = .error e ↔
        ∃ before subject after what, raw.subject = before ++ subject :: after ∧
          malformedReason subject = some what ∧ (∀ s ∈ before, malformedReason s = none) ∧
          e = malformedSubject before.length what)) ∧
    (∀ raw statement subject matched, PayloadReads X payload raw →
      Statement.fromPayload X payload = .ok statement →
      (statement.findSubject subject = some matched ↔
        ∃ before first after, raw.subject = before ++ first :: after ∧ first.Names subject ∧
          (∀ s ∈ before, ¬ s.Names subject) ∧ matched = ⟨first.name, some subject⟩)) ∧
    ∀ raw : RawStatement, raw.Writable → X.readJson payload = ⟨raw.toValue.toTree, true⟩ →
      payload.length ≤ maxInputBytes → raw.toValue.toTree.nodes ≤ maxJsonNodes →
      PayloadReads X payload raw := by
  refine ⟨fun statement => fromPayload_eq_ok, ?_, ?_, ?_⟩
  · intro raw hreads htype hcount e
    rw [fromPayload_of_reads hreads]
    exact statementFromRaw_eq_error htype hcount
  · intro raw statement subject matched hreads hok
    rw [fromPayload_of_reads hreads] at hok
    exact findSubject_eq_some (statementFromRaw_eq_ok.mp hok)
  · exact fun raw => payloadReads_toValue

end Payload

end AttestationVerify
