import AttestationVerify.StrictJson

namespace AttestationVerify

open Wire Wire.Json Wire.Serde

/-!
# Subjects and in-toto statements

`subject.rs` and `statement.rs`: the digest being verified, and the decoded DSSE payload that must
name it among its subjects.
-/

/-- A SHA-256 digest identifying the artifact; always 32 bytes. -/
structure Subject where
  digest : Octets 32
  deriving DecidableEq

/-- The subject whose digest is computed from the artifact's bytes. -/
def Subject.sha256Of (X : Externals) (bytes : Bytes) : Subject := ⟨X.sha256 bytes⟩

/-- A subject given by 64 hex digits, of either case. -/
def Subject.fromDigestHex (s : Str) : Except Error Subject :=
  (okOr (Hex.decodeTo 32 s) (.parse .malformedDigest)).map Subject.mk

/-- The digest in lowercase hex. -/
def Subject.toHex (subject : Subject) : Str := Hex.encode subject.digest.bytes

/-- The in-toto Statement v1 type. -/
def statementType : Str := "https://in-toto.io/Statement/v1".toList

/-- One subject of the statement, as far as it is used. -/
structure StatementSubject where
  name : Option Str
  /-- `none` when the digest map has no `sha256` key. -/
  sha256 : Option Subject
  deriving DecidableEq

/-- A parsed in-toto Statement. -/
structure Statement where
  subjects : List StatementSubject
  predicateType : Str
  predicate : Value

/-! ### The raw mirrors -/

/-- A subject as the document spells it. -/
structure RawStatementSubject where
  name : Option Str
  digest : List (Str × Str)

/-- A statement as the document spells it. -/
structure RawStatement where
  type_ : Str
  subject : List RawStatementSubject
  predicateType : Str
  predicate : Value

/-- The derived `Deserialize` of a subject. -/
def rawStatementSubject : Decoder RawStatementSubject := struct do
  let name ← defaulted "name" (nullable string) none
  let digest ← defaulted "digest" (map string) []
  pure ⟨name, digest⟩

/-- The derived `Deserialize` of a statement. -/
def rawStatement : Decoder RawStatement := struct do
  let type_ ← required "_type" string
  let subject ← defaulted "subject" (seq rawStatementSubject) []
  let predicateType ← required "predicateType" string
  let predicate ← defaulted "predicate" value .null
  pure ⟨type_, subject, predicateType, predicate⟩

/-! ### Conversion -/

/-- `subject[<index>] <what>`, the text of a malformed subject. -/
def malformedSubject (index : ℕ) (what : String) : Error :=
  .parse (.malformedSubject ("subject[".toList ++ decimal index ++ "] ".toList ++ what.toList))

/-- One subject: its digest map is not empty, and a `sha256` in it is well formed. -/
def StatementSubject.fromRaw (index : ℕ) (raw : RawStatementSubject) :
    Except Error StatementSubject :=
  if raw.digest = [] then .error (malformedSubject index "has an empty digest map")
  else
    match raw.digest.lookup "sha256".toList with
    | some hex =>
      match Subject.fromDigestHex hex with
      | .ok subject => .ok ⟨raw.name, some subject⟩
      | .error _ => .error (malformedSubject index "has a malformed sha256 digest")
    | none => .ok ⟨raw.name, none⟩

/-- The statement's type, its number of subjects and each subject in turn. -/
def Statement.fromRaw (raw : RawStatement) : Except Error Statement := do
  ensure (raw.type_ = statementType) (.unsupported (.statementType raw.type_))
  checkCount raw.subject maxStatementSubjects .tooManySubjects
  let subjects ← raw.subject.zipIdx.mapM fun s => StatementSubject.fromRaw s.2 s.1
  pure ⟨subjects, raw.predicateType, raw.predicate⟩

/-- `Statement::from_payload`, over the payload's bytes. -/
def Statement.fromPayload (X : Externals) (bytes : Bytes) : Except Error Statement := do
  checkInputSize bytes
  let value ← parseStrict X bytes
  let raw ← fromValue rawStatement value
  Statement.fromRaw raw

/-- The first subject whose digest is the requested one. -/
def Statement.findSubject (statement : Statement) (subject : Subject) : Option StatementSubject :=
  statement.subjects.find? fun s => s.sha256 = some subject

/-- Whether some subject has the digest. -/
def Statement.containsSubject (statement : Statement) (subject : Subject) : Bool :=
  (statement.findSubject subject).isSome

/-- `matched` is the first of the statement's subjects that has the digest. -/
def Statement.FirstNames (statement : Statement) (subject : Subject)
    (matched : StatementSubject) : Prop :=
  ∃ before after, statement.subjects = before ++ matched :: after ∧
    matched.sha256 = some subject ∧ ∀ s ∈ before, s.sha256 ≠ some subject

/-- The lookup finds the subject that comes first. -/
theorem Statement.findSubject_eq_some_iff {statement : Statement} {subject : Subject}
    {matched : StatementSubject} :
    statement.findSubject subject = some matched ↔ statement.FirstNames subject matched := by
  rw [Statement.findSubject, List.find?_eq_some_iff_append]
  constructor
  · intro h
    obtain ⟨hmatched, before, after, heq, hbefore⟩ := h
    exact ⟨before, after, heq, of_decide_eq_true hmatched, fun s hs => by
      simpa using hbefore s hs⟩
  · intro h
    obtain ⟨before, after, heq, hmatched, hbefore⟩ := h
    exact ⟨decide_eq_true hmatched, before, after, heq, fun s hs => by
      simpa using hbefore s hs⟩

end AttestationVerify
