import AttestationVerify.Rekor.Verify
import AttestationVerify.Wire.JsonReader

namespace AttestationVerify

open Wire

open JsonReader (Node)

open JsonText (quote IsPlain)

/-!
# Inclusion promises as JSON

`set_signed_bytes` puts its message together by hand.  The message is a JSON document all the same.

* `setMembers` — the members the document has;
* `read_setText` — the document is the object of these;
* `setSignedBytes_unambiguous` — messages determine the entry, it can be read back from them, and
  they are no checkpoint.
-/

/-- The members of a message. -/
def setMembers (canonicalizedBody : Bytes) (integratedTime : UInt64) (logKeyId : Bytes)
    (logIndex : UInt64) : List (Str × Node) :=
  [("body".toList, .string (Base64.encode canonicalizedBody)),
    ("integratedTime".toList, .number (decimal integratedTime.toNat)),
    ("logID".toList, .string (Hex.encode logKeyId)),
    ("logIndex".toList, .number (decimal logIndex.toNat))]

/-- The entry a message promises: its canonicalized body, time, key id and index. -/
def readSetMessage (message : Bytes) : Option (Bytes × UInt64 × Bytes × UInt64) := do
  let text ← fromUtf8 message
  let document ← JsonReader.read text
  let body ← ((document.member "body".toList).bind Node.asString).bind Base64.decode
  let time ← ((document.member "integratedTime".toList).bind Node.asNumber).bind parseU64
  let keyId ← ((document.member "logID".toList).bind Node.asString).bind Hex.decode
  let index ← ((document.member "logIndex".toList).bind Node.asNumber).bind parseU64
  some (body, time, keyId, index)

section

variable (body : Bytes) (time : UInt64) (keyId : Bytes) (index : UInt64)

/-! ### The characters of the fields -/

/-- Base64 needs no escape. -/
theorem isPlain_encode : ∀ c ∈ Base64.encode body, IsPlain c := by
  have halphabet : ∀ c ∈ Base64.alphabet, IsPlain c := forall_mem_of_all (by decide +kernel)
  intro c hc
  rcases Base64.encode_symbols body c hc with hc | rfl
  · exact halphabet c hc
  · decide

/-- Hex has only hex digits. -/
theorem mem_digits_of_mem_encode {c : Char} (h : c ∈ Hex.encode keyId) : c ∈ Hex.digits := by
  by_contra hc
  exact Hex.not_mem_encode hc keyId h

/-- Hex needs no escape. -/
theorem isPlain_hex : ∀ c ∈ Hex.encode keyId, IsPlain c := by
  have hdigits : ∀ c ∈ Hex.digits, IsPlain c := forall_mem_of_all (by decide +kernel)
  exact fun c hc => hdigits c (mem_digits_of_mem_encode keyId hc)

/-- A number has no whitespace. -/
theorem not_isWhitespace_decimal (n : ℕ) : ∀ c ∈ decimal n, isWhitespace c = false := by
  have hdigits : ∀ d : Fin 10, isWhitespace (Nat.digitChar d) = false := by decide
  intro c hc
  obtain ⟨d, hd, rfl⟩ := exists_digitChar (isDigit_of_mem_decimal hc)
  exact hdigits ⟨d, hd⟩

/-- The signed text has no whitespace. -/
theorem not_isWhitespace_setText : ∀ c ∈ setText body time keyId index, isWhitespace c = false := by
  have hencode : ∀ c ∈ Base64.encode body, isWhitespace c = false := fun c hc =>
    not_isWhitespace_of_isSymbol (Base64.encode_symbols body c hc)
  -- neither the fields nor the literals between them have white space
  have hhexDigits : ∀ c ∈ Hex.digits, isWhitespace c = false :=
    forall_mem_of_all (by decide +kernel)
  have hhex : ∀ c ∈ Hex.encode keyId, isWhitespace c = false := fun c hc =>
    hhexDigits c (mem_digits_of_mem_encode keyId hc)
  unfold setText
  simp only [List.forall_mem_append]
  refine ⟨⟨⟨⟨⟨⟨⟨⟨?_, hencode⟩, ?_⟩, not_isWhitespace_decimal _⟩, ?_⟩, hhex⟩, ?_⟩,
    not_isWhitespace_decimal _⟩, ?_⟩
  all_goals exact forall_mem_of_all (by decide +kernel)

/-! ### The document -/

/-- The message as an object, member by member. -/
theorem setText_eq : setText body time keyId index =
    '\x7b' :: (quote "body".toList ++ ':' :: (quote (Base64.encode body) ++
      ',' :: (quote "integratedTime".toList ++ ':' :: (decimal time.toNat ++
      ',' :: (quote "logID".toList ++ ':' :: (quote (Hex.encode keyId) ++
      ',' :: (quote "logIndex".toList ++ ':' :: (decimal index.toNat ++ ['\x7d'])))))))) := by
  have hbody : "\x7b\"body\":\"".toList = '\x7b' :: (quote "body".toList ++ [':', '"']) := by
    decide +kernel
  have htime : "\",\"integratedTime\":".toList =
      '"' :: ',' :: (quote "integratedTime".toList ++ [':']) := by decide +kernel
  have hkeyId : ",\"logID\":\"".toList = ',' :: (quote "logID".toList ++ [':', '"']) := by
    decide +kernel
  have hindex : "\",\"logIndex\":".toList = '"' :: ',' :: (quote "logIndex".toList ++ [':']) := by
    decide +kernel
  unfold setText
  rw [hbody, htime, hkeyId, hindex, JsonText.quote_of_isPlain (isPlain_encode body),
    JsonText.quote_of_isPlain (isPlain_hex keyId)]
  -- with the names out of the way only the brackets differ
  generalize quote "body".toList = a, quote "integratedTime".toList = b,
    quote "logID".toList = c, quote "logIndex".toList = d
  simp only [List.append_assoc, List.cons_append, List.nil_append]

/-- The signed text is the JSON object of its members. -/
theorem read_setText : JsonReader.read (setText body time keyId index) =
    some (.object (setMembers body time keyId index)) := by
  -- a number ends before a comma or the closing brace
  have hcomma (rest : Str) : JsonReader.EndsNumber (',' :: rest) := by
    intro c hc
    obtain rfl : ',' = c := Option.some.inj hc
    decide
  have hbrace : JsonReader.EndsNumber ['\x7d'] := by
    intro c hc
    obtain rfl : '\x7d' = c := Option.some.inj hc
    decide
  rw [setText_eq]
  apply JsonReader.read_object (by rfl)
  -- the reader has more fuel than the four members need
  obtain ⟨fuel, hfuel⟩ : ∃ fuel, (quote "body".toList ++ ':' :: (quote (Base64.encode body) ++
      ',' :: (quote "integratedTime".toList ++ ':' :: (decimal time.toNat ++
      ',' :: (quote "logID".toList ++ ':' :: (quote (Hex.encode keyId) ++
      ',' :: (quote "logIndex".toList ++ ':' :: (decimal index.toNat ++
        ['\x7d'])))))))).length + 1 =
      fuel + 5 := by
    apply Nat.exists_eq_add_of_le'
    simp only [List.length_append, List.length_cons]
    omega
  rw [hfuel, JsonReader.readMembers_more (JsonReader.startsPlain_quote _ _)
      (JsonReader.readValue_quote _ _ _),
    JsonReader.readMembers_more (JsonReader.startsPlain_decimal _ _)
      (JsonReader.readValue_decimal _ _ (hcomma _)),
    JsonReader.readMembers_more (JsonReader.startsPlain_quote _ _)
      (JsonReader.readValue_quote _ _ _),
    JsonReader.readMembers_last (JsonReader.startsPlain_decimal _ _)
      (JsonReader.readValue_decimal _ _ hbrace)]
  rfl

/-- The message is read back from its bytes. -/
theorem readSetMessage_setSignedBytes :
    readSetMessage (setSignedBytes body time keyId index) = some (body, time, keyId, index) := by
  have htext : fromUtf8 (setSignedBytes body time keyId index) =
      some (setText body time keyId index) := fromUtf8_eq_some.mpr rfl
  -- each member is found under its name
  have hmembers : (((Node.object (setMembers body time keyId index)).member "body".toList).bind
        Node.asString = some (Base64.encode body)) ∧
      (((Node.object (setMembers body time keyId index)).member "integratedTime".toList).bind
        Node.asNumber = some (decimal time.toNat)) ∧
      (((Node.object (setMembers body time keyId index)).member "logID".toList).bind
        Node.asString = some (Hex.encode keyId)) ∧
      (((Node.object (setMembers body time keyId index)).member "logIndex".toList).bind
        Node.asNumber = some (decimal index.toNat)) := ⟨by rfl, by rfl, by rfl, by rfl⟩
  obtain ⟨hbody, htime, hkeyId, hindex⟩ := hmembers
  rw [readSetMessage, htext]
  simp only [Option.bind_eq_bind, Option.bind_some, read_setText, hbody, htime, hkeyId, hindex,
    Base64.decode_encode, Hex.decode_encode, parseU64_decimal]

/-- **The message is unambiguous.**  Equal messages promise equal entries.  A message is the JSON
    object of its four members, in increasing order of their names and without white space; the
    entry is read back from it; and it is not the signed text of any checkpoint. -/
theorem setSignedBytes_unambiguous :
    (∀ body' time' keyId' index',
      setSignedBytes body time keyId index = setSignedBytes body' time' keyId' index' →
      body = body' ∧ time = time' ∧ keyId = keyId' ∧ index = index') ∧
    (∃ text, fromUtf8 (setSignedBytes body time keyId index) = some text ∧
      JsonReader.read text = some (.object (setMembers body time keyId index)) ∧
      ∀ c ∈ text, isWhitespace c = false) ∧
    (setMembers body time keyId index).map Prod.fst =
      ["body".toList, "integratedTime".toList, "logID".toList, "logIndex".toList] ∧
    ((setMembers body time keyId index).map Prod.fst).Pairwise (· < ·) ∧
    readSetMessage (setSignedBytes body time keyId index) = some (body, time, keyId, index) ∧
    ∀ envelope checkpoint, parseCheckpoint envelope = .ok checkpoint →
      setSignedBytes body time keyId index ≠ utf8 checkpoint.noteBody := by
  refine ⟨fun _ _ _ _ => setSignedBytes_inj, ?_, rfl, ?_,
    readSetMessage_setSignedBytes body time keyId index, fun _ _ => setSignedBytes_ne_noteBody⟩
  · exact ⟨setText body time keyId index, fromUtf8_eq_some.mpr rfl,
      read_setText body time keyId index, not_isWhitespace_setText body time keyId index⟩
  · have hnames : ["body".toList, "integratedTime".toList, "logID".toList,
        "logIndex".toList].Pairwise (· < ·) := by decide +kernel
    exact hnames

end

end AttestationVerify
