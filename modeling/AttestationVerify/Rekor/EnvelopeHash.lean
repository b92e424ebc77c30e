import AttestationVerify.Rekor.Entry
import AttestationVerify.Wire.GoJson

namespace AttestationVerify

open Wire

open GoJson (IsHtmlSensitive)

/-!
# The envelope text and Go's

`compute_envelope_hash` hashes the envelope as Rekor's Go code would marshal it.

* `goEnvelopeJson` — what Go marshals;
* `envelopeHash_follows_go` — the two texts are equal exactly when neither the payload type nor the
  key id has a character that Go escapes and `serde_json` does not.
-/

/-- `json.Marshal` of a struct with the fields `payload`, `payloadType` and `signatures`, each
    signature a struct of an optional `keyid` and a `sig`. -/
def goEnvelopeJson (envelope : DsseEnvelope) : Str :=
  GoJson.object
    [("payload".toList, GoJson.string (Base64.encode envelope.payload)),
      ("payloadType".toList, GoJson.string envelope.payloadType),
      ("signatures".toList, GoJson.array
        [GoJson.object (GoJson.omitEmpty "keyid".toList (keyidText envelope.signature.keyid) ++
          [("sig".toList, GoJson.string (Base64.encode envelope.signature.sig))])])]

/-! ### One text, two printers -/

/-- The key id member, with its string printed by `print`. -/
def keyidMemberWith (print : Str → Str) (keyid : Str) : Str :=
  if keyid = [] then [] else "\"keyid\":".toList ++ print keyid ++ [',']

/-- The text both writers put together, their strings printed by `print`. -/
def envelopeText (print : Str → Str) (envelope : DsseEnvelope) : Str :=
  "\x7b\"payload\":".toList ++ print (Base64.encode envelope.payload) ++
    ",\"payloadType\":".toList ++ print envelope.payloadType ++
    ",\"signatures\":[\x7b".toList ++
    keyidMemberWith print (keyidText envelope.signature.keyid) ++
    "\"sig\":".toList ++ print (Base64.encode envelope.signature.sig) ++ "\x7d]\x7d".toList

/-- The code's text is the shared one with `serde_json`'s strings. -/
theorem envelopeJson_eq_envelopeText (envelope : DsseEnvelope) :
    envelopeJson envelope = envelopeText JsonText.quote envelope := by
  unfold envelopeJson envelopeText keyidMemberWith
  rw [keyidMember_eq]
  unfold jsonString
  exact Eq.refl _

/-- Go's text is the shared one with Go's strings. -/
theorem goEnvelopeJson_eq_envelopeText (envelope : DsseEnvelope) :
    goEnvelopeJson envelope = envelopeText GoJson.string envelope := by
  -- the literals of the Rust format string, as the names Go prints
  have hpayload : "\x7b\"payload\":".toList =
      '\x7b' :: (GoJson.string "payload".toList ++ [':']) := by decide +kernel
  have htype : ",\"payloadType\":".toList =
      ',' :: (GoJson.string "payloadType".toList ++ [':']) := by decide +kernel
  have hsignatures : ",\"signatures\":[\x7b".toList =
      ',' :: (GoJson.string "signatures".toList ++ [':', '[', '\x7b']) := by decide +kernel
  have hkeyid : "\"keyid\":".toList = GoJson.string "keyid".toList ++ [':'] := by decide +kernel
  have hsig : "\"sig\":".toList = GoJson.string "sig".toList ++ [':'] := by decide +kernel
  have hend : "\x7d]\x7d".toList = ['\x7d', ']', '\x7d'] := by decide +kernel
  unfold envelopeText keyidMemberWith goEnvelopeJson GoJson.omitEmpty GoJson.object GoJson.array
  simp only [List.map_append, List.map_cons, List.map_nil]
  rw [hpayload, htype, hsignatures, hkeyid, hsig, hend]
  -- the names stand for themselves from here on
  generalize GoJson.string "payload".toList = payload, GoJson.string "payloadType".toList = type,
    GoJson.string "signatures".toList = signatures, GoJson.string "sig".toList = sig
  by_cases hnil : keyidText envelope.signature.keyid = []
  · simp [hnil, List.intercalate]
  · rw [if_neg hnil, if_neg hnil]
    generalize GoJson.string (keyidText envelope.signature.keyid) = keyid
    generalize "keyid".toList = name
    simp [List.intercalate]

/-- The length of the text in those of its strings. -/
theorem exists_length_envelopeText (envelope : DsseEnvelope) :
    ∃ fixed, ∀ print, (envelopeText print envelope).length =
      fixed + (print (Base64.encode envelope.payload)).length +
        (print envelope.payloadType).length +
        (keyidMemberWith print (keyidText envelope.signature.keyid)).length +
        (print (Base64.encode envelope.signature.sig)).length := by
  unfold envelopeText
  generalize "\x7b\"payload\":".toList = payload, ",\"payloadType\":".toList = type,
    ",\"signatures\":[\x7b".toList = signatures, "\"sig\":".toList = sig,
    "\x7d]\x7d".toList = ending
  refine ⟨payload.length + type.length + signatures.length + sig.length + ending.length, ?_⟩
  intro print
  simp only [List.length_append]
  omega

/-- Only the printed string depends on the printer. -/
theorem length_keyidMemberWith {keyid : Str} (hne : keyid ≠ []) :
    ∃ fixed, ∀ print, (keyidMemberWith print keyid).length = fixed + (print keyid).length := by
  unfold keyidMemberWith
  generalize "\"keyid\":".toList = name
  refine ⟨name.length + 1, ?_⟩
  intro print
  rw [if_neg hne]
  simp only [List.length_append, List.length_singleton]
  omega

/-- Go's member is never the shorter one. -/
theorem length_keyidMemberWith_le (keyid : Str) :
    (keyidMemberWith JsonText.quote keyid).length ≤
      (keyidMemberWith GoJson.string keyid).length := by
  by_cases hne : keyid = []
  · rw [keyidMemberWith, keyidMemberWith, if_pos hne, if_pos hne]
  · obtain ⟨fixed, hfixed⟩ := length_keyidMemberWith hne
    rw [hfixed, hfixed]
    exact Nat.add_le_add_left (GoJson.length_quote_le keyid) fixed

/-- Go's text is the longer one when a string in it has a sensitive character. -/
theorem length_lt_of_sensitive {envelope : DsseEnvelope} {c : Char} (h : IsHtmlSensitive c)
    (hc : c ∈ envelope.payloadType ∨ c ∈ keyidText envelope.signature.keyid) :
    (envelopeText JsonText.quote envelope).length <
      (envelopeText GoJson.string envelope).length := by
  obtain ⟨fixed, hfixed⟩ := exists_length_envelopeText envelope
  rw [hfixed, hfixed]
  have hpayload := GoJson.length_quote_le (Base64.encode envelope.payload)
  have htype := GoJson.length_quote_le envelope.payloadType
  have hkeyid := length_keyidMemberWith_le (keyidText envelope.signature.keyid)
  have hsig := GoJson.length_quote_le (Base64.encode envelope.signature.sig)
  -- every string is at least as long in Go's text, and one of them is longer
  rcases hc with hc | hc
  · have hlt := GoJson.length_quote_lt hc h
    omega
  · obtain ⟨fixed', hfixed'⟩ := length_keyidMemberWith (List.ne_nil_of_mem hc)
    have hlt := GoJson.length_quote_lt hc h
    have hmember := hfixed' JsonText.quote
    have hmember' := hfixed' GoJson.string
    omega

/-- Base64 has no character that Go escapes. -/
theorem not_sensitive_encode (b : Bytes) : ∀ c ∈ Base64.encode b, ¬ IsHtmlSensitive c := by
  have halphabet : ∀ c ∈ Base64.alphabet, ¬ IsHtmlSensitive c :=
    forall_mem_of_all (by decide +kernel)
  intro c hc
  rcases Base64.encode_symbols b c hc with hc | rfl
  · exact halphabet c hc
  · decide

/-- **When the envelope text is Go's**: exactly when neither the payload type nor the key id has a
    `<`, `>`, `&`, U+2028 or U+2029. -/
theorem envelopeHash_follows_go (envelope : DsseEnvelope) :
    utf8 (envelopeJson envelope) = utf8 (goEnvelopeJson envelope) ↔
      (∀ c ∈ envelope.payloadType, ¬ IsHtmlSensitive c) ∧
        ∀ keyid ∈ envelope.signature.keyid, ∀ c ∈ keyid, ¬ IsHtmlSensitive c := by
  have hkeyid : (∀ keyid ∈ envelope.signature.keyid, ∀ c ∈ keyid, ¬ IsHtmlSensitive c) ↔
      ∀ c ∈ keyidText envelope.signature.keyid, ¬ IsHtmlSensitive c := by
    cases envelope.signature.keyid with
    | none => simp [keyidText]
    | some keyid => simp [keyidText]
  rw [utf8_injective.eq_iff, envelopeJson_eq_envelopeText, goEnvelopeJson_eq_envelopeText, hkeyid]
  constructor
  · -- equal texts are of one length
    intro heq
    have hlength := congrArg List.length heq
    refine ⟨fun c hc h => ?_, fun c hc h => ?_⟩
    · exact absurd hlength (length_lt_of_sensitive h (.inl hc)).ne
    · exact absurd hlength (length_lt_of_sensitive h (.inr hc)).ne
  · -- base64 has no sensitive character
    intro h
    obtain ⟨htype, hkeyid⟩ := h
    unfold envelopeText keyidMemberWith
    rw [GoJson.string_of_not (not_sensitive_encode _), GoJson.string_of_not htype,
      GoJson.string_of_not hkeyid, GoJson.string_of_not (not_sensitive_encode _)]

/-- An in-toto envelope whose key id is `a&b`. -/
def ampersandEnvelope : DsseEnvelope where
  payload := []
  payloadType := "application/vnd.in-toto+json".toList
  signature := ⟨[], some "a&b".toList⟩

/-- The ampersand is printed in two ways. -/
theorem ampersandEnvelope_differs :
    utf8 (envelopeJson ampersandEnvelope) ≠ utf8 (goEnvelopeJson ampersandEnvelope) := by
  decide +kernel

end AttestationVerify
