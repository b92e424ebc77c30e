import AttestationVerify.Pem

namespace AttestationVerify

open Wire Wire.Json Wire.Serde

/-!
# A stored body

`parse_tlog_entry_body` from the other side: what a log writes down of an envelope it took in, and
that the parser finds all of it again.

* `storedDocument` — the body as a JSON document, `storedText` one printing of it;
* `pemText` — a certificate as one PEM block;
* `parseTlogEntryBody_of_stored` — the document is parsed to what was stored, for all hashes,
  signatures and certificates, and for every text the reader takes for it.
-/

/-! ### The document -/

/-- One of the two digests of a body. -/
def hashDocument (hash : Octets 32) : Value :=
  .object (fields [("algorithm", some (.string "sha256".toList)),
    ("value", some (.string (Hex.encode hash.bytes)))])

/-- The envelope's signature, with the text of the signer's certificate. -/
def signatureDocument (sig : Bytes) (verifierText : Str) : Value :=
  .object (fields [("signature", some (.string (Base64.encode sig))),
    ("verifier", some (.string (Base64.encode (utf8 verifierText))))])

/-- The `spec` of a body. -/
def specDocument (envelopeHash payloadHash : Octets 32) (sig : Bytes) (verifierText : Str) :
    Value :=
  .object (fields [("envelopeHash", some (hashDocument envelopeHash)),
    ("payloadHash", some (hashDocument payloadHash)),
    ("signatures", some (.array [signatureDocument sig verifierText]))])

/-- The body stored for an envelope with these digests and this signature. -/
def storedDocument (envelopeHash payloadHash : Octets 32) (sig : Bytes) (verifierText : Str) :
    Value :=
  .object (fields [("apiVersion", some (.string tlogEntryApiVersion)),
    ("kind", some (.string tlogEntryKind)),
    ("spec", some (specDocument envelopeHash payloadHash sig verifierText))])

/-- The body that document stands for. -/
def storedBody (envelopeHash payloadHash : Octets 32) (sig leafDer : Bytes) : TlogEntryBody where
  kind := tlogEntryKind
  apiVersion := tlogEntryApiVersion
  envelopeHash := envelopeHash
  payloadHash := payloadHash
  signature := sig
  verifierCertificateDer := leafDer

/-- The document printed without white space. -/
def storedText (envelopeHash payloadHash : Octets 32) (sig : Bytes) (verifierText : Str) : Bytes :=
  utf8 ("\x7b\"apiVersion\":\"0.0.1\",\"kind\":\"dsse\",\"spec\":\x7b\"envelopeHash\":".toList ++
    "\x7b\"algorithm\":\"sha256\",\"value\":\"".toList ++ Hex.encode envelopeHash.bytes ++
    "\"\x7d,\"payloadHash\":\x7b\"algorithm\":\"sha256\",\"value\":\"".toList ++
    Hex.encode payloadHash.bytes ++ "\"\x7d,\"signatures\":[\x7b\"signature\":\"".toList ++
    Base64.encode sig ++ "\",\"verifier\":\"".toList ++
    Base64.encode (utf8 verifierText) ++ "\"\x7d]\x7d\x7d".toList)

/-- A printed body starts with its `apiVersion`. -/
theorem exists_storedText (envelopeHash payloadHash : Octets 32) (sig : Bytes)
    (verifierText : Str) :
    ∃ rest, storedText envelopeHash payloadHash sig verifierText = 123 :: 34 :: 97 :: rest := by
  unfold storedText
  repeat rw [utf8_append]
  repeat rw [List.append_assoc]
  exact ⟨_, rfl⟩

/-- A certificate as the log stores it: one PEM block on lines of its own. -/
def pemText (der : Bytes) : Str :=
  pemBegin "CERTIFICATE" ++ (['\n'] ++ Base64.encode der ++ ['\n']) ++ pemEnd "CERTIFICATE" ++
    ['\n']

/-- The text is one PEM block of the certificate's bytes. -/
theorem pemBlock_pemText (der : Bytes) : PemBlock "CERTIFICATE" der (pemText der) := by
  refine ⟨[], ['\n'] ++ Base64.encode der ++ ['\n'], ['\n'], ?_, by simp,
    by simp [isWhitespace], ?_⟩
  · rw [pemText, List.nil_append]
  · rw [List.filter_append, List.filter_append, filter_encode]
    exact List.append_nil _

/-! ### Its parse -/

section Parse

variable {X : Externals} {envelopeHash payloadHash : Octets 32} {sig leafDer : Bytes}
  {verifierText : Str}

/-- No object of the document repeats a name. -/
theorem strict_storedDocument :
    (storedDocument envelopeHash payloadHash sig verifierText).Strict := by
  have hhash (hash : Octets 32) : (hashDocument hash).Strict :=
    strict_fields (by simp) (by simp)
  have hsignature : (signatureDocument sig verifierText).Strict :=
    strict_fields (by simp) (by simp)
  have hspec : (specDocument envelopeHash payloadHash sig verifierText).Strict :=
    strict_fields (by simp) (by simp [hhash, hsignature])
  exact strict_fields (by simp) (by simp [hspec])

/-- The document always has the same fourteen nodes. -/
theorem nodes_storedDocument :
    (storedDocument envelopeHash payloadHash sig verifierText).toTree.nodes = 14 := rfl

/-- A written digest is deserialised. -/
theorem rawHash_hashDocument (hash : Octets 32) :
    rawHash (hashDocument hash) = some ⟨"sha256".toList, Hex.encode hash.bytes⟩ := by
  rw [rawHash, hashDocument, struct_object, string_step (s := "sha256".toList) (by simp),
    string_step (s := Hex.encode hash.bytes) (by simp)]
  rfl

/-- A written signature is deserialised. -/
theorem rawDsseSpecSignature_signatureDocument (sig : Bytes) (verifierText : Str) :
    rawDsseSpecSignature (signatureDocument sig verifierText) =
      some ⟨Base64.encode sig, Base64.encode (utf8 verifierText)⟩ := by
  rw [rawDsseSpecSignature, signatureDocument, struct_object,
    string_step (s := Base64.encode sig) (by simp),
    string_step (s := Base64.encode (utf8 verifierText)) (by simp)]
  rfl

/-- The raw mirror of the document. -/
def storedRaw (envelopeHash payloadHash : Octets 32) (sig : Bytes) (verifierText : Str) :
    RawTlogEntryBody :=
  ⟨tlogEntryApiVersion, tlogEntryKind,
    ⟨⟨"sha256".toList, Hex.encode envelopeHash.bytes⟩,
      ⟨"sha256".toList, Hex.encode payloadHash.bytes⟩,
      [⟨Base64.encode sig, Base64.encode (utf8 verifierText)⟩]⟩⟩

/-- Each member is read into the field of its name. -/
theorem rawTlogEntryBody_storedDocument :
    rawTlogEntryBody (storedDocument envelopeHash payloadHash sig verifierText) =
      some (storedRaw envelopeHash payloadHash sig verifierText) := by
  have hsignatures : seq rawDsseSpecSignature (.array [signatureDocument sig verifierText]) =
      some [⟨Base64.encode sig, Base64.encode (utf8 verifierText)⟩] := by
    simp only [seq, List.mapM_cons, List.mapM_nil, rawDsseSpecSignature_signatureDocument]
    rfl
  have hspec : rawDsseSpec (specDocument envelopeHash payloadHash sig verifierText) =
      some (storedRaw envelopeHash payloadHash sig verifierText).spec := by
    rw [rawDsseSpec, specDocument, struct_object,
      required_step (v := hashDocument envelopeHash) (by simp) (rawHash_hashDocument _),
      required_step (v := hashDocument payloadHash) (by simp) (rawHash_hashDocument _),
      defaulted_step (by simp) hsignatures]
    rfl
  rw [rawTlogEntryBody, storedDocument, struct_object,
    string_step (s := tlogEntryApiVersion) (by simp), string_step (s := tlogEntryKind) (by simp),
    required_step (by simp) hspec]
  rfl

/-- **A stored body is parsed to what was stored**, whatever the digests, the signature and the
    layout of the certificate, and whatever text the document was read from. -/
theorem parseTlogEntryBody_of_stored {canonicalizedBody : Bytes}
    (hpem : PemBlock "CERTIFICATE" leafDer verifierText)
    (hread : X.readJson canonicalizedBody =
      ⟨(storedDocument envelopeHash payloadHash sig verifierText).toTree, true⟩) :
    parseTlogEntryBody X canonicalizedBody =
      .ok (storedBody envelopeHash payloadHash sig leafDer) := by
  have hparse : parseStrict X canonicalizedBody =
      .ok (storedDocument envelopeHash payloadHash sig verifierText) :=
    parseStrict_eq_ok.mpr ⟨hread, strict_storedDocument, by
      rw [nodes_storedDocument]
      decide⟩
  rw [parseTlogEntryBody, hparse, ok_bind, fromValue_eq_ok.mpr rawTlogEntryBody_storedDocument,
    ok_bind]
  refine TlogEntryBody.fromRaw_eq_ok.mpr
    ⟨⟨Base64.encode sig, Base64.encode (utf8 verifierText)⟩, verifierText, ?_⟩
  exact
    { supported := ⟨rfl, rfl⟩
      kind := rfl
      apiVersion := rfl
      signatures := rfl
      envelopeHash := strictHex_eq_ok.mpr (Hex.decodeTo_encode _)
      payloadHash := strictHex_eq_ok.mpr (Hex.decodeTo_encode _)
      signature := rfl
      verifier := rfl
      certificate := hpem }

end Parse

end AttestationVerify
