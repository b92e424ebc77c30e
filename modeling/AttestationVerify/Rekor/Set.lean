import AttestationVerify.Dsse
import AttestationVerify.Trust

namespace AttestationVerify

open Wire

/-!
# Inclusion promises

`rekor.rs`, second part: the message a signed entry timestamp is over, and the selection of the log
key it is checked with.

* `setSignedBytes_inj` — the message determines the entry it promises;
* `getLast?_setText` — no message ends in a line feed.
-/

/-- The signed JSON text, its four members in order. -/
def setText (canonicalizedBody : Bytes) (integratedTime : UInt64) (logKeyId : Bytes)
    (logIndex : UInt64) : Str :=
  "\x7b\"body\":\"".toList ++ Base64.encode canonicalizedBody ++
    "\",\"integratedTime\":".toList ++ decimal integratedTime.toNat ++
    ",\"logID\":\"".toList ++ Hex.encode logKeyId ++
    "\",\"logIndex\":".toList ++ decimal logIndex.toNat ++ ['\x7d']

/-- The signed bytes are the text in UTF-8. -/
def setSignedBytes (canonicalizedBody : Bytes) (integratedTime : UInt64) (logKeyId : Bytes)
    (logIndex : UInt64) : Bytes :=
  utf8 (setText canonicalizedBody integratedTime logKeyId logIndex)

/-- `verify_set`: the promise is there and signed by the log. -/
def verifySet (X : Externals) (tlogEntry : TlogEntry) (logKeyId : Bytes)
    (logKey : EcdsaVerifyingKey) : Except Error Unit := do
  let promise ← okOr tlogEntry.inclusionPromise (.transparency .setMissing)
  let message := setSignedBytes tlogEntry.canonicalizedBody tlogEntry.integratedTime logKeyId
    tlogEntry.logIndex
  ensure (logKey.verifyDer X message promise.signedEntryTimestamp) (.transparency .setInvalid)

/-- The first log whose key hashes to the wanted id; the document's own label is not consulted. -/
def selectLog (X : Externals) (trustStore : TrustStore) (wantedLogId : Bytes) :
    Option TransparencyLog :=
  trustStore.tlogs.find? fun log => (X.sha256 log.publicKey.rawBytes).bytes = wantedLogId

/-- The log of the entry's key id, with its key parsed. -/
def selectLogKey (X : Externals) (trustStore : TrustStore) (wantedLogId : Bytes) :
    Except Error (TransparencyLog × EcdsaVerifyingKey) := do
  let log ← okOr (selectLog X trustStore wantedLogId) (.transparency .unknownLogKey)
  let key ← EcdsaVerifyingKey.fromSpkiDer X log.publicKey.rawBytes
  pure (log, key)

/-- The promise verifies exactly if its signature is over these bytes. -/
theorem verifySet_eq_ok {X : Externals} {tlogEntry : TlogEntry} {logKeyId : Bytes}
    {logKey : EcdsaVerifyingKey} {u : Unit} :
    verifySet X tlogEntry logKeyId logKey = .ok u ↔
      ∃ promise, tlogEntry.inclusionPromise = some promise ∧
        logKey.verifyDer X (setSignedBytes tlogEntry.canonicalizedBody tlogEntry.integratedTime
          logKeyId tlogEntry.logIndex) promise.signedEntryTimestamp = true := by
  simp only [verifySet, bind_eq_ok, okOr_eq_ok, ensure_eq_ok]

/-- The key is that of the selected log. -/
theorem selectLogKey_eq_ok {X : Externals} {trustStore : TrustStore} {wantedLogId : Bytes}
    {log : TransparencyLog} {key : EcdsaVerifyingKey} :
    selectLogKey X trustStore wantedLogId = .ok (log, key) ↔
      selectLog X trustStore wantedLogId = some log ∧
        EcdsaVerifyingKey.fromSpkiDer X log.publicKey.rawBytes = .ok key := by
  simp only [selectLogKey, bind_eq_ok, okOr_eq_ok, pure_eq_ok, Except.ok.injEq, Prod.mk.injEq]
  constructor
  · intro h
    obtain ⟨log', hlog, key', hkey, rfl, rfl⟩ := h
    exact ⟨hlog, hkey⟩
  · intro h
    obtain ⟨hlog, hkey⟩ := h
    exact ⟨log, hlog, key, hkey, rfl, rfl⟩

/-! ### The message is read in one way -/

/-- **The message determines the entry**, its key id included: no field can contain the delimiter
    that ends it. -/
theorem setText_inj {body body' : Bytes} {time time' : UInt64} {keyId keyId' : Bytes}
    {index index' : UInt64}
    (h : setText body time keyId index = setText body' time' keyId' index') :
    body = body' ∧ time = time' ∧ keyId = keyId' ∧ index = index' := by
  -- each field ends at a delimiter that its characters do not include
  have hbase64 (b : Bytes) : '"' ∉ Base64.encode b := Base64.not_mem_encode (by decide) b
  have hdecimal (n : ℕ) : ',' ∉ decimal n := not_mem_decimal (by decide) n
  have hhex (b : Bytes) : '"' ∉ Hex.encode b := Hex.not_mem_encode (by decide) b
  have hbrace (n : ℕ) : '\x7d' ∉ decimal n := not_mem_decimal (by decide) n
  unfold setText at h
  repeat rw [List.append_assoc] at h
  have h := List.append_cancel_left h
  obtain ⟨hbody, h⟩ := append_delimited_inj (by rfl) (hbase64 _) (hbase64 _) h
  obtain ⟨htime, h⟩ := append_delimited_inj (by rfl) (hdecimal _) (hdecimal _) h
  obtain ⟨hkeyId, h⟩ := append_delimited_inj (by rfl) (hhex _) (hhex _) h
  have hindex := List.append_cancel_right h
  exact ⟨Base64.encode_injective hbody, UInt64.toNat_inj.mp (decimal_injective htime),
    Hex.encode_injective hkeyId, UInt64.toNat_inj.mp (decimal_injective hindex)⟩

/-- The signed bytes determine the entry. -/
theorem setSignedBytes_inj {body body' : Bytes} {time time' : UInt64} {keyId keyId' : Bytes}
    {index index' : UInt64}
    (h : setSignedBytes body time keyId index = setSignedBytes body' time' keyId' index') :
    body = body' ∧ time = time' ∧ keyId = keyId' ∧ index = index' :=
  setText_inj (utf8_injective h)

/-- The signed text ends with a brace. -/
theorem getLast?_setText (body : Bytes) (time : UInt64) (keyId : Bytes) (index : UInt64) :
    (setText body time keyId index).getLast? = some '\x7d' := by
  unfold setText
  exact List.getLast?_concat

end AttestationVerify
