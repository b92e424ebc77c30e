import AttestationVerify.Dsse
import AttestationVerify.Wire.Sized

namespace AttestationVerify

open Wire Wire.Cursor

/-!
# The pre-authentication encoding is read back

A DSSE signature is over the encoding of a payload type and a payload.  Both are the signer's own
strings, which may hold spaces and numerals; each stands behind its length.

* `readPae` — a reader of the encoding;
* `readPae_eq_some` — it reads exactly the encodings, each as the pair it is of;
* `verifyEnvelope_authenticates` — so an accepted signature is over one pair.
-/

/-- The pair, and the bytes behind it. -/
def takePae : Reader Unit (Str × Bytes) := do
  takeLiteral (utf8 "DSSEv1 ".toList)
  let payloadType ← takeSized 32
  takeLiteral [32]
  let payload ← takeSized 32
  let payloadType ← liftM (okOr (fromUtf8 payloadType) ())
  pure (payloadType, payload)

/-- A reader of the encoding, over a whole message. -/
def readPae (message : Bytes) : Option (Str × Bytes) := readAll takePae message

/-- A space is no digit. -/
theorem separates_space : Separates 32 := ⟨' ', by decide, by decide⟩

/-- A field of the encoding is its length, a space and its bytes. -/
theorem pae_eq (payloadType : Str) (payload : Bytes) :
    pae payloadType payload =
      utf8 "DSSEv1 ".toList ++ (sized 32 (utf8 payloadType) ++ ([32] ++ sized 32 payload)) := by
  simp only [pae, sized, List.append_assoc, List.cons_append, List.nil_append]

/-- The reader takes off what was encoded. -/
theorem decodes_takePae :
    Decodes takePae (fun pair => pae pair.1 pair.2) fun _ => True := by
  rintro cursor ⟨t, p⟩ rest
  rw [takePae, (decodes_takeLiteral _).bind_eq_ok]
  simp only [(decodes_takeSized separates_space).bind_eq_ok, (decodes_takeLiteral _).bind_eq_ok,
    bind_apply_eq_ok, lift_apply_eq_ok, pure_apply_eq_ok, okOr_eq_ok, fromUtf8_eq_some,
    Prod.mk.injEq, pae_eq]
  constructor
  · rintro ⟨_, -, _, rfl, field, -, _, rfl, _, -, _, rfl, payload, -, _, rfl, t, _, ⟨rfl, rfl⟩,
      ⟨rfl, rfl⟩, rfl⟩
    exact ⟨trivial, by simp only [List.append_assoc]⟩
  · rintro ⟨-, rfl⟩
    refine ⟨(), trivial, _, List.append_assoc _ _ _, utf8 t, trivial, _, List.append_assoc _ _ _,
      (), trivial, _, List.append_assoc _ _ _, p, trivial, rest, rfl, t, rest, ⟨rfl, rfl⟩,
      ⟨rfl, rfl⟩, rfl⟩

/-- A message is read back exactly as it was encoded. -/
theorem readPae_eq_some {message : Bytes} {payloadType : Str} {payload : Bytes} :
    readPae message = some (payloadType, payload) ↔ pae payloadType payload = message := by
  rw [readPae, decodes_takePae.readAll_eq_some]
  exact and_iff_right trivial

/-- **A DSSE signature is over one payload type and one payload.**  The encoding can be read back,
    so the message of an accepted signature is the encoding of the envelope's pair and no other. -/
theorem verifyEnvelope_authenticates (X : Externals) :
    (∀ payloadType payload, readPae (pae payloadType payload) = some (payloadType, payload)) ∧
    (∀ t₁ t₂ p₁ p₂, pae t₁ p₁ = pae t₂ p₂ ↔ t₁ = t₂ ∧ p₁ = p₂) ∧
    ∀ envelope leafKey, verifyEnvelope X envelope leafKey = .ok () ↔
      ∃ message, leafKey.verifyDer X message envelope.signature.sig = true ∧
        ∀ payloadType payload, pae payloadType payload = message ↔
          payloadType = envelope.payloadType ∧ payload = envelope.payload := by
  have hread (t : Str) (p : Bytes) : readPae (pae t p) = some (t, p) := readPae_eq_some.mpr rfl
  have hinj (t₁ t₂ : Str) (p₁ p₂ : Bytes) : pae t₁ p₁ = pae t₂ p₂ ↔ t₁ = t₂ ∧ p₁ = p₂ := by
    rw [← readPae_eq_some, hread, Option.some.injEq, Prod.mk.injEq, eq_comm (b := t₁),
      eq_comm (b := p₁)]
  refine ⟨hread, hinj, fun envelope leafKey => ?_⟩
  rw [verifyEnvelope, ensure_eq_ok]
  constructor
  · intro h
    exact ⟨_, h, fun t p => hinj t _ p _⟩
  · rintro ⟨message, h, honly⟩
    -- the message is the envelope's own encoding
    rwa [← (honly _ _).mpr ⟨rfl, rfl⟩] at h

end AttestationVerify
