import AttestationVerify.Sct
import AttestationVerify.Wire.Asn1

namespace AttestationVerify

open Wire Wire.Asn1

/-!
# Precertificates

An SCT signs the `TBSCertificate` as it was before the SCT list was put into it, and the verifier
has only the one it was put into.  Taking the list out again changes the length of the extensions,
of the wrapper around them and of the whole.

* `tbsDer` — the canonical encoding of a `TBSCertificate`, of which only the extensions matter;
* `CanonicalDer` — what the DER library is taken to do;
* `precertTbsDer_insertIdx` — the reconstruction undoes the embedding, byte for byte.
-/

/-! ### Canonical encodings -/

/-- A field as its tag and content. -/
def AnyRef.toTlv (field : AnyRef) : UInt8 × Bytes := (field.tag, field.value)

/-- A sequence of opaque values. -/
def sequenceDer (fields : List AnyRef) : Bytes := tlv 0x30 (contents (fields.map AnyRef.toTlv))

/-- Identifier, criticality and value; `critical DEFAULT FALSE` is left out when it is false. -/
def Extension.toTlv (ext : Extension) : UInt8 × Bytes :=
  (0x30, contents ((0x06, objectIdentifier ext.extnId) ::
    ((if ext.critical then [(0x01, [0xFF])] else []) ++ [(0x04, ext.extnValue)])))

/-- The extensions of a certificate, encoded. -/
def extensionsDer (extensions : List Extension) : Bytes :=
  tlv 0x30 (contents (extensions.map Extension.toTlv))

/-- `[3] EXPLICIT Extensions`. -/
def extensionsField (extensions : List Extension) : AnyRef :=
  ⟨extensionsContextTag, extensionsDer extensions⟩

/-- A `TBSCertificate`: any fields, and the extensions after them. -/
def tbsDer (fields : List AnyRef) (extensions : List Extension) : Bytes :=
  sequenceDer (fields ++ [extensionsField extensions])

/-! ### The library -/

/-- What a DER library represents. -/
structure DerScope where
  maxLength : ℕ
  tags : UInt8 → Prop
  oids : Oid → Prop

/-- Within its scope the library decodes and encodes canonical DER. -/
structure CanonicalDer (der : Der) (scope : DerScope) : Prop where
  anySequence : ∀ fields, (∀ field ∈ fields, scope.tags field.tag) →
    (sequenceDer fields).length ≤ scope.maxLength →
      der.anySequence (sequenceDer fields) = some fields
  anySequenceToDer : ∀ fields, (∀ field ∈ fields, scope.tags field.tag) →
    (sequenceDer fields).length ≤ scope.maxLength →
      der.anySequenceToDer fields = some (sequenceDer fields)
  anyNew : ∀ tag value, scope.tags tag → value.length ≤ scope.maxLength →
    der.anyNew tag value = some ⟨tag, value⟩
  extensions : ∀ extensions, (∀ ext ∈ extensions, scope.oids ext.extnId) →
    (extensionsDer extensions).length ≤ scope.maxLength →
      der.extensions (extensionsDer extensions) = some extensions
  extensionsToDer : ∀ extensions, (∀ ext ∈ extensions, scope.oids ext.extnId) →
    (extensionsDer extensions).length ≤ scope.maxLength →
      der.extensionsToDer extensions = some (extensionsDer extensions)

/-- The library represents this `TBSCertificate`. -/
structure DerScope.Holds (scope : DerScope) (fields : List AnyRef) (extensions : List Extension) :
    Prop where
  tags : ∀ field ∈ fields, scope.tags field.tag
  extensionsTag : scope.tags extensionsContextTag
  oids : ∀ ext ∈ extensions, scope.oids ext.extnId
  length : (tbsDer fields extensions).length ≤ scope.maxLength

/-- Fewer extensions are no longer. -/
theorem length_extensionsDer_mono {extensions extensions' : List Extension}
    (h : extensions.Sublist extensions') :
    (extensionsDer extensions).length ≤ (extensionsDer extensions').length :=
  length_tlv_mono _ _ (length_contents_mono (h.map Extension.toTlv))

/-- The wrapper and the whole get no longer either, in whichever form their lengths are. -/
theorem length_tbsDer_mono {extensions extensions' : List Extension} (fields : List AnyRef)
    (h : extensions.Sublist extensions') :
    (tbsDer fields extensions).length ≤ (tbsDer fields extensions').length := by
  have hfield := length_tlv_mono extensionsContextTag extensionsContextTag
    (length_extensionsDer_mono h)
  refine length_tlv_mono _ _ ?_
  simp only [List.map_append, List.map_cons, List.map_nil, contents_append, contents_cons,
    contents_nil, List.append_nil, List.length_append]
  exact Nat.add_le_add_left hfield _

/-- The encoded extensions are no longer than the whole. -/
theorem length_extensionsDer_le (fields : List AnyRef) (extensions : List Extension) :
    (extensionsDer extensions).length ≤ (tbsDer fields extensions).length := by
  have hmem : (extensionsField extensions).toTlv ∈
      (fields ++ [extensionsField extensions]).map AnyRef.toTlv := by simp
  have hfield := length_tlv_le_contents hmem
  exact (length_le_tlv _ _).le.trans (hfield.trans (length_le_tlv _ _).le)

/-- With a `TBSCertificate` the library represents the one with fewer extensions. -/
theorem DerScope.Holds.of_sublist {scope : DerScope} {fields : List AnyRef}
    {extensions extensions' : List Extension} (h : scope.Holds fields extensions')
    (hsub : extensions.Sublist extensions') : scope.Holds fields extensions where
  tags := h.tags
  extensionsTag := h.extensionsTag
  oids := fun ext hext => h.oids ext (hsub.subset hext)
  length := (length_tbsDer_mono fields hsub).trans h.length

/-! ### Reconstruction -/

/-- The reconstruction takes every SCT list out of the extensions and leaves the rest. -/
theorem precertTbsDer_tbsDer {X : Externals} {scope : DerScope} (hder : CanonicalDer X.der scope)
    {fields : List AnyRef} {extensions : List Extension} (h : scope.Holds fields extensions) :
    precertTbsDer X (tbsDer fields extensions) =
      .ok (tbsDer fields (extensions.filter (·.extnId ≠ sctListOid))) := by
  -- what is left is no longer, so the library represents it too
  have h' := h.of_sublist (List.filter_sublist (p := (·.extnId ≠ sctListOid)))
  have htags (extensions : List Extension) :
      ∀ field ∈ fields ++ [extensionsField extensions], scope.tags field.tag := by
    intro field hfield
    rcases List.mem_append.mp hfield with hfield | hfield
    · exact h.tags field hfield
    · obtain rfl := List.mem_singleton.mp hfield
      exact h.extensionsTag
  have hextensions := (length_extensionsDer_le fields extensions).trans h.length
  have hfiltered := (length_extensionsDer_le fields _).trans h'.length
  -- the steps of the source in order: open, take the last field, filter, wrap, close
  unfold precertTbsDer
  rw [tbsDer, hder.anySequence _ (htags _) h.length, okOr_some, ok_bind, List.getLast?_concat,
    okOr_some, ok_bind, ensure_of (by rfl), ok_bind, extensionsField]
  dsimp only
  rw [hder.extensions _ h.oids hextensions, okOr_some, ok_bind,
    hder.extensionsToDer _ h'.oids hfiltered, okOr_some, ok_bind,
    hder.anyNew _ _ h.extensionsTag hfiltered, okOr_some, ok_bind, List.dropLast_concat]
  exact congrArg (okOr · invalidDer) (hder.anySequenceToDer _ (htags _) h'.length)

/-- The filter takes out just what was put in. -/
theorem filter_insertIdx {α : Type} {p : α → Bool} {x : α} {l : List α} (k : ℕ)
    (hx : p x = false) (hl : ∀ y ∈ l, p y = true) : (l.insertIdx k x).filter p = l := by
  induction l generalizing k with
  | nil => cases k <;> simp [hx]
  | cons y l ih =>
    obtain ⟨hy, hl⟩ := List.forall_mem_cons.mp hl
    -- the list goes in here, or further down the tail
    cases k with
    | zero => simp [hx, hy, List.filter_eq_self.mpr hl]
    | succ k => rw [List.insertIdx_succ_cons, List.filter_cons_of_pos hy, ih k hl]

/-- **The reconstruction undoes the embedding.**  Wherever among the extensions the SCT list was
    put, what is reconstructed is the encoding without it. -/
theorem precertTbsDer_insertIdx {X : Externals} {scope : DerScope}
    (hder : CanonicalDer X.der scope) {fields : List AnyRef} {extensions : List Extension}
    {sctList : Extension} {k : ℕ} (hsct : sctList.extnId = sctListOid)
    (hextensions : ∀ ext ∈ extensions, ext.extnId ≠ sctListOid)
    (hscope : scope.Holds fields (extensions.insertIdx k sctList)) :
    precertTbsDer X (tbsDer fields (extensions.insertIdx k sctList)) =
      .ok (tbsDer fields extensions) := by
  rw [precertTbsDer_tbsDer hder hscope, filter_insertIdx k (by simp [hsct])]
  intro ext hext
  exact decide_eq_true (hextensions ext hext)

/-! ### A library -/

namespace Sample

/-- The identifiers the library below has names for. -/
def knownOids : List Oid := [sctListOid, idCeKeyUsage]

/-- An identifier the library has a name for. -/
def readOid (content : Bytes) : Option Oid := knownOids.find? (objectIdentifier · = content)

/-- An extension, with its flag or without. -/
def readExtension (item : UInt8 × Bytes) : Option Extension :=
  if item.1 ≠ 0x30 then none
  else
    match readContents item.2.length item.2 with
    | some [(0x06, oid), (0x04, value)] => (readOid oid).map (⟨·, false, value⟩)
    | some [(0x06, oid), (0x01, [0xFF]), (0x04, value)] => (readOid oid).map (⟨·, true, value⟩)
    | _ => none

/-- The library: a reader of canonical DER, and writers. -/
def der : Der :=
  { (Externals.ofTexts []).der with
    anySequence := fun bytes =>
      (readConstructed 0x30 bytes).map (·.map fun item => ⟨item.1, item.2⟩)
    anySequenceToDer := fun fields => some (sequenceDer fields)
    anyNew := fun tag value => some ⟨tag, value⟩
    extensions := fun bytes => (readConstructed 0x30 bytes).bind (·.mapM readExtension)
    extensionsToDer := fun extensions => some (extensionsDer extensions) }

/-- What the library can represent. -/
def scope : DerScope := ⟨2 ^ 28 - 1, fun _ => True, (· ∈ knownOids)⟩

/-- Lengths within that scope can be written. -/
theorem representable {n : ℕ} (h : n ≤ scope.maxLength) : Representable n := by
  refine Representable.of_le (n := 2 ^ 28 - 1) ?_ h
  simp [Representable, bigEndian]

/-- A known identifier is read back. -/
theorem readOid_content {oid : Oid} (h : oid ∈ knownOids) :
    readOid (objectIdentifier oid) = some oid := by
  have hne : objectIdentifier sctListOid ≠ objectIdentifier idCeKeyUsage := by
    simp [objectIdentifier, sctListOid, idCeKeyUsage, base128, base128Leading]
  rcases List.mem_pair.mp h with rfl | rfl <;> simp [readOid, knownOids, hne]

/-- An extension with a known identifier is read back. -/
theorem readExtension_toTlv {ext : Extension} (hoid : ext.extnId ∈ knownOids)
    (hlength : ext.toTlv.2.length ≤ scope.maxLength) : readExtension ext.toTlv = some ext := by
  obtain ⟨oid, critical, value⟩ := ext
  -- a value inside a representable one is representable
  have hread (items : List (UInt8 × Bytes)) (h : (contents items).length ≤ scope.maxLength) :
      readContents (contents items).length (contents items) = some items := by
    refine readContents_contents (length_le_contents items) fun item hitem => representable ?_
    exact ((length_le_tlv _ _).le.trans (length_tlv_le_contents hitem)).trans h
  have hcontent := hread _ hlength
  unfold readExtension
  rw [if_neg (by simp [Extension.toTlv])]
  simp only [Extension.toTlv] at hcontent ⊢
  rw [hcontent]
  -- the two shapes an extension has, with and without its flag
  cases critical <;> simp [readOid_content hoid]

/-- The library reads what it writes. -/
theorem canonicalDer : CanonicalDer der scope where
  anySequence := by
    intro fields _ hlength
    have hread := readConstructed_tlv 0x30 (representable ((length_le_tlv _ _).le.trans hlength))
    simp only [der, sequenceDer, hread, Option.map_some, List.map_map]
    exact congrArg some (List.map_id fields)
  anySequenceToDer := fun _ _ _ => rfl
  anyNew := fun _ _ _ _ => rfl
  extensions := by
    intro extensions hoids hlength
    have hread := readConstructed_tlv 0x30 (representable ((length_le_tlv _ _).le.trans hlength))
    simp only [der, extensionsDer, hread, Option.bind_some]
    refine mapM_map_some fun ext hext => readExtension_toTlv (hoids ext hext) ?_
    have hitem := length_tlv_le_contents (List.mem_map_of_mem (f := Extension.toTlv) hext)
    exact (length_le_tlv _ _).le.trans (hitem.trans ((length_le_tlv _ _).le.trans hlength))
  extensionsToDer := fun _ _ _ => rfl

/-- An SCT list that makes the extensions, the wrapper and the whole long forms. -/
theorem precertTbsDer_embedded :
    precertTbsDer { Externals.ofTexts [] with der := der }
      (tbsDer [⟨0x02, [1]⟩] ([⟨idCeKeyUsage, true, [3, 2, 7, 128]⟩].insertIdx 1
        ⟨sctListOid, false, List.replicate 130 0⟩)) =
      .ok (tbsDer [⟨0x02, [1]⟩] [⟨idCeKeyUsage, true, [3, 2, 7, 128]⟩]) := by
  refine precertTbsDer_insertIdx canonicalDer rfl (by simp [idCeKeyUsage, sctListOid]) ?_
  constructor
  · intro field _
    trivial
  · trivial
  · simp [scope, knownOids]
  · decide +kernel

end Sample

end AttestationVerify
