import AttestationVerify.Client.Conformance
import AttestationVerify.JsonLines

namespace AttestationVerify

open Wire Wire.Json Wire.Serde

/-!
# The preflight of the conformance client

`reject_unsupported_bundle_shape` reads the bundle a second time, leniently and by pointers, before
the crate does.

* `parseStrict_collect` — what the strict parser accepts, the lenient one reads the same;
* `ShapeSeen` — what the pointers find in a document that is a bundle;
* `Conformance.rejectUnsupportedBundleShape_spec` — of the four refusals only two can meet a bundle
  the crate reads, and one of these alone a bundle that it accepts.
-/

variable {X : Externals}

/-- What the strict parser accepts, the lenient one reads the same. -/
theorem parseStrict_collect {bytes : Bytes} {v : Value} (h : parseStrict X bytes = .ok v) :
    (X.readJson bytes).collect = some v := by
  obtain ⟨hread, hstrict, -⟩ := parseStrict_eq_ok.mp h
  rw [hread, Reading.collect, if_pos rfl]
  exact collect_toTree hstrict

/-! ### Pointers into structs -/

/-- A name is no index. -/
theorem pointer_array {token : String} (h : parseIndex token.toList = none) (items : List Value)
    (tokens : List String) : (Value.array items).pointer (token :: tokens) = none := by
  rw [Value.pointer, h]
  rfl

/-- A pointer into an object goes on in the member of its first name. -/
theorem pointer_object (ms : Members) (token : String) (tokens : List String) :
    (Value.object ms).pointer (token :: tokens) =
      (member ms token).bind fun w => w.pointer tokens := rfl

/-- A struct is an object or an array. -/
theorem struct_eq_some {α : Type} {r : FieldReader α} {v : Value} {a : α}
    (h : struct r v = some a) :
    (∃ items, v = .array items) ∨ ∃ ms s, v = .object ms ∧ r (.members ms) = some (a, s) := by
  cases v with
  | object ms =>
    obtain ⟨⟨_, s⟩, hr, rfl⟩ := Option.map_eq_some_iff.mp h
    exact .inr ⟨ms, s, rfl, hr⟩
  | array items => exact .inl ⟨items, rfl⟩
  | null => cases h
  | bool b => cases h
  | number n => cases h
  | string s => cases h

/-- What the pointers find of a log entry: its kind, if it is written by name, and then also its
    time. -/
theorem entry_seen {entry : Value} {raw : RawTlogEntry} (h : rawTlogEntry entry = some raw) :
    (∀ kind, (entry.pointer ["kindVersion", "kind"]).bind Value.asStr = some kind →
      kind = raw.kindVersion.kind) ∧
    (∀ version, (entry.pointer ["kindVersion", "version"]).bind Value.asStr = some version →
      (entry.get "integratedTime").isSome) := by
  have hname : parseIndex "kindVersion".toList = none := by decide +kernel
  have hkind : parseIndex "kind".toList = none := by decide +kernel
  rcases struct_eq_some h with ⟨items, rfl⟩ | ⟨ms, s, rfl, hr⟩
  · rw [pointer_array hname, pointer_array hname]
    simp
  simp only [required_bind_eq_some] at hr
  obtain ⟨_, _, -, -, _, _, -, -, kindVersion, rawKind, hmember, hkindVersion, time, _, htime, -,
    hrest⟩ := hr
  have hraw : raw.kindVersion = rawKind := by
    simp only [defaulted_bind_eq_some, required_bind_eq_some] at hrest
    obtain ⟨_, -, _, -, _, _, -, -, hpure⟩ := hrest
    obtain ⟨rfl, -⟩ := Prod.mk.inj (Option.some.inj hpure)
    rfl
  rw [pointer_object, pointer_object, hmember, Option.bind_some, Option.bind_some]
  refine ⟨fun kind hfound => ?_, fun _ _ => ?_⟩
  · rcases struct_eq_some hkindVersion with ⟨items, rfl⟩ | ⟨ks, s', rfl, hks⟩
    · rw [pointer_array hkind] at hfound
      cases hfound
    · simp only [required_bind_eq_some] at hks
      obtain ⟨v, k, hk, hstring, _, _, -, -, hpure⟩ := hks
      obtain ⟨rfl, -⟩ := Prod.mk.inj (Option.some.inj hpure)
      rw [pointer_object, hk] at hfound
      cases v with
      | string s =>
        rw [hraw]
        exact (Option.some.inj hfound).symm.trans (Option.some.inj hstring)
      | _ => cases hstring
  · rw [Value.get, htime]
    rfl

/-- What the pointers find in a document that is a bundle. -/
structure ShapeSeen (value : Value) (raw : RawBundle) : Prop where
  mediaType : ∀ mediaType, (value.get "mediaType").bind Value.asStr = some mediaType →
    mediaType = raw.mediaType
  entry : ∀ entry, value.pointer ["verificationMaterial", "tlogEntries", "0"] = some entry →
    ∃ first rest, raw.verificationMaterial.tlogEntries = first :: rest ∧
      rawTlogEntry entry = some first

/-- What the preflight looks up in a bundle's document is what the bundle's fields are read from. -/
theorem shapeSeen {value : Value} {raw : RawBundle} (h : rawBundle value = some raw) :
    ShapeSeen value raw := by
  have hmaterial : parseIndex "verificationMaterial".toList = none := by decide +kernel
  have hentries : parseIndex "tlogEntries".toList = none := by decide +kernel
  have hzero : parseIndex "0".toList = some 0 := by decide +kernel
  rcases struct_eq_some h with ⟨items, rfl⟩ | ⟨ms, s, rfl, hr⟩
  · refine ⟨fun mediaType hfound => ?_, fun entry hfound => ?_⟩
    · cases hfound
    · rw [pointer_array hmaterial] at hfound
      cases hfound
  simp only [required_bind_eq_some] at hr
  obtain ⟨mediaType, text, hmedia, hstring, material, rawMaterial, hmember, hraw, _, _, -, -,
    hpure⟩ := hr
  obtain ⟨rfl, -⟩ := Prod.mk.inj (Option.some.inj hpure)
  refine ⟨fun found hfound => ?_, fun entry hfound => ?_⟩
  · rw [Value.get, hmedia] at hfound
    cases mediaType with
    | string s => exact (Option.some.inj hfound).symm.trans (Option.some.inj hstring)
    | _ => cases hstring
  · rw [pointer_object, hmember, Option.bind_some] at hfound
    rcases struct_eq_some hraw with ⟨items, rfl⟩ | ⟨vs, s', rfl, hvs⟩
    · rw [pointer_array hentries] at hfound
      cases hfound
    · simp only [required_bind_eq_some, defaulted_bind_eq_some] at hvs
      obtain ⟨_, _, -, -, entries, hlist, _, -, hpure'⟩ := hvs
      obtain ⟨rfl, -⟩ := Prod.mk.inj (Option.some.inj hpure')
      rw [pointer_object] at hfound
      rcases hlist with ⟨hnone, -⟩ | ⟨list, hsome, hseq⟩
      · rw [hnone] at hfound
        cases hfound
      · rw [hsome, Option.bind_some] at hfound
        cases list with
        | array items =>
          cases items with
          | nil =>
            rw [Value.pointer, hzero] at hfound
            cases hfound
          | cons first rest =>
            rw [Value.pointer, hzero] at hfound
            obtain rfl : first = entry := Option.some.inj hfound
            have hmap : (first :: rest).mapM rawTlogEntry = some entries := hseq
            rw [List.mapM_cons] at hmap
            obtain ⟨rawFirst, hfirst, hrest⟩ := Option.bind_eq_some_iff.mp hmap
            obtain ⟨rawRest, -, hcons⟩ := Option.bind_eq_some_iff.mp hrest
            exact ⟨rawFirst, rawRest, (Option.some.inj hcons).symm, hfirst⟩
        | _ => cases hseq

namespace Conformance

variable {host : Host}

/-- The document names a public key for the bundle's signature. -/
def HasPublicKey (X : Externals) (bytes : Bytes) : Prop :=
  ∃ value key, parseStrict X bytes = .ok value ∧
    value.pointer ["verificationMaterial", "publicKey"] = some key ∧ key.isNull = false

/-- The entry the pointers find and the bundle's first one are of one kind. -/
theorem kind_of_fromRaw {raw : RawBundle} {bundle : Bundle} {first : RawTlogEntry}
    {rest : List RawTlogEntry} (h : Bundle.fromRaw raw = .ok bundle)
    (hentries : raw.verificationMaterial.tlogEntries = first :: rest) :
    ∃ entry entries, bundle.verificationMaterial.tlogEntries = entry :: entries ∧
      entry.kind = first.kindVersion.kind := by
  simp only [Bundle.fromRaw, VerificationMaterial.fromRaw, bind_eq_ok, pure_eq_ok,
    Except.ok.injEq, hentries] at h
  obtain ⟨_, -, _, ⟨_, -, _, -, entries, hmap, _, -, rfl⟩, _, -, rfl⟩ := h
  obtain ⟨entry, entries, hentry, -, rfl⟩ := List.forall₂_cons_left_iff.mp (mapM_eq_ok.mp hmap)
  refine ⟨entry, entries, rfl, ?_⟩
  simp only [TlogEntry.fromRaw, bind_eq_ok, pure_eq_ok, Except.ok.injEq] at hentry
  obtain ⟨_, -, _, -, _, -, _, -, _, -, _, -, rfl⟩ := hentry
  rfl

/-- The kind the pointers find. -/
def kindSeen (value : Value) : Option Str :=
  ((value.pointer ["verificationMaterial", "tlogEntries", "0"]).bind
    (·.pointer ["kindVersion", "kind"])).bind Value.asStr

/-- Of a bundle the preflight looks at the public key and the kind; an entry written by name has its
    time, and the media type is the one. -/
theorem rejectUnsupportedBundleShape_eq {bytes : Bytes} {value : Value} {raw : RawBundle}
    (hstrict : parseStrict host.externals bytes = .ok value) (hraw : rawBundle value = some raw)
    (hmedia : raw.mediaType = bundleMediaType) :
    rejectUnsupportedBundleShape host bytes = (do
      ensure ((value.pointer ["verificationMaterial", "publicKey"]).any
        (fun key => !key.isNull) = false) managedKey
      ensure (kindSeen value ≠ some "hashedrekord".toList) hashedRekord) := by
  have hseen := shapeSeen hraw
  have hversion : ¬ (((value.pointer ["verificationMaterial", "tlogEntries", "0"]).bind
      (·.pointer ["kindVersion", "version"])).bind Value.asStr = some "0.0.2".toList ∧
      ((value.pointer ["verificationMaterial", "tlogEntries", "0"]).bind
        (·.get "integratedTime")).isSome = false) := by
    rintro ⟨hversion, htime⟩
    cases hentry : value.pointer ["verificationMaterial", "tlogEntries", "0"] with
    | none =>
      rw [hentry] at hversion
      cases hversion
    | some entry =>
      rw [hentry, Option.bind_some] at hversion htime
      obtain ⟨first, -, -, hfirst⟩ := hseen.entry entry hentry
      rw [(entry_seen hfirst).2 _ hversion] at htime
      cases htime
  rw [rejectUnsupportedBundleShape, parseStrict_collect hstrict]
  refine congrArg (ensure _ managedKey >>= ·) (funext fun _ => ?_)
  show (ensure _ rekorV2 >>= fun _ => ensure (kindSeen value ≠ _) hashedRekord >>= fun _ => _) = _
  rw [ensure_of hversion, ok_bind]
  cases hfound : (value.get "mediaType").bind Value.asStr with
  | none => cases ensure (kindSeen value ≠ some "hashedrekord".toList) hashedRekord <;> rfl
  | some mediaType =>
    simp only [ensure_of ((hseen.mediaType mediaType hfound).trans hmedia)]
    cases ensure (kindSeen value ≠ some "hashedrekord".toList) hashedRekord <;> rfl

/-- The kind it looks at is that of the bundle's first entry. -/
theorem kindSeen_eq {value : Value} {raw : RawBundle} {bundle : Bundle} {kind : Str}
    (hraw : rawBundle value = some raw) (hbundle : Bundle.fromRaw raw = .ok bundle)
    (hkind : kindSeen value = some kind) :
    ∃ entry entries, bundle.verificationMaterial.tlogEntries = entry :: entries ∧
      entry.kind = kind := by
  obtain ⟨text, htext, -⟩ := Option.bind_eq_some_iff.mp hkind
  obtain ⟨entry, hentry, -⟩ := Option.bind_eq_some_iff.mp htext
  obtain ⟨first, rest, hentries, hfirst⟩ := (shapeSeen hraw).entry entry hentry
  rw [kindSeen, hentry, Option.bind_some] at hkind
  rw [(entry_seen hfirst).1 kind hkind]
  exact kind_of_fromRaw hbundle hentries

/-- A body that parses is of the one kind. -/
theorem kind_of_parseTlogEntryBody {canonicalizedBody : Bytes} {body : TlogEntryBody}
    (h : parseTlogEntryBody X canonicalizedBody = .ok body) : body.kind = tlogEntryKind := by
  simp only [parseTlogEntryBody, bind_eq_ok] at h
  obtain ⟨_, -, raw, -, h⟩ := h
  obtain ⟨_, hkind, h⟩ := bind_eq_ok.mp h
  rw [ensure_eq_ok] at hkind
  split at h
  · simp only [bind_eq_ok, pure_eq_ok, Except.ok.injEq] at h
    obtain ⟨_, -, _, -, _, -, _, -, _, -, _, -, _, -, rfl⟩ := h
    exact hkind.1
  · cases h

/-- The entry of every bundle that is accepted has the supported kind. -/
theorem kind_of_verifyDigest {verifier : Verifier X} {subject : Subject} {bundle : Bundle}
    {report : VerificationReport} (hok : verifier.verifyDigest subject bundle = .ok report) :
    ∃ entry, bundle.verificationMaterial.tlogEntries = [entry] ∧ entry.kind = tlogEntryKind := by
  obtain ⟨_, _, entry, _, _, haccepted, -⟩ := Verifier.verifyDigest_eq_ok.mp hok
  obtain ⟨body, _, _, _, _, h⟩ := haccepted.entry
  exact ⟨entry, h.entries, h.bound.kind.trans (kind_of_parseTlogEntryBody h.parsed)⟩

/-- A bundle that is read has its document, and the one media type. -/
theorem exists_rawBundle {bytes : Bytes} {bundle : Bundle}
    (h : Bundle.fromJson X bytes = .ok bundle) :
    ∃ value raw, parseStrict X bytes = .ok value ∧ rawBundle value = some raw ∧
      raw.mediaType = bundleMediaType ∧ Bundle.fromRaw raw = .ok bundle := by
  simp only [Bundle.fromJson, bind_eq_ok, fromValue, okOr_eq_ok] at h
  obtain ⟨_, -, value, hstrict, raw, hraw, hbundle⟩ := h
  have hmedia : raw.mediaType = bundleMediaType := by
    simp only [Bundle.fromRaw, bind_eq_ok, ensure_eq_ok] at hbundle
    obtain ⟨_, hmedia, -⟩ := hbundle
    exact hmedia
  exact ⟨value, raw, hstrict, hraw, hmedia, hbundle⟩

/-- The public key it looks for is there when it is present and not `null`. -/
theorem hasPublicKey_iff {bytes : Bytes} {value : Value} (h : parseStrict X bytes = .ok value) :
    HasPublicKey X bytes ↔
      ¬ (value.pointer ["verificationMaterial", "publicKey"]).any (fun key => !key.isNull) =
        false := by
  rw [Bool.not_eq_false, Option.any_eq_true]
  constructor
  · rintro ⟨value', key, hvalue', hkey, hnull⟩
    obtain rfl := Except.ok.inj (h.symm.trans hvalue')
    exact ⟨key, hkey, by rw [hnull]; rfl⟩
  · rintro ⟨key, hkey, hnull⟩
    exact ⟨value, key, h, hkey, Bool.not_eq_true' _ |>.mp hnull⟩

/-- Of a bundle that is accepted only a public key is refused. -/
theorem rejectUnsupportedBundleShape_of_accepted {bytes : Bytes} {bundle : Bundle}
    (h : Bundle.fromJson host.externals bytes = .ok bundle) {verifier : Verifier host.externals}
    {subject : Subject} {report : VerificationReport}
    (hok : verifier.verifyDigest subject bundle = .ok report) :
    rejectUnsupportedBundleShape host bytes = .ok () ↔ ¬ HasPublicKey host.externals bytes := by
  obtain ⟨value, raw, hstrict, hraw, hmedia, hbundle⟩ := exists_rawBundle h
  have hkind : kindSeen value ≠ some "hashedrekord".toList := by
    intro hkind
    obtain ⟨entry, entries, hentries, heq⟩ := kindSeen_eq hraw hbundle hkind
    obtain ⟨entry', hentry', hdsse⟩ := kind_of_verifyDigest hok
    obtain ⟨rfl, -⟩ := List.cons.inj (hentries.symm.trans hentry')
    exact absurd (heq.symm.trans hdsse) (by decide +kernel)
  rw [hasPublicKey_iff hstrict, rejectUnsupportedBundleShape_eq hstrict hraw hmedia,
    ensure_of hkind, bind_eq_ok, not_not]
  simp

/-- **The preflight only changes what is reported.**  Of a text the crate reads as a bundle it
    refuses exactly those with a public key and, of the rest, those it sees to be of a
    `hashedrekord` entry, which no verifier accepts; so a bundle some verifier accepts passes
    precisely when it has no public key beside its certificate. -/
theorem rejectUnsupportedBundleShape_spec (host : Host) {bytes : Bytes} {bundle : Bundle}
    (h : Bundle.fromJson host.externals bytes = .ok bundle) :
    (rejectUnsupportedBundleShape host bytes = .error managedKey ↔
      HasPublicKey host.externals bytes) ∧
    (∀ e, rejectUnsupportedBundleShape host bytes = .error e → e = managedKey ∨
      e = hashedRekord ∧ ∃ entry entries,
        bundle.verificationMaterial.tlogEntries = entry :: entries ∧
        entry.kind = "hashedrekord".toList) ∧
    ∀ (verifier : Verifier host.externals) subject report,
      verifier.verifyDigest subject bundle = .ok report →
      (rejectUnsupportedBundleShape host bytes = .ok () ↔ ¬ HasPublicKey host.externals bytes) := by
  obtain ⟨value, raw, hstrict, hraw, hmedia, hbundle⟩ := exists_rawBundle h
  have hdiffer : managedKey ≠ hashedRekord := by
    unfold managedKey hashedRekord
    decide +kernel
  refine ⟨?_, fun e he => ?_, fun verifier subject report hok => ?_⟩
  · rw [hasPublicKey_iff hstrict, rejectUnsupportedBundleShape_eq hstrict hraw hmedia]
    simp only [bind_eq_error, ensure_eq_error, and_true]
    constructor
    · rintro (hkey | ⟨_, -, -, heq⟩)
      · exact hkey
      · exact absurd heq.symm hdiffer
    · exact .inl
  · rw [rejectUnsupportedBundleShape_eq hstrict hraw hmedia] at he
    simp only [bind_eq_error, ensure_eq_error] at he
    rcases he with ⟨-, rfl⟩ | ⟨_, -, hkind, rfl⟩
    · exact .inl rfl
    · exact .inr ⟨rfl, kindSeen_eq hraw hbundle (not_not.mp hkind)⟩
  · exact rejectUnsupportedBundleShape_of_accepted h hok

/-- A host without files that knows the text of one bundle. -/
def shapeHost : Host := ⟨laterEntryExternals, fun _ => none, [], fun _ => false⟩

/-- The preflight on the bundle with log index 7. -/
theorem rejectUnsupportedBundleShape_laterEntry :
    (rejectUnsupportedBundleShape shapeHost laterEntryText = .error managedKey ↔
      HasPublicKey laterEntryExternals laterEntryText) ∧
    (∀ e, rejectUnsupportedBundleShape shapeHost laterEntryText = .error e → e = managedKey ∨
      e = hashedRekord ∧ ∃ entry entries,
        laterEntrySample.verificationMaterial.tlogEntries = entry :: entries ∧
        entry.kind = "hashedrekord".toList) ∧
    ∀ (verifier : Verifier laterEntryExternals) subject report,
      verifier.verifyDigest subject laterEntrySample = .ok report →
      (rejectUnsupportedBundleShape shapeHost laterEntryText = .ok () ↔
        ¬ HasPublicKey laterEntryExternals laterEntryText) :=
  rejectUnsupportedBundleShape_spec shapeHost (fromJson_of_printsLine printsLine_laterEntry)

end Conformance

end AttestationVerify
