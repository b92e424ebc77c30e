import AttestationVerify.Bundle

namespace AttestationVerify

open Wire Wire.Json Wire.Serde

/-!
# The attestations API response

What `BundleSet.fromGithubResponse` makes of a response as the API sends it (the shape of the
captured fixture `attestations-api-response.redacted.json`).

* `Attestation`, `IsResponse` — one entry of a response, and the documents that spell a list of
  them, object members in any order;
* `fromGithubResponse_eq_ok` — the result, entry by entry: order and inline bundles are kept, while
  `repository_id` and `bundle_url` are never read;
* `fromGithubResponse_carries_iff` — hence the conversion is the intended one exactly when it fails
  on an inline document or there was nothing to lose.
-/

/-- An inline bundle document: what the reader finds in it, and the same document as a text of its
    own. -/
structure InlineDocument where
  tree : Tree
  text : Bytes

/-- One attestation as the API sends it; `none` is `null`. -/
structure Attestation where
  initiator : Str
  repositoryId : Option UInt64
  bundleUrl : Option Str
  bundle : Option InlineDocument

/-- The members of an entry, under the names of the fixture. -/
def Attestation.members (a : Attestation) : List (Str × Tree) :=
  [("repository_id".toList, (a.repositoryId.map fun n => Tree.number (.posInt n)).getD .null),
   ("bundle_url".toList, (a.bundleUrl.map Tree.string).getD .null),
   ("initiator".toList, .string a.initiator),
   ("bundle".toList, (a.bundle.map InlineDocument.tree).getD .null)]

/-- The tree is an object with the attestation's members in some order. -/
def Attestation.IsSpelled (a : Attestation) (t : Tree) : Prop :=
  ∃ members, t = .object members true ∧ members.Perm a.members

/-- `bytes` is a response listing `attestations`, within the parser's limits. -/
structure IsResponse (X : Externals) (bytes : Bytes) (attestations : List Attestation) : Prop where
  spelled : ∃ items, List.Forall₂ Attestation.IsSpelled attestations items ∧
    X.readJson bytes = ⟨.object [("attestations".toList, .array items true)] true, true⟩
  size : bytes.length ≤ maxInputBytes
  nodes : (X.readJson bytes).tree.nodes ≤ maxJsonNodes
  count : attestations.length ≤ maxBundlesPerSet
  inline : ∃ a ∈ attestations, a.bundle ≠ none
  document : ∀ a ∈ attestations, ∀ d, a.bundle = some d →
    d.tree ≠ .null ∧ X.readJson d.text = ⟨d.tree, true⟩ ∧ d.text.length ≤ maxInputBytes

/-- The inline document converts on its own. -/
def InlineDocument.Converts (X : Externals) (d : InlineDocument) : Prop :=
  ∃ b, Bundle.fromJson X d.text = .ok b

/-- `e` carries the initiator of `a`, and its inline bundle converted as on its own. -/
structure Attestation.CarriesBundle (X : Externals) (a : Attestation) (e : AttestationEntry) :
    Prop where
  initiator : e.initiator = a.initiator
  bundle : Option.Rel (fun d b => Bundle.fromJson X d.text = .ok b) a.bundle e.bundle

/-- `e` carries the acquisition metadata of `a`. -/
structure Attestation.CarriesMetadata (a : Attestation) (e : AttestationEntry) : Prop where
  repositoryId : e.repositoryId = a.repositoryId
  bundleUrl : e.bundleUrl = a.bundleUrl

/-! ### One inline document -/

section Document

variable {X : Externals} {d : InlineDocument}

/-- Parsed on its own, a strict inline document converts as inside the response. -/
theorem fromJson_document {v : Value} (hread : X.readJson d.text = ⟨d.tree, true⟩)
    (hsize : d.text.length ≤ maxInputBytes) (hnodes : d.tree.nodes ≤ maxJsonNodes)
    (hv : Denotes d.tree v) : Bundle.fromJson X d.text = Bundle.fromInline v := by
  obtain ⟨htree, hstrict⟩ := hv
  have hsize' : checkInputSize d.text = .ok () := checkInputSize_eq_ok.mpr hsize
  have hparse : parseStrict X d.text = .ok v :=
    parseStrict_eq_ok.mpr ⟨by rw [hread, htree], hstrict, htree ▸ hnodes⟩
  simp [Bundle.fromJson, hsize', hparse, Bundle.fromInline]

/-- A document that converts is strict. -/
theorem denotes_of_fromJson {b : Bundle} (hread : X.readJson d.text = ⟨d.tree, true⟩)
    (h : Bundle.fromJson X d.text = .ok b) : ∃ v, Denotes d.tree v := by
  simp only [Bundle.fromJson, bind_eq_ok] at h
  obtain ⟨_, _, v, hparse, _⟩ := h
  obtain ⟨hv, hstrict, -⟩ := parseStrict_eq_ok.mp hparse
  rw [hread] at hv
  exact ⟨v, by injection hv, hstrict⟩

end Document

/-! ### One entry -/

section Entry

variable {X : Externals} {a : Attestation} {t : Tree}

/-- What the raw decoder reads of an entry: its initiator and its inline document. -/
structure Attestation.ReadsAs (a : Attestation) (raw : RawAttestationEntry) : Prop where
  initiator : raw.initiator = a.initiator
  repositoryId : raw.repositoryId = none
  bundleUrl : raw.bundleUrl = none
  bundle : Option.Rel (fun d v => Denotes d.tree v) a.bundle raw.bundle

/-- The four names an attestation has. -/
theorem Attestation.keys_members (a : Attestation) :
    a.members.map Prod.fst =
      ["repository_id".toList, "bundle_url".toList, "initiator".toList, "bundle".toList] := rfl

/-- In no order is a name repeated. -/
theorem Attestation.keys_nodup {a : Attestation} {members : List (Str × Tree)}
    (h : members.Perm a.members) : (members.map Prod.fst).Nodup := by
  rw [(h.map Prod.fst).nodup_iff, a.keys_members]
  decide

/-- An entry is strict when its inline document is. -/
theorem exists_denotes_entry (ht : a.IsSpelled t) :
    (∃ v, Denotes t v) ↔ ∀ d, a.bundle = some d → ∃ v, Denotes d.tree v := by
  obtain ⟨members, rfl, hperm⟩ := ht
  rw [exists_denotes_object]
  have hmem : (∀ m ∈ members, ∃ v, Denotes m.2 v) ↔ ∀ m ∈ a.members, ∃ v, Denotes m.2 v :=
    ⟨fun h m hm => h m (hperm.mem_iff.mpr hm), fun h m hm => h m (hperm.mem_iff.mp hm)⟩
  rw [hmem, and_iff_right (Attestation.keys_nodup hperm)]
  simp only [Attestation.members, List.forall_mem_cons, List.not_mem_nil, false_imp_iff,
    implies_true, and_true]
  -- every member but the document is strict by itself
  have hid : ∃ v, Denotes ((a.repositoryId.map fun n => Tree.number (.posInt n)).getD .null) v := by
    cases a.repositoryId with
    | none => exact ⟨_, denotes_null⟩
    | some n => exact ⟨_, denotes_posInt n⟩
  have hurl : ∃ v, Denotes ((a.bundleUrl.map Tree.string).getD .null) v := by
    cases a.bundleUrl with
    | none => exact ⟨_, denotes_null⟩
    | some s => exact ⟨_, denotes_string s⟩
  have hinit : ∃ v, Denotes (.string a.initiator) v := ⟨_, denotes_string _⟩
  rw [and_iff_right hid, and_iff_right hurl, and_iff_right hinit]
  cases a.bundle with
  | none => simpa using ⟨_, denotes_null⟩
  | some d => simp

/-- **The slip.**  The raw decoder looks `repository_id` and `bundle_url` up under other names. -/
theorem rawAttestationEntry_spelled {v : Value} (ht : a.IsSpelled t)
    (hdoc : ∀ d, a.bundle = some d → d.tree ≠ .null) (hv : Denotes t v) :
    ∃ raw, rawAttestationEntry v = some raw ∧ a.ReadsAs raw := by
  obtain ⟨members, rfl, hperm⟩ := ht
  obtain ⟨htree, hstrict⟩ := hv
  obtain ⟨ms, rfl, rfl, -⟩ := toTree_eq_object.mp htree.symm
  obtain ⟨hnodup, hms⟩ := strict_object.mp hstrict
  have hkeys : ∀ k, k ∈ ms.map Prod.fst ↔ k ∈ a.members.map Prod.fst := by
    intro k
    rw [← (hperm.map Prod.fst).mem_iff]
    simp [Function.comp_def]
  -- the names the decoder asks for are not among those of the response
  have habsent : ∀ k : String, k.toList ∉ a.members.map Prod.fst → member ms k = none :=
    fun k hk => lookup_of_not_mem fun h => hk ((hkeys _).mp h)
  have hid : member ms "repositoryId" = none :=
    habsent _ (by rw [a.keys_members]; decide)
  have hurl : member ms "bundleUrl" = none :=
    habsent _ (by rw [a.keys_members]; decide)
  obtain ⟨wi, hinit, hwi, -⟩ := member_toTree_of_mem "initiator"
    (t := .string a.initiator) hnodup (hperm.mem_iff.mpr (by simp [Attestation.members]))
  obtain ⟨wb, hbundle, hwb, hwbmem⟩ := member_toTree_of_mem "bundle"
    (t := (a.bundle.map InlineDocument.tree).getD .null) hnodup
    (hperm.mem_iff.mpr (by simp [Attestation.members]))
  obtain rfl := toTree_eq_string.mp hwi
  -- so the two members take their defaults, whatever the entry says
  have hraw : ∀ o, nullable value wb = some o → ∃ raw,
      rawAttestationEntry (.object ms) = some raw ∧ raw = ⟨a.initiator, none, none, o⟩ := by
    intro o ho
    refine ⟨_, ?_, rfl⟩
    simp only [rawAttestationEntry, struct_object, bind_apply, required_members, hinit,
      defaulted_absent _ _ hid, defaulted_absent _ _ hurl, defaulted_present _ _ hbundle, ho,
      Option.bind_some, string, Option.map_some, pure_apply]
  cases hb : a.bundle with
  | none =>
    rw [hb] at hwb
    obtain rfl := toTree_eq_null.mp hwb
    obtain ⟨raw, hraw, rfl⟩ := hraw none rfl
    exact ⟨_, hraw, rfl, rfl, rfl, hb ▸ .none⟩
  | some d =>
    have hne := hdoc d hb
    rw [hb] at hwb
    -- a document that is not `null` is not taken for an absent one
    have hnn : nullable value wb = some (some wb) := by
      cases wb with
      | null => exact absurd hwb.symm hne
      | _ => rfl
    obtain ⟨raw, hraw, rfl⟩ := hraw (some wb) hnn
    exact ⟨_, hraw, rfl, rfl, rfl, hb ▸ .some ⟨hwb.symm, hms _ hwbmem⟩⟩

/-- The converted entry carries the inline bundle, and no metadata. -/
theorem fromRaw_readsAs {raw : RawAttestationEntry} {e : AttestationEntry} (hraw : a.ReadsAs raw)
    (hdoc : ∀ d, a.bundle = some d → X.readJson d.text = ⟨d.tree, true⟩ ∧
      d.text.length ≤ maxInputBytes ∧ d.tree.nodes ≤ maxJsonNodes) :
    AttestationEntry.fromRaw raw = .ok e ↔
      a.CarriesBundle X e ∧ e.repositoryId = none ∧ e.bundleUrl = none := by
  have hbundle : ∀ o : Option Bundle, raw.bundle.mapM Bundle.fromInline = .ok o ↔
      Option.Rel (fun d b => Bundle.fromJson X d.text = .ok b) a.bundle o := by
    intro o
    rw [optionMapM_eq_ok]
    have hrel := hraw.bundle
    generalize raw.bundle = rb at hrel
    cases hab : a.bundle with
    | none =>
      rw [hab] at hrel
      cases hrel
      constructor <;> rintro ⟨⟩ <;> exact .none
    | some d =>
      rw [hab] at hrel
      obtain ⟨hread, hsize, hnodes⟩ := hdoc d hab
      cases hrel with
      | some hd =>
        -- the inline value converts as its own text would
        have hconv := fromJson_document hread hsize hnodes hd
        constructor
        · intro h
          cases h with
          | some hx => exact .some (hconv.trans hx)
        · intro h
          cases h with
          | some hx => exact .some (hconv.symm.trans hx)
  simp only [AttestationEntry.fromRaw, bind_eq_ok, pure_eq_ok, Except.ok.injEq, hbundle]
  constructor
  · intro h
    obtain ⟨o, ho, rfl⟩ := h
    exact ⟨⟨hraw.initiator, ho⟩, hraw.repositoryId, hraw.bundleUrl⟩
  · intro h
    obtain ⟨⟨hinit, ho⟩, hid, hurl⟩ := h
    refine ⟨e.bundle, ho, ?_⟩
    rw [hraw.initiator, hraw.repositoryId, hraw.bundleUrl, ← hinit, ← hid, ← hurl]

/-- A document carried over converts on its own. -/
theorem Attestation.CarriesBundle.converts {e : AttestationEntry} (h : a.CarriesBundle X e)
    {d : InlineDocument} (hd : a.bundle = some d) :
    ∃ b, e.bundle = some b ∧ Bundle.fromJson X d.text = .ok b := by
  have hrel := h.bundle
  rw [hd] at hrel
  generalize e.bundle = converted at hrel
  cases hrel with
  | some hb => exact ⟨_, rfl, hb⟩

/-- The entries are converted one by one, each with the bundle it carries. -/
theorem mapM_fromRaw_readsAs {attestations : List Attestation} {raws : List RawAttestationEntry}
    (hreads : List.Forall₂ Attestation.ReadsAs attestations raws)
    (hdoc : ∀ a ∈ attestations, ∀ d, a.bundle = some d → X.readJson d.text = ⟨d.tree, true⟩ ∧
      d.text.length ≤ maxInputBytes ∧ d.tree.nodes ≤ maxJsonNodes) (es : List AttestationEntry) :
    raws.mapM AttestationEntry.fromRaw = .ok es ↔
      List.Forall₂ (fun a e => a.CarriesBundle X e ∧ e.repositoryId = none ∧ e.bundleUrl = none)
        attestations es := by
  rw [mapM_eq_ok]
  induction hreads generalizing es with
  | nil => simp
  | cons hx _ ih =>
    obtain ⟨hhead, htail⟩ := List.forall_mem_cons.mp hdoc
    simp only [List.forall₂_cons_left_iff, fromRaw_readsAs hx hhead, ih htail]

end Entry

/-! ### The whole response -/

section Response

variable {X : Externals} {bytes : Bytes} {attestations : List Attestation}

/-- What a response's documents satisfy, with the node limit of the whole passed to each. -/
theorem IsResponse.document_limits (h : IsResponse X bytes attestations) {a : Attestation}
    (ha : a ∈ attestations) {d : InlineDocument} (hd : a.bundle = some d) :
    X.readJson d.text = ⟨d.tree, true⟩ ∧ d.text.length ≤ maxInputBytes ∧
      d.tree.nodes ≤ maxJsonNodes := by
  obtain ⟨-, hread, hsize⟩ := h.document a ha d hd
  refine ⟨hread, hsize, le_trans ?_ h.nodes⟩
  obtain ⟨items, hspell, hreading⟩ := h.spelled
  obtain ⟨t, ht, hat⟩ := exists_partner hspell ha
  obtain ⟨members, rfl, hperm⟩ := hat
  -- the document is a part of the response, and has no more nodes
  have hmem : ("bundle".toList, d.tree) ∈ members := by
    rw [hperm.mem_iff]; simp [Attestation.members, hd]
  have hentry : d.tree.nodes ≤ nodesMembers members := nodes_le_nodesMembers hmem
  have hitem := nodes_le_nodesItems ht
  rw [hreading]
  simp only [Tree.nodes, nodesMembers] at hitem ⊢
  omega

/-- The response is strict when its inline documents are. -/
theorem IsResponse.exists_denotes (h : IsResponse X bytes attestations) :
    (∃ v, Denotes (X.readJson bytes).tree v) ↔
      ∀ a ∈ attestations, ∀ d, a.bundle = some d → ∃ v, Denotes d.tree v := by
  obtain ⟨items, hspell, hreading⟩ := h.spelled
  have hitems : (∀ t ∈ items, ∃ v, Denotes t v) ↔
      ∀ a ∈ attestations, ∀ d, a.bundle = some d → ∃ v, Denotes d.tree v := by
    clear hreading h
    induction hspell with
    | nil => simp
    | cons hx _ ih => rw [List.forall_mem_cons, List.forall_mem_cons, ih, exists_denotes_entry hx]
  rw [hreading, exists_denotes_object, ← hitems, ← exists_denotes_array]
  simp

/-- The raw decoder reads the entries in order. -/
theorem IsResponse.rawGithubResponse (h : IsResponse X bytes attestations) {v : Value}
    (hv : Denotes (X.readJson bytes).tree v) :
    ∃ raws, rawGithubResponse v = some ⟨raws⟩ ∧
      List.Forall₂ Attestation.ReadsAs attestations raws := by
  obtain ⟨items, hspell, hreading⟩ := h.spelled
  rw [hreading] at hv
  obtain ⟨htree, hstrict⟩ := hv
  obtain ⟨ms, rfl, hms, -⟩ := toTree_eq_object.mp htree.symm
  obtain ⟨⟨k, w⟩, rfl⟩ : ∃ m, ms = [m] :=
    List.length_eq_one_iff.mp (by simpa using (congrArg List.length hms).symm)
  simp only [List.map_cons, List.map_nil, List.cons.injEq, Prod.mk.injEq, and_true] at hms
  obtain ⟨rfl, hw⟩ := hms
  obtain ⟨vs, rfl, rfl, -⟩ := toTree_eq_array.mp hw.symm
  have hvs : ∀ v ∈ vs, v.Strict := by simpa using (strict_object.mp hstrict).2
  have hdoc : ∀ a ∈ attestations, ∀ d, a.bundle = some d → d.tree ≠ .null :=
    fun a ha d hd => (h.document a ha d hd).1
  -- entry by entry along the list of attestations
  have hlist : ∃ raws, vs.mapM rawAttestationEntry = some raws ∧
      List.Forall₂ Attestation.ReadsAs attestations raws := by
    clear h hreading htree hw hstrict
    rw [List.forall₂_map_right_iff] at hspell
    induction hspell with
    | nil => exact ⟨[], rfl, .nil⟩
    | cons hx _ ih =>
      obtain ⟨raw, hraw, hreads⟩ :=
        rawAttestationEntry_spelled hx (hdoc _ (by simp)) ⟨rfl, hvs _ (by simp)⟩
      obtain ⟨raws, hraws, hrest⟩ :=
        ih (fun v hv => hvs v (by simp [hv])) fun a ha => hdoc a (by simp [ha])
      exact ⟨raw :: raws, by rw [List.mapM_cons, hraw, hraws]; rfl, .cons hreads hrest⟩
  obtain ⟨raws, hraws, hreads⟩ := hlist
  have hlookup : member [("attestations".toList, Value.array vs)] "attestations"
      = some (.array vs) := by simp [member]
  refine ⟨raws, ?_, hreads⟩
  simp only [AttestationVerify.rawGithubResponse, struct_object, bind_apply, required_members,
    hlookup, seq, hraws, Option.bind_some, Option.map_some, pure_apply]

/-- **What the container conversion returns.**  One entry for each attestation, in order, with its
    initiator and its inline bundle converted as on its own; the bundles are the entries' bundles.
    Repository ids and bundle urls are dropped. -/
theorem fromGithubResponse_eq_ok (h : IsResponse X bytes attestations) {set : BundleSet} :
    BundleSet.fromGithubResponse X bytes = .ok set ↔
      List.Forall₂ (fun a e => a.CarriesBundle X e ∧ e.repositoryId = none ∧ e.bundleUrl = none)
        attestations set.entries ∧
      set.bundles = set.entries.filterMap (·.bundle) := by
  have hsize : checkInputSize bytes = .ok () := checkInputSize_eq_ok.mpr h.size
  by_cases hden : ∃ v, Denotes (X.readJson bytes).tree v
  · -- every check before the conversion of the entries passes
    obtain ⟨v, hv⟩ := hden
    have hended : (X.readJson bytes).ended = true := by
      obtain ⟨items, -, hreading⟩ := h.spelled
      rw [hreading]
    have hparse : parseStrict X bytes = .ok v := by
      refine parseStrict_eq_ok.mpr ⟨?_, hv.2, hv.1 ▸ h.nodes⟩
      rw [← hv.1, ← hended]
    obtain ⟨raws, hraws, hreads⟩ := h.rawGithubResponse hv
    have hentries := mapM_fromRaw_readsAs hreads fun a ha _ hd => h.document_limits ha hd
    have hlen := hreads.length_eq
    have hcount : checkCount raws maxBundlesPerSet .tooManyBundles = .ok () :=
      checkCount_eq_ok.mpr (hlen ▸ h.count)
    have hnil : raws ≠ [] := by
      obtain ⟨a, ha, -⟩ := h.inline
      rintro rfl
      rw [List.length_eq_zero_iff.mp hlen] at ha
      simp at ha
    simp only [BundleSet.fromGithubResponse, hsize, hparse, fromValue, hraws, okOr_some, ok_bind,
      bind_eq_ok, ensure_eq_ok, hcount, hentries, pure_eq_ok, Except.ok.injEq]
    constructor
    · intro h
      obtain ⟨_, _, es, hes, _, _, rfl⟩ := h
      exact ⟨hes, rfl⟩
    · rintro ⟨hes, hbundles⟩
      refine ⟨(), hnil, set.entries, hes, (), ?_, ?_⟩
      · -- the entry of the inline attestation carries a bundle
        obtain ⟨a, ha, hinline⟩ := h.inline
        obtain ⟨e, he, hcarries, -⟩ := exists_partner hes ha
        obtain ⟨d, hd⟩ := Option.ne_none_iff_exists'.mp hinline
        obtain ⟨b, hb, -⟩ := hcarries.converts hd
        intro hempty
        have hnone := List.filterMap_eq_nil_iff.mp hempty e he
        rw [hb] at hnone
        cases hnone
      · rw [← hbundles]
  · -- an inline document is not strict, which fails the response and the document alike
    constructor
    · intro hok
      simp only [BundleSet.fromGithubResponse, bind_eq_ok] at hok
      obtain ⟨_, _, v, hparse, _⟩ := hok
      obtain ⟨hread, hstrict, -⟩ := parseStrict_eq_ok.mp hparse
      exact absurd ⟨v, by rw [hread], hstrict⟩ hden
    · rintro ⟨hes, -⟩
      refine absurd (h.exists_denotes.mpr ?_) hden
      intro a ha d hd
      obtain ⟨e, -, hcarries, -⟩ := exists_partner hes ha
      obtain ⟨b, -, hb⟩ := hcarries.converts hd
      exact denotes_of_fromJson (h.document_limits ha hd).1 hb

/-- The conversion a caller wants of a response: it succeeds exactly when every inline document
    converts on its own, and then keeps each attestation's members, order and bundle. -/
structure ConvertsFaithfully (X : Externals) (bytes : Bytes) (attestations : List Attestation) :
    Prop where
  succeeds_iff : (∃ set, BundleSet.fromGithubResponse X bytes = .ok set) ↔
    ∀ a ∈ attestations, ∀ d, a.bundle = some d → d.Converts X
  entries : ∀ set, BundleSet.fromGithubResponse X bytes = .ok set →
    List.Forall₂ (fun a e => a.CarriesBundle X e ∧ a.CarriesMetadata e) attestations set.entries
  bundles : ∀ set, BundleSet.fromGithubResponse X bytes = .ok set →
    set.bundles = set.entries.filterMap (·.bundle)

/-- Success depends on the inline documents alone. -/
theorem fromGithubResponse_succeeds_iff (h : IsResponse X bytes attestations) :
    (∃ set, BundleSet.fromGithubResponse X bytes = .ok set) ↔
      ∀ a ∈ attestations, ∀ d, a.bundle = some d → d.Converts X := by
  constructor
  · rintro ⟨set, hset⟩ a ha d hd
    obtain ⟨hes, -⟩ := (fromGithubResponse_eq_ok h).mp hset
    obtain ⟨e, -, hcarries, -⟩ := exists_partner hes ha
    obtain ⟨b, -, hb⟩ := hcarries.converts hd
    exact ⟨b, hb⟩
  · intro hconv
    have hentry : ∀ a ∈ attestations, ∃ e : AttestationEntry,
        a.CarriesBundle X e ∧ e.repositoryId = none ∧ e.bundleUrl = none := by
      intro a ha
      cases hab : a.bundle with
      | none => exact ⟨⟨a.initiator, none, none, none⟩, ⟨rfl, hab ▸ .none⟩, rfl, rfl⟩
      | some d =>
        obtain ⟨b, hb⟩ := hconv a ha d hab
        exact ⟨⟨a.initiator, none, none, some b⟩, ⟨rfl, hab ▸ .some hb⟩, rfl, rfl⟩
    obtain ⟨es, hes⟩ := exists_forall₂ hentry
    exact ⟨⟨es.filterMap (·.bundle), es⟩, (fromGithubResponse_eq_ok h).mpr ⟨hes, rfl⟩⟩

/-- **Exactly when the conversion is the intended one**: it fails on an inline document, or there
    was no repository id and no url to drop. -/
theorem fromGithubResponse_faithful_iff (h : IsResponse X bytes attestations) :
    ConvertsFaithfully X bytes attestations ↔
      (∃ a ∈ attestations, ∃ d, a.bundle = some d ∧ ¬ d.Converts X) ∨
        ∀ a ∈ attestations, a.repositoryId = none ∧ a.bundleUrl = none := by
  constructor
  · intro hfaithful
    by_cases hconv : ∀ a ∈ attestations, ∀ d, a.bundle = some d → d.Converts X
    · -- it succeeds, with the wanted entries and with those that have no metadata
      right
      intro a ha
      obtain ⟨set, hset⟩ := (fromGithubResponse_succeeds_iff h).mpr hconv
      have hwant := hfaithful.entries set hset
      have hgot := ((fromGithubResponse_eq_ok h).mp hset).1
      generalize set.entries = es at hwant hgot
      clear hfaithful h hconv hset
      induction hgot with
      | nil => simp at ha
      | cons hx _ ih =>
        obtain ⟨hy, hrest⟩ := List.forall₂_cons.mp hwant
        rcases List.mem_cons.mp ha with rfl | ha
        · exact ⟨hy.2.repositoryId.symm.trans hx.2.1, hy.2.bundleUrl.symm.trans hx.2.2⟩
        · exact ih ha hrest
    · left
      push Not at hconv
      exact hconv
  · intro hcond
    refine ⟨fromGithubResponse_succeeds_iff h, fun set hset => ?_,
      fun set hset => ((fromGithubResponse_eq_ok h).mp hset).2⟩
    rcases hcond with ⟨a, ha, d, hd, hnot⟩ | hnone
    · exact absurd ((fromGithubResponse_succeeds_iff h).mp ⟨set, hset⟩ a ha d hd) hnot
    · -- with nothing to drop, an entry without metadata is the wanted one
      have hgot := ((fromGithubResponse_eq_ok h).mp hset).1
      generalize set.entries = es at hgot
      clear h hset
      induction hgot with
      | nil => exact .nil
      | cons hx _ ih =>
        obtain ⟨hid, hurl⟩ := hnone _ List.mem_cons_self
        refine .cons ⟨hx.1, ?_, ?_⟩ (ih fun a ha => hnone a (by simp [ha]))
        · rw [hx.2.1, hid]
        · rw [hx.2.2, hurl]

end Response

/-! ### A response with one inline bundle -/

/-- A smallest bundle document that converts. -/
def documentSample : Value := .object
  [("mediaType".toList, .string bundleMediaType),
   ("verificationMaterial".toList, .object
     [("certificate".toList, .object [("rawBytes".toList, .string "AA==".toList)])]),
   ("dsseEnvelope".toList, .object
     [("payload".toList, .string "AA==".toList), ("payloadType".toList, .string "t".toList),
      ("signatures".toList, .array [.object [("sig".toList, .string "AA==".toList)]])])]

/-- An inline bundle with its text. -/
def inlineSample : InlineDocument where
  tree := documentSample.toTree
  text := utf8 ("\x7b\"mediaType\":\"application/vnd.dev.sigstore.bundle.v0.3+json\",".toList ++
    "\"verificationMaterial\":\x7b\"certificate\":\x7b\"rawBytes\":\"AA==\"\x7d\x7d,".toList ++
    "\"dsseEnvelope\":\x7b\"payload\":\"AA==\",\"payloadType\":\"t\",".toList ++
    "\"signatures\":[\x7b\"sig\":\"AA==\"\x7d]\x7d\x7d".toList)

/-- Repository 1, with a url and that document inline. -/
def attestationSample : Attestation :=
  ⟨"user".toList, some 1, some "https://example.test/bundle".toList, some inlineSample⟩

/-- A response with one attestation, spelled as the API spells it. -/
def responseSample : Bytes :=
  utf8 ("\x7b\"attestations\":[\x7b\"repository_id\":1,\"bundle_url\":".toList ++
    "\"https://example.test/bundle\",\"initiator\":\"user\",\"bundle\":".toList) ++
  inlineSample.text ++ utf8 "\x7d]\x7d".toList

/-- A reader that knows the two texts. -/
def responseExternals : Externals :=
  .ofTexts
    [(inlineSample.text, ⟨inlineSample.tree, true⟩),
     (responseSample, ⟨.object [("attestations".toList,
        .array [.object attestationSample.members true] true)] true, true⟩)]

/-- A text with something after it is not that text. -/
private theorem append_ne_self {a t b : Bytes} (hb : b ≠ []) : a ++ t ++ b ≠ t := by
  intro heq
  have hlen := congrArg List.length heq
  simp only [List.length_append] at hlen
  exact hb (List.length_eq_zero_iff.mp (by omega))

/-- The response is read as its tree. -/
private theorem readJson_responseSample :
    responseExternals.readJson responseSample =
      ⟨.object [("attestations".toList, .array [.object attestationSample.members true] true)] true,
        true⟩ := by
  have hne : responseSample ≠ inlineSample.text := append_ne_self (by decide +kernel)
  exact (readJson_ofTexts_tail _ _ hne).trans (readJson_ofTexts_head _ _ _)

set_option maxRecDepth 4000 in
/-- The bundle is small. -/
private theorem length_inlineSample : inlineSample.text.length ≤ 2000 := by
  rw [show 2000 = 500 + 500 + 500 + 500 from rfl]
  simp only [inlineSample]
  iterate 3 refine length_utf8_append_le ?_ (length_utf8_literal_le (n := 500) _ (by decide))
  exact length_utf8_literal_le _ (by decide)

set_option maxRecDepth 4000 in
/-- The response is within the size limit. -/
private theorem length_responseSample : responseSample.length ≤ maxInputBytes := by
  rw [responseSample, List.length_append, List.length_append]
  have hbound : 1000 + 2000 + 1000 ≤ maxInputBytes := by decide
  refine le_trans (Nat.add_le_add (Nat.add_le_add ?_ length_inlineSample) ?_) hbound
  · exact length_utf8_append_le (length_utf8_literal_le (n := 500) _ (by decide))
      (length_utf8_literal_le (n := 500) _ (by decide))
  · exact length_utf8_literal_le _ (by decide)

/-- The text is a response with that attestation. -/
theorem isResponse_sample : IsResponse responseExternals responseSample [attestationSample] where
  spelled := ⟨_, .cons ⟨_, rfl, .refl _⟩ .nil, readJson_responseSample⟩
  size := length_responseSample
  nodes := by rw [readJson_responseSample]; decide +kernel
  count := by decide
  inline := ⟨_, List.mem_singleton.mpr rfl, by simp [attestationSample]⟩
  document := by
    intro a ha d hd
    obtain rfl := List.mem_singleton.mp ha
    obtain rfl : inlineSample = d := Option.some.inj hd
    exact ⟨nofun, readJson_ofTexts_head _ _ _, length_inlineSample.trans (by decide)⟩

/-- The bundle in it is read. -/
private theorem fromInline_documentSample : Bundle.fromInline documentSample =
    .ok ⟨bundleMediaType, ⟨⟨[0]⟩, [], ⟨[]⟩⟩, ⟨[0], "t".toList, ⟨[0], none⟩⟩⟩ := by
  rfl

/-- The sample with an inline bundle converts. -/
theorem converts_inlineSample : inlineSample.Converts responseExternals := by
  obtain ⟨hread, hsize, hnodes⟩ := isResponse_sample.document_limits (by simp)
    (show attestationSample.bundle = some inlineSample from rfl)
  have hv : Denotes inlineSample.tree documentSample := ⟨rfl, by simp [documentSample]⟩
  exact ⟨_, (fromJson_document hread hsize hnodes hv).trans fromInline_documentSample⟩

/-- On that response the conversion succeeds and drops the repository id and the url. -/
theorem not_convertsFaithfully_sample :
    IsResponse responseExternals responseSample [attestationSample] ∧
      ¬ ConvertsFaithfully responseExternals responseSample [attestationSample] := by
  refine ⟨isResponse_sample, fun hfaithful => ?_⟩
  obtain ⟨set, hset⟩ := hfaithful.succeeds_iff.mpr (by
    intro a ha d hd
    obtain rfl := List.mem_singleton.mp ha
    obtain rfl : inlineSample = d := Option.some.inj hd
    exact converts_inlineSample)
  have hgot := ((fromGithubResponse_eq_ok isResponse_sample).mp hset).1
  have hwant := hfaithful.entries set hset
  obtain ⟨e, rest, ⟨-, hid, -⟩, -, hes⟩ := List.forall₂_cons_left_iff.mp hgot
  rw [hes] at hwant
  have hid' : e.repositoryId = some 1 := (List.forall₂_cons.mp hwant).1.2.repositoryId
  rw [hid] at hid'
  simp at hid'

/-- The response converts faithfully only where the names are not the API's. -/
theorem convertsFaithfully_sample_iff :
    ConvertsFaithfully responseExternals responseSample [attestationSample] ↔
      (∃ a ∈ [attestationSample], ∃ d, a.bundle = some d ∧ ¬ d.Converts responseExternals) ∨
        ∀ a ∈ [attestationSample], a.repositoryId = none ∧ a.bundleUrl = none :=
  fromGithubResponse_faithful_iff isResponse_sample

end AttestationVerify
