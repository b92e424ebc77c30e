import AttestationVerify.Wire.Serde

namespace Wire.Serde

open Wire.Json

/-!
# Messages by name and by position

The struct decoders read a message from an object by field name, and from an array by position.  A
schema says where the messages of a document are, when all of them are objects, and which documents
spell one of that kind with some of its messages as arrays.

* `Schema` — `leaf`, `nullable`, `seq` and `message`;
* `Follows` — a decoder goes by a schema: spellings of one document are read as one, and what is
  read at all is a spelling of a document with every message named;
* `follows_struct`, `follows_required`, `follows_defaulted` — the rules along a decoder;
* `Follows.named_iff` — when being read entails that the messages are objects.
-/

variable {α β : Type}

/-- What a schema says of the documents it describes. -/
structure Schema where
  /-- Every message is an object. -/
  Named : Value → Prop
  /-- The second document spells the first, which is named. -/
  Spells : Value → Value → Prop
  spells_null : ∀ w v, Spells w v → (w = .null ↔ v = .null)

namespace Schema

/-- There is no message in it. -/
def leaf : Schema where
  Named _ := True
  Spells w v := w = v
  spells_null w v h := by rw [h]

/-- Either `null`, or as the schema says. -/
def nullable (s : Schema) : Schema where
  Named v := v = .null ∨ s.Named v
  Spells w v := (w = .null ∧ v = .null) ∨ s.Spells w v
  spells_null w v h := by
    rcases h with ⟨rfl, rfl⟩ | h
    · exact Iff.rfl
    · exact s.spells_null w v h

/-- An array, item by item. -/
def seq (s : Schema) : Schema where
  Named v := ∀ xs, v = .array xs → ∀ x ∈ xs, s.Named x
  Spells w v := ∃ ws vs, w = .array ws ∧ v = .array vs ∧ List.Forall₂ s.Spells ws vs
  spells_null w v h := by
    obtain ⟨ws, vs, rfl, rfl, -⟩ := h
    exact iff_of_false Value.noConfusion Value.noConfusion

end Schema

/-- A field of a message. -/
structure Field where
  name : String
  schema : Schema

namespace FieldSource

/-- The document that the fields are taken from. -/
def toValue : FieldSource → Value
  | .members m => .object m
  | .items xs => .array xs

/-- The value of the next field. -/
def next (name : String) : FieldSource → Option Value
  | .members m => member m name
  | .items xs => xs.head?

/-- What the fields after the first read from. -/
def rest : FieldSource → FieldSource
  | .members m => .members m
  | .items xs => .items xs.tail

/-- Nothing is left over that matters. -/
def Done : FieldSource → Prop
  | .members _ => True
  | .items xs => xs = []

end FieldSource

/-- The members spell the same fields as the source does, by name or by position. -/
def SourceSpells : List Field → Members → FieldSource → Prop
  | [], _, src => src.Done
  | f :: fs, m, src =>
    Option.Rel f.schema.Spells (member m f.name) (src.next f.name) ∧ SourceSpells fs m src.rest

/-- Each field that is among the members spells its own fields by name. -/
def MembersNamed (fs : List Field) (m : Members) : Prop :=
  ∀ f ∈ fs, ∀ v ∈ member m f.name, f.schema.Named v

/-- A message of these fields, in the order of their declaration. -/
def Schema.message (fs : List Field) : Schema where
  Named v := ∃ m, v = .object m ∧ MembersNamed fs m
  Spells w v := ∃ m src, w = .object m ∧ v = src.toValue ∧ SourceSpells fs m src
  spells_null w v h := by
    obtain ⟨m, src, rfl, rfl, -⟩ := h
    cases src <;> exact iff_of_false Value.noConfusion Value.noConfusion

/-! ### Decoders -/

/-- The decoder reads the documents of the schema, however they are spelled, and no others. -/
structure Follows (d : Decoder α) (s : Schema) : Prop where
  same : ∀ w v, s.Named w → s.Spells w v → d v = d w
  exists_named : ∀ v a, d v = some a → ∃ w, s.Named w ∧ s.Spells w v

/-- A decoder of no message follows the schema of a leaf. -/
theorem follows_leaf (d : Decoder α) : Follows d .leaf where
  same w v _ h := by rw [show w = v from h]
  exists_named v _ _ := ⟨v, trivial, rfl⟩

/-- What is not `null` is read as the inner decoder reads it. -/
theorem nullable_of_ne {d : Decoder α} {v : Value} (h : v ≠ .null) :
    nullable d v = (d v).map some := by
  cases v with
  | null => exact absurd rfl h
  | _ => rfl

/-- A nullable decoder follows the nullable schema. -/
theorem follows_nullable {d : Decoder α} {s : Schema} (h : Follows d s) :
    Follows (nullable d) s.nullable where
  same w v hw hv := by
    rcases hv with ⟨rfl, rfl⟩ | hv
    · rfl
    by_cases hnull : v = .null
    · rw [hnull, (s.spells_null w v hv).mpr hnull]
    · have hwnull : w ≠ .null := fun heq => hnull ((s.spells_null w v hv).mp heq)
      rw [nullable_of_ne hnull, nullable_of_ne hwnull, h.same w v (hw.resolve_left hwnull) hv]
  exists_named v a hv := by
    by_cases hnull : v = .null
    · exact ⟨.null, .inl rfl, .inl ⟨rfl, hnull⟩⟩
    · rw [nullable_of_ne hnull, Option.map_eq_some_iff] at hv
      obtain ⟨b, hb, -⟩ := hv
      obtain ⟨w, hw, hspells⟩ := h.exists_named v b hb
      exact ⟨w, .inr hw, .inr hspells⟩

/-- A decoder of sequences follows the schema of arrays. -/
theorem follows_seq {d : Decoder α} {s : Schema} (h : Follows d s) :
    Follows (seq d) s.seq where
  same w v hw hv := by
    obtain ⟨ws, vs, rfl, rfl, hitems⟩ := hv
    have hnamed := hw ws rfl
    clear hw
    show vs.mapM d = ws.mapM d
    induction hitems with
    | nil => rfl
    | cons hx _ ih =>
      obtain ⟨hw, hws⟩ := List.forall_mem_cons.mp hnamed
      rw [List.mapM_cons, List.mapM_cons, h.same _ _ hw hx, ih hws]
  exists_named v a hv := by
    cases v with
    | array vs =>
      have hitems : List.Forall₂ (fun x y => d x = some y) vs a := mapM_eq_some.mp hv
      have hspelled : ∀ x ∈ vs, ∃ w, s.Named w ∧ s.Spells w x := by
        intro x hx
        obtain ⟨y, -, hy⟩ := exists_partner hitems hx
        exact h.exists_named x y hy
      obtain ⟨ws, hws⟩ := exists_forall₂ hspelled
      refine ⟨.array ws, ?_, ws, vs, rfl, rfl, ?_⟩
      · rintro _ ⟨rfl⟩ w hw
        obtain ⟨x, -, hx⟩ := exists_partner hws.flip hw
        exact hx.1
      · exact hws.flip.imp fun _ _ hx => hx.2
    | _ => cases hv

/-! ### Structs -/

/-- What a struct is read to from such a source, with nothing left over. -/
def result (r : FieldReader α) (src : FieldSource) : Option α := struct r src.toValue

/-- Among members the result is what the reader returns. -/
theorem result_members (r : FieldReader α) (m : Members) :
    result r (.members m) = (r (.members m)).map Prod.fst := rfl

/-- A required field is the next one there is, and is decoded. -/
theorem result_required {name : String} {d : Decoder α} {k : α → FieldReader β}
    {src : FieldSource} :
    result (required name d >>= k) src =
      (src.next name).bind fun v => (d v).bind fun a => result (k a) src.rest := by
  cases src with
  | members m =>
    simp only [result_members, bind_apply, required_members, FieldSource.next, FieldSource.rest]
    cases member m name with
    | none => rfl
    | some v => cases hv : d v <;> simp [hv]
  | items xs =>
    cases xs with
    | nil => rfl
    | cons v rest => cases hv : d v <;> simp [result, struct, required, FieldSource.toValue,
        FieldSource.next, FieldSource.rest, hv]

/-- A defaulted field is the next one if there is one, and its default if not. -/
theorem result_defaulted {name : String} {d : Decoder α} {dflt : α} {k : α → FieldReader β}
    {src : FieldSource} :
    result (defaulted name d dflt >>= k) src = match src.next name with
      | none => result (k dflt) src.rest
      | some v => (d v).bind fun a => result (k a) src.rest := by
  cases src with
  | members m =>
    simp only [result_members, bind_apply, defaulted_members, FieldSource.next, FieldSource.rest]
    cases member m name with
    | none => rfl
    | some v => cases hv : d v <;> simp [hv]
  | items xs =>
    cases xs with
    | nil => rfl
    | cons v rest => cases hv : d v <;> simp [result, struct, defaulted, FieldSource.toValue,
        FieldSource.next, FieldSource.rest, hv]

/-- A reader goes by the fields: a source reads as the members it spells do, and what reads at all
    spells members, of these fields only. -/
structure FollowsFields (r : FieldReader α) (fs : List Field) : Prop where
  same : ∀ m src, MembersNamed fs m → SourceSpells fs m src → result r src = result r (.members m)
  exists_named : (fs.map Field.name).Nodup → ∀ src a, result r src = some a →
    ∃ m, (∀ p ∈ m, ∃ f ∈ fs, p.1 = f.name.toList) ∧ MembersNamed fs m ∧ SourceSpells fs m src

/-- A result means that nothing is left over. -/
theorem result_pure_eq_some {a b : α} {src : FieldSource} :
    result (pure a) src = some b → src.Done := by
  intro h
  cases src with
  | members m => trivial
  | items xs =>
    cases xs with
    | nil => rfl
    | cons v rest => cases h

/-- A reader that reads nothing follows no fields. -/
theorem follows_pure (a : α) : FollowsFields (pure a) [] where
  same m src _ h := by
    cases src with
    | members m' => rfl
    | items xs =>
      obtain rfl : xs = [] := h
      rfl
  exists_named _ src b h := ⟨[], by simp, by simp [MembersNamed], result_pure_eq_some h⟩

section Field

variable {name : String} {d : Decoder α} {s : Schema} {k : α → FieldReader β} {f : Field}
  {fs : List Field} {m m' : Members} {src : FieldSource}

/-- Only the members of those names are spelled. -/
theorem sourceSpells_congr (h : ∀ f ∈ fs, member m' f.name = member m f.name)
    (hsrc : SourceSpells fs m src) : SourceSpells fs m' src := by
  induction fs generalizing src with
  | nil => exact hsrc
  | cons f fs ih =>
    obtain ⟨hf, hfs⟩ := List.forall_mem_cons.mp h
    exact ⟨hf ▸ hsrc.1, ih hfs hsrc.2⟩

/-- One more field before those there are: its value, when it has one, goes in front. -/
theorem exists_cons_members (value : Option Value) (hnodup : ((f :: fs).map Field.name).Nodup)
    (hvalue : Option.Rel f.schema.Spells value (src.next f.name))
    (hnamed : ∀ v ∈ value, f.schema.Named v) (hkeys : ∀ p ∈ m, ∃ g ∈ fs, p.1 = g.name.toList)
    (hm : MembersNamed fs m) (hsrc : SourceSpells fs m src.rest) :
    ∃ m', (∀ p ∈ m', ∃ g ∈ f :: fs, p.1 = g.name.toList) ∧ MembersNamed (f :: fs) m' ∧
      SourceSpells (f :: fs) m' src := by
  rw [List.map_cons, List.nodup_cons] at hnodup
  let m' : Members := value.toList.map (fun v => (f.name.toList, v)) ++ m
  -- the field itself, and every other one
  have hself : member m' f.name = value := by
    cases value with
    | some v => exact List.lookup_cons_self
    | none =>
      refine lookup_of_not_mem fun hmem => ?_
      obtain ⟨p, hp, hkey⟩ := List.mem_map.mp hmem
      obtain ⟨g, hg, hgkey⟩ := hkeys p hp
      have hname : g.name = f.name := String.toList_inj.mp (hgkey.symm.trans hkey)
      exact hnodup.1 (hname ▸ List.mem_map_of_mem hg)
  have hother : ∀ g ∈ fs, member m' g.name = member m g.name := by
    intro g hg
    cases value with
    | none => rfl
    | some v =>
      have hne : (g.name.toList == f.name.toList) = false := by
        rw [beq_eq_false_iff_ne]
        intro heq
        exact hnodup.1 (String.toList_inj.mp heq ▸ List.mem_map_of_mem hg)
      show List.lookup g.name.toList ((f.name.toList, v) :: m) = _
      rw [List.lookup_cons, hne]
      rfl
  refine ⟨m', ?_, ?_, hself.symm ▸ hvalue, sourceSpells_congr hother hsrc⟩
  · intro p hp
    rcases List.mem_append.mp hp with hp | hp
    · obtain ⟨v, -, rfl⟩ := List.mem_map.mp hp
      exact ⟨f, List.mem_cons_self, rfl⟩
    · obtain ⟨g, hg, hkey⟩ := hkeys p hp
      exact ⟨g, List.mem_cons_of_mem f hg, hkey⟩
  · refine List.forall_mem_cons.mpr ⟨hself.symm ▸ hnamed, fun g hg => ?_⟩
    rw [hother g hg]
    exact hm g hg

/-- A step of a reader is told by what it makes of the field's value. -/
theorem follows_field (step : Option Value → Option (FieldReader β)) {r : FieldReader β}
    (hr : ∀ src, result r src = (step (src.next name)).bind fun k => result k src.rest)
    (hsame : ∀ w v, s.Named w → s.Spells w v → step (some v) = step (some w))
    (hnamed : ∀ v k, step (some v) = some k → ∃ w, s.Named w ∧ s.Spells w v)
    (hk : ∀ value k, step value = some k → FollowsFields k fs) :
    FollowsFields r (⟨name, s⟩ :: fs) where
  same m src hm hsrc := by
    obtain ⟨hfield, hrest⟩ := hsrc
    obtain ⟨hw, hfs⟩ := List.forall_mem_cons.mp hm
    have hstep : step (src.next name) = step (member m name) := by
      revert hfield hw
      show Option.Rel s.Spells (member m name) (src.next name) → _
      generalize member m name = w
      generalize src.next name = v
      rintro (h | _) hw
      · exact hsame _ _ (hw _ rfl) h
      · rfl
    rw [hr, hr, hstep]
    show _ = (step (member m name)).bind fun k => result k (.members m)
    cases hvalue : step (member m name) with
    | none => rfl
    | some k => exact (hk _ k hvalue).same m src.rest hfs hrest
  exists_named hnodup src a ha := by
    rw [hr, Option.bind_eq_some_iff] at ha
    obtain ⟨k, hstep, hresult⟩ := ha
    obtain ⟨m, hkeys, hm, hrest⟩ :=
      (hk _ k hstep).exists_named (List.nodup_cons.mp hnodup).2 src.rest a hresult
    cases hnext : src.next name with
    | none =>
      exact exists_cons_members none hnodup (by rw [hnext]; exact .none)
        (by simp) hkeys hm hrest
    | some v =>
      rw [hnext] at hstep
      obtain ⟨w, hw, hspells⟩ := hnamed v k hstep
      exact exists_cons_members (some w) hnodup (by rw [hnext]; exact .some hspells)
        (by rintro _ ⟨rfl⟩; exact hw) hkeys hm hrest

/-- A required field follows its schema in front of the others. -/
theorem follows_required (hd : Follows d s) (hk : ∀ a, FollowsFields (k a) fs) :
    FollowsFields (required name d >>= k) (⟨name, s⟩ :: fs) := by
  refine follows_field (fun value => value.bind fun v => (d v).map k) ?_ ?_ ?_ ?_
  · intro src
    rw [result_required]
    cases src.next name with
    | none => rfl
    | some v => cases hv : d v <;> simp [hv]
  · intro w v hw hv
    simp only [Option.bind_some, hd.same w v hw hv]
  · intro v r hv
    obtain ⟨a, ha, -⟩ := Option.map_eq_some_iff.mp hv
    exact hd.exists_named v a ha
  · intro value r hr
    obtain ⟨v, -, hv⟩ := Option.bind_eq_some_iff.mp hr
    obtain ⟨a, -, rfl⟩ := Option.map_eq_some_iff.mp hv
    exact hk a

/-- A defaulted field follows its schema in front of the others. -/
theorem follows_defaulted {dflt : α} (hd : Follows d s) (hk : ∀ a, FollowsFields (k a) fs) :
    FollowsFields (defaulted name d dflt >>= k) (⟨name, s⟩ :: fs) := by
  refine follows_field (fun value => value.elim (some (k dflt)) fun v => (d v).map k) ?_ ?_ ?_ ?_
  · intro src
    rw [result_defaulted]
    cases src.next name with
    | none => rfl
    | some v => cases hv : d v <;> simp [hv]
  · intro w v hw hv
    simp only [Option.elim_some, hd.same w v hw hv]
  · intro v r hv
    obtain ⟨a, ha, -⟩ := Option.map_eq_some_iff.mp hv
    exact hd.exists_named v a ha
  · intro value r hr
    cases value with
    | none =>
      obtain rfl := Option.some.inj hr
      exact hk dflt
    | some v =>
      obtain ⟨a, -, rfl⟩ := Option.map_eq_some_iff.mp hr
      exact hk a

end Field

/-- A struct whose fields have different names follows the schema of its message. -/
theorem follows_struct {r : FieldReader α} {fs : List Field} (hnodup : (fs.map Field.name).Nodup)
    (h : FollowsFields r fs) : Follows (struct r) (.message fs) where
  same w v hw hv := by
    obtain ⟨m, src, rfl, rfl, hsrc⟩ := hv
    obtain ⟨_, ⟨rfl⟩, hm⟩ := hw
    exact h.same m src hm hsrc
  exists_named v a hv := by
    obtain ⟨src, rfl⟩ : ∃ src : FieldSource, v = src.toValue := by
      cases v with
      | object m => exact ⟨.members m, rfl⟩
      | array xs => exact ⟨.items xs, rfl⟩
      | _ => cases hv
    obtain ⟨m, -, hm, hsrc⟩ := h.exists_named hnodup src a hv
    exact ⟨.object m, ⟨m, rfl, hm⟩, m, src, rfl, rfl, hsrc⟩

/-- **By name only.**  Being read, to something that goes on to convert, entails that every message
    is an object, except for the spellings of a document that is so and converts. -/
theorem Follows.named_iff {d : Decoder α} {s : Schema} (h : Follows d s) {converts : α → Prop}
    {v : Value} :
    ((∃ a, d v = some a ∧ converts a) → s.Named v) ↔
      s.Named v ∨ ¬ ∃ w, s.Named w ∧ s.Spells w v ∧ ∃ a, d w = some a ∧ converts a := by
  constructor
  · intro hread
    refine or_iff_not_imp_right.mpr fun hspelled => ?_
    obtain ⟨w, hw, hspells, a, ha, hconverts⟩ := not_not.mp hspelled
    exact hread ⟨a, (h.same w v hw hspells).trans ha, hconverts⟩
  · rintro (hnamed | hspelled) ⟨a, ha, hconverts⟩
    · exact hnamed
    · obtain ⟨w, hw, hspells⟩ := h.exists_named v a ha
      exact absurd ⟨w, hw, hspells, a, (h.same w v hw hspells).symm.trans ha, hconverts⟩ hspelled

end Wire.Serde
