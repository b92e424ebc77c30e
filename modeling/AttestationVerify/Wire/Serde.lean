import AttestationVerify.Wire.Json
import AttestationVerify.Wire.Outcome

namespace Wire.Serde

open Wire.Json

/-!
# Typed extraction from a JSON value

`serde_json::from_value` on the types a derived `Deserialize` gives: a `Decoder α` is partial on
`Value` (which of serde's messages a failure carries is not modelled).  A struct is read by a
`FieldReader`, one `required` or `defaulted` step per field in declaration order, from either of
the two shapes serde's `deserialize_struct` visitor accepts on a `Value`: an object, by field
name and with unknown members ignored, or an array, by position.

The second half says what a decoder accepts without running it: `Reads r fs` states that the
reader `r` succeeds exactly on the documents of the field shapes `fs`, and the `reads_*` rules
build such a statement along the reader.
-/

variable {α β : Type}

/-- What a type makes of a value, or that it takes none of it. -/
abbrev Decoder (α : Type) := Value → Option α

/-! ### Scalars and containers -/

/-- `String` takes strings only. -/
def string : Decoder Str
  | .string s => some s
  | _ => none

/-- `u64`: only a non-negative integer; a float is a type error whatever its value. -/
def u64 : Decoder UInt64
  | .number (.posInt n) => some n
  | _ => none

/-- `serde_json::Value` itself. -/
def value : Decoder Value := some

/-- `Option<T>`: `null` is `None`. -/
def nullable (d : Decoder α) : Decoder (Option α)
  | .null => some none
  | v => (d v).map some

/-- `Vec<T>`. -/
def seq (d : Decoder α) : Decoder (List α)
  | .array items => items.mapM d
  | _ => none

/-- `BTreeMap<String, T>`. -/
def map (d : Decoder α) : Decoder (List (Str × α))
  | .object members => members.mapM fun m => (d m.2).map (m.1, ·)
  | _ => none

/-! ### Structs -/

/-- Where a struct's fields come from: the members of an object or the items of an array not yet
    taken. -/
inductive FieldSource
  | members (m : Members)
  | items (xs : List Value)

/-- A reader of fields, which goes on where the field before it stopped. -/
abbrev FieldReader (α : Type) := StateT FieldSource Option α

/-- A field without default. -/
def required (name : String) (d : Decoder α) : FieldReader α
  | .members m => do
    let v ← member m name
    let a ← d v
    some (a, .members m)
  | .items [] => none
  | .items (v :: rest) => (d v).map (·, .items rest)

/-- A field with `#[serde(default)]`. -/
def defaulted (name : String) (d : Decoder α) (dflt : α) : FieldReader α
  | .members m =>
    match member m name with
    | none => some (dflt, .members m)
    | some v => (d v).map (·, .members m)
  | .items [] => some (dflt, .items [])
  | .items (v :: rest) => (d v).map (·, .items rest)

/-- `deserialize_struct`: leftover array items are an error, unknown members are not. -/
def struct (r : FieldReader α) : Decoder α
  | .object m => (r (.members m)).map Prod.fst
  | .array xs =>
    match r (.items xs) with
    | some (a, .items []) => some a
    | _ => none
  | _ => none

/-- Of an object, the fields are read off its members. -/
@[simp] theorem struct_object (r : FieldReader α) (m : Members) :
    struct r (.object m) = (r (.members m)).map Prod.fst := rfl

@[simp] theorem bind_apply (r : FieldReader α) (k : α → FieldReader β) (src : FieldSource) :
    (r >>= k) src = (r src).bind fun p => k p.1 p.2 := rfl

@[simp] theorem pure_apply (a : α) (src : FieldSource) :
    (pure a : FieldReader α) src = some (a, src) := rfl

/-- Among members a required field is looked up by its name. -/
@[simp] theorem required_members (name : String) (d : Decoder α) (m : Members) :
    required name d (.members m)
      = (member m name).bind fun v => (d v).map (·, .members m) := by
  simp only [required]
  cases member m name with
  | none => rfl
  | some v => cases hd : d v <;> simp [hd]

/-- Among members a field with a default is looked up by its name. -/
theorem defaulted_members (name : String) (d : Decoder α) (dflt : α) (m : Members) :
    defaulted name d dflt (.members m) = match member m name with
      | none => some (dflt, .members m)
      | some v => (d v).map (·, .members m) := rfl

/-- A field that is not there has its default. -/
@[simp] theorem defaulted_absent {name : String} {m : Members} (d : Decoder α) (dflt : α)
    (h : member m name = none) :
    defaulted name d dflt (.members m) = some (dflt, .members m) := by
  rw [defaulted_members, h]

/-- A field that is there has no default. -/
@[simp] theorem defaulted_present {name : String} {m : Members} {v : Value} (d : Decoder α)
    (dflt : α) (h : member m name = some v) :
    defaulted name d dflt (.members m) = (d v).map (·, .members m) := by
  rw [defaulted_members, h]

/-! ### Reading an object field by field -/

section Fields

variable {name : String} {d : Decoder α} {dflt a : α} {m : Members} {v : Value}
  {k : α → FieldReader β}

/-- The next field is there: the reader goes on with its value. -/
theorem required_step (hlookup : member m name = some v) (hd : d v = some a) :
    (required name d >>= k) (.members m) = k a (.members m) := by
  simp [hlookup, hd]

/-- The next field is missing: the whole struct is refused. -/
theorem required_missing (hlookup : member m name = none) :
    (required name d >>= k) (.members m) = none := by
  simp [hlookup]

/-- The next field is there but not of its type. -/
theorem required_mistyped (hlookup : member m name = some v) (hd : d v = none) :
    (required name d >>= k) (.members m) = none := by
  simp [hlookup, hd]

/-- A defaulted field that is present is decoded, and the reading goes on. -/
theorem defaulted_step (hlookup : member m name = some v) (hd : d v = some a) :
    (defaulted name d dflt >>= k) (.members m) = k a (.members m) := by
  simp [hlookup, hd]

/-- A defaulted field that is absent has its default. -/
theorem defaulted_missing (hlookup : member m name = none) :
    (defaulted name d dflt >>= k) (.members m) = k dflt (.members m) := by
  simp [hlookup]

/-- A defaulted field that is present and does not decode fails the whole. -/
theorem defaulted_mistyped (hlookup : member m name = some v) (hd : d v = none) :
    (defaulted name d dflt >>= k) (.members m) = none := by
  simp [hlookup, hd]

end Fields

/-- A required string that is present is read as it is. -/
theorem string_step {name : String} {m : Members} {s : Str} {k : Str → FieldReader β}
    (hlookup : member m name = some (.string s)) :
    (required name string >>= k) (.members m) = k s (.members m) :=
  required_step hlookup rfl

/-- A successful reading of a field that is there read that member. -/
theorem required_eq_some {name : String} {d : Decoder α} {m : Members} {v : Value}
    {k : α → FieldReader β} {x : β × FieldSource} (hlookup : member m name = some v)
    (h : (required name d >>= k) (.members m) = some x) :
    ∃ a, d v = some a ∧ k a (.members m) = some x := by
  cases ha : d v with
  | none => rw [required_mistyped hlookup ha] at h; simp at h
  | some a => exact ⟨a, rfl, by rwa [required_step hlookup ha] at h⟩

/-- A field without default is read from the member of its name. -/
theorem required_bind_eq_some {name : String} {d : Decoder α} {m : Members}
    {k : α → FieldReader β} {x : β × FieldSource} :
    (required name d >>= k) (.members m) = some x ↔
      ∃ v a, member m name = some v ∧ d v = some a ∧ k a (.members m) = some x := by
  constructor
  · intro h
    cases hlookup : member m name with
    | none =>
      rw [required_missing hlookup] at h
      cases h
    | some v =>
      obtain ⟨a, ha, hk⟩ := required_eq_some hlookup h
      exact ⟨v, a, rfl, ha, hk⟩
  · rintro ⟨v, a, hlookup, ha, hk⟩
    rwa [required_step hlookup ha]

/-- A field with a default has that where there is no member. -/
theorem defaulted_bind_eq_some {name : String} {d : Decoder α} {dflt : α} {m : Members}
    {k : α → FieldReader β} {x : β × FieldSource} :
    (defaulted name d dflt >>= k) (.members m) = some x ↔
      ∃ a, ((member m name = none ∧ a = dflt) ∨ ∃ v, member m name = some v ∧ d v = some a) ∧
        k a (.members m) = some x := by
  cases hlookup : member m name with
  | none =>
    rw [defaulted_missing hlookup]
    simp
  | some v =>
    cases ha : d v with
    | none =>
      rw [defaulted_mistyped hlookup ha]
      simp [ha]
    | some a =>
      rw [defaulted_step hlookup ha]
      simp [ha]

/-- Every value the reader returns has the property `p`. -/
def Returns (r : FieldReader α) (p : α → Prop) : Prop := ∀ src x, r src = some x → p x.1

/-- A value that has the property is returned with it. -/
theorem returns_pure {a : α} {p : α → Prop} (h : p a) : Returns (pure a) p := by
  intro src x hx
  obtain rfl := Option.some.inj hx
  exact h

/-- What is returned is returned by the last step. -/
theorem returns_bind {r : FieldReader α} {k : α → FieldReader β} {p : β → Prop}
    (h : ∀ a, Returns (k a) p) : Returns (r >>= k) p := by
  intro src x hx
  obtain ⟨y, -, hk⟩ := Option.bind_eq_some_iff.mp hx
  exact h y.1 y.2 x hk

/-- A successful reading has the property. -/
theorem of_returns {r : FieldReader α} {p : α → Prop} {src : FieldSource} {x : α × FieldSource}
    (hx : r src = some x) (h : Returns r p) : p x.1 := h src x hx

/-- A list decodes when its items do. -/
theorem seq_map {γ : Type} {d : Decoder α} {g : γ → Value} {f : γ → α} {xs : List γ}
    (h : ∀ x ∈ xs, d (g x) = some (f x)) : seq d (.array (xs.map g)) = some (xs.map f) := by
  induction xs with
  | nil => rfl
  | cons x xs ih =>
    -- the tail decodes by the induction hypothesis, read back through `seq`
    have hrest : (xs.map g).mapM d = some (xs.map f) := ih fun y hy => h y (by simp [hy])
    simp [seq, h x (by simp), hrest]

/-- A list with an item that does not decode is refused. -/
theorem seq_none {γ : Type} {d : Decoder α} {g : γ → Value} {xs : List γ} {x : γ} (hx : x ∈ xs)
    (h : d (g x) = none) : seq d (.array (xs.map g)) = none := by
  have hsome : ¬ (((xs.map g).mapM d).isSome = true) := by
    rw [mapM_isSome]
    exact fun hall => by simpa [h] using hall (g x) (List.mem_map_of_mem hx)
  simpa [seq] using hsome

/-! ### Shapes -/

/-- A string. -/
def IsString (v : Value) : Prop := ∃ s, v = .string s

/-- Either `null` or of the shape. -/
def IsNullable (p : Value → Prop) (v : Value) : Prop := v = .null ∨ p v

/-- An array with items of the shape. -/
def IsArrayOf (p : Value → Prop) (v : Value) : Prop := ∃ items, v = .array items ∧ ∀ x ∈ items, p x

/-- An object with members of the shape. -/
def IsMapOf (p : Value → Prop) (v : Value) : Prop :=
  ∃ members, v = .object members ∧ ∀ m ∈ members, p m.2

/-- A field of a struct: its name, whether it may be left out, and the shape of its value. -/
structure FieldShape where
  name : String
  optional : Bool
  shape : Value → Prop

/-- Each field that is there has its shape, and one that is missing may be. -/
def MembersMatch (fs : List FieldShape) (m : Members) : Prop :=
  ∀ f ∈ fs, match member m f.name with
    | some v => f.shape v
    | none => f.optional = true

/-- The items match the fields by position, and none are left over. -/
def ItemsMatch : List FieldShape → List Value → Prop
  | [], [] => True
  | [], _ :: _ => False
  | f :: fs, [] => f.optional = true ∧ ItemsMatch fs []
  | f :: fs, v :: rest => f.shape v ∧ ItemsMatch fs rest

/-- The documents a struct is read from: an object with the required members, all known members
    of their shape, or the same by position. -/
def IsStruct (fs : List FieldShape) : Value → Prop
  | .object m => MembersMatch fs m
  | .array xs => ItemsMatch fs xs
  | _ => False

/-- `d` accepts exactly the values of shape `p`. -/
def Accepts (d : Decoder α) (p : Value → Prop) : Prop := ∀ v, (d v).isSome ↔ p v

/-- The string decoder accepts strings. -/
theorem accepts_string : Accepts string IsString := by
  intro v; cases v <;> simp [string, IsString]

/-- The untyped decoder accepts everything. -/
theorem accepts_value : Accepts value fun _ => True := by intro v; simp [value]

/-- A nullable decoder accepts `null` too. -/
theorem accepts_nullable {d : Decoder α} {p : Value → Prop} (h : Accepts d p) :
    Accepts (nullable d) (IsNullable p) := by
  intro v
  cases v <;> simp [nullable, IsNullable, ← h _]

/-- A decoder of sequences accepts arrays of what its items accept. -/
theorem accepts_seq {d : Decoder α} {p : Value → Prop} (h : Accepts d p) :
    Accepts (seq d) (IsArrayOf p) := by
  intro v
  cases v <;> simp [seq, IsArrayOf, mapM_isSome, h _]

/-- A decoder of maps accepts objects of what its values accept. -/
theorem accepts_map {d : Decoder α} {p : Value → Prop} (h : Accepts d p) :
    Accepts (map d) (IsMapOf p) := by
  intro v
  cases v <;> simp [map, IsMapOf, mapM_isSome, h _]

/-- The reader `r` succeeds exactly on sources of the field shapes `fs`, takes nothing from an
    object and, on an array, uses up every item. -/
structure Reads (r : FieldReader α) (fs : List FieldShape) : Prop where
  members : ∀ m, (r (.members m)).isSome ↔ MembersMatch fs m
  items : ∀ xs, (∃ a, r (.items xs) = some (a, .items [])) ↔ ItemsMatch fs xs

/-- A reader that reads nothing has no fields. -/
theorem reads_pure (a : α) : Reads (pure a) [] where
  members m := by simp [MembersMatch]
  items xs := by cases xs <;> simp [ItemsMatch]

/-- A required field comes before those of the rest. -/
theorem reads_required {name : String} {d : Decoder α} {p : Value → Prop} {k : α → FieldReader β}
    {fs : List FieldShape} (hd : Accepts d p) (hk : ∀ a, Reads (k a) fs) :
    Reads (required name d >>= k) (⟨name, false, p⟩ :: fs) where
  members m := by
    simp only [bind_apply, required_members, MembersMatch, List.forall_mem_cons]
    -- a missing required member refuses the whole struct
    cases hl : member m name with
    | none => simp
    | some v =>
      simp only [Option.bind_some, ← hd v]
      cases hv : d v with
      | none => simp
      | some a => simpa [MembersMatch] using (hk a).members m
  items xs := by
    cases xs with
    | nil => simp [required, ItemsMatch]
    | cons v rest =>
      simp only [bind_apply, required, ItemsMatch, ← hd v]
      cases hv : d v with
      | none => simp
      | some a => simpa using (hk a).items rest

/-- A defaulted field comes before those of the rest, and may be missing. -/
theorem reads_defaulted {name : String} {d : Decoder α} {dflt : α} {p : Value → Prop}
    {k : α → FieldReader β} {fs : List FieldShape} (hd : Accepts d p) (hk : ∀ a, Reads (k a) fs) :
    Reads (defaulted name d dflt >>= k) (⟨name, true, p⟩ :: fs) where
  members m := by
    simp only [bind_apply, defaulted_members, MembersMatch, List.forall_mem_cons]
    -- a missing member leaves its default and reads on
    cases hl : member m name with
    | none => simpa [MembersMatch] using (hk dflt).members m
    | some v =>
      simp only [← hd v]
      cases hv : d v with
      | none => simp
      | some a => simpa [MembersMatch] using (hk a).members m
  items xs := by
    cases xs with
    -- an array that ends early leaves the rest to the defaults
    | nil => simpa [defaulted, ItemsMatch] using (hk dflt).items []
    | cons v rest =>
      simp only [bind_apply, defaulted, ItemsMatch, ← hd v]
      cases hv : d v with
      | none => simp
      | some a => simpa using (hk a).items rest

/-- A struct accepts exactly the documents of its reader's field shapes. -/
theorem accepts_struct {r : FieldReader α} {fs : List FieldShape} (h : Reads r fs) :
    Accepts (struct r) (IsStruct fs) := by
  intro v
  cases v with
  | object m => simpa [IsStruct] using h.members m
  | array xs =>
    simp only [struct, IsStruct, ← h.items xs]
    split
    · rename_i a ha; simp [ha]
    · -- nothing read, or items left over: both are refused
      rename_i hne
      simp only [Option.isSome_none, Bool.false_eq_true, false_iff, not_exists]
      exact fun a ha => hne a ha
  | _ => simp [struct, IsStruct]

end Wire.Serde
