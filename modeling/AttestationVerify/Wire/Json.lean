import AttestationVerify.Wire.Outcome
import AttestationVerify.Wire.Text
import Mathlib.Data.List.Nodup

namespace Wire.Json

/-!
# JSON documents

Three views of one document:

* `Tree` / `Reading` — what a streaming reader (`serde_json::Deserializer`) finds, in the order in
  which it drives a visitor over it: members in text order, repetitions kept, and a mark at the
  place where the text stops being JSON;
* `Value` — the value tree a document is read into, an object being a map from keys to values;
* `Value.toTree` — the reading of a document whose objects repeat no key;
* `Tree.events` — nodes and repeated keys from left to right, as a streaming visitor meets them.

A reader of concrete text is a function `Bytes → Reading`; nothing here depends on which one.
-/

/-- `serde_json::Number`: an integer of 64 bits, or a binary64 given by its bits. -/
inductive Number
  | posInt (n : UInt64)
  | negInt (n : Int64)
  | float (bits : UInt64)
  deriving DecidableEq

/-- `f64::is_finite` on the bits: the exponent field is not all ones. -/
def Number.isFinite : Number → Bool
  | .float bits => (bits >>> 52) &&& 0x7FF != 0x7FF
  | _ => true

/-- What the reader finds at one place of the text. -/
inductive Tree
  /-- The reader fails here. -/
  | bad
  | null
  | bool (b : Bool)
  | number (n : Number)
  | string (s : Str)
  /-- `closed` is false when the reader fails where the next item or the bracket should be. -/
  | array (items : List Tree) (closed : Bool)
  | object (members : List (Str × Tree)) (closed : Bool)

/-- One text: its first value, and whether only white space follows it. -/
structure Reading where
  tree : Tree
  ended : Bool

/-- `serde_json::Value`; an object is a map, listed in the order its entries were inserted. -/
inductive Value
  | null
  | bool (b : Bool)
  | number (n : Number)
  | string (s : Str)
  | array (items : List Value)
  | object (members : List (Str × Value))

/-- The members of an object, in the order of the text. -/
abbrev Members := List (Str × Value)

/-! ### Counting nodes -/

mutual

/-- Every scalar, array item, member value and container counts once; keys do not. -/
def Tree.nodes : Tree → ℕ
  | .bad => 0
  | .null => 1
  | .bool _ => 1
  | .number _ => 1
  | .string _ => 1
  | .array items _ => 1 + nodesItems items
  | .object members _ => 1 + nodesMembers members

/-- The nodes of an array's items. -/
def nodesItems : List Tree → ℕ
  | [] => 0
  | t :: rest => t.nodes + nodesItems rest

/-- The nodes of an object's members. -/
def nodesMembers : List (Str × Tree) → ℕ
  | [] => 0
  | (_, t) :: rest => t.nodes + nodesMembers rest

end

/-! ### Values as readings -/

mutual

/-- The reading of a document that denotes the value. -/
def Value.toTree : Value → Tree
  | .null => .null
  | .bool b => .bool b
  | .number n => .number n
  | .string s => .string s
  | .array items => .array (toTreeItems items) true
  | .object members => .object (toTreeMembers members) true

/-- The trees of an array's items. -/
def toTreeItems : List Value → List Tree
  | [] => []
  | v :: rest => v.toTree :: toTreeItems rest

/-- The trees of an object's members. -/
def toTreeMembers : Members → List (Str × Tree)
  | [] => []
  | (k, v) :: rest => (k, v.toTree) :: toTreeMembers rest

end

mutual

/-- No object at any depth repeats a key, and every number is finite: the values a strict parse
    can return. -/
def Value.Strict : Value → Prop
  | .null => True
  | .bool _ => True
  | .number n => n.isFinite = true
  | .string _ => True
  | .array items => strictItems items
  | .object members => (members.map Prod.fst).Nodup ∧ strictMembers members

/-- Every item of an array is strict. -/
def strictItems : List Value → Prop
  | [] => True
  | v :: rest => v.Strict ∧ strictItems rest

/-- Every member of an object is strict. -/
def strictMembers : Members → Prop
  | [] => True
  | (_, v) :: rest => v.Strict ∧ strictMembers rest

end

/-- The recursion over items is a condition on each. -/
theorem strictItems_iff {items : List Value} : strictItems items ↔ ∀ v ∈ items, v.Strict := by
  induction items with
  | nil => simp [strictItems]
  | cons v rest ih => simp [strictItems, ih]

/-- The recursion over members is a condition on each. -/
theorem strictMembers_iff {members : Members} :
    strictMembers members ↔ ∀ m ∈ members, m.2.Strict := by
  induction members with
  | nil => simp [strictMembers]
  | cons m rest ih => simp [strictMembers, ih]

@[simp] theorem strict_null : Value.null.Strict := trivial

@[simp] theorem strict_string (s : Str) : (Value.string s).Strict := trivial

@[simp] theorem strict_posInt (n : UInt64) : (Value.number (.posInt n)).Strict := rfl

/-- An array is as strict as its items. -/
@[simp] theorem strict_array {items : List Value} :
    (Value.array items).Strict ↔ ∀ v ∈ items, v.Strict := strictItems_iff

/-- An object is strict when no name is repeated and its members are. -/
@[simp] theorem strict_object {members : Members} :
    (Value.object members).Strict ↔
      (members.map Prod.fst).Nodup ∧ ∀ m ∈ members, m.2.Strict := by
  rw [← strictMembers_iff]; rfl

/-- `Map::get`. -/
def member (members : Members) (name : String) : Option Value := members.lookup name.toList

/-! ### Reading a value off its reading -/

/-- The recursion over items is a `map`. -/
theorem toTreeItems_eq_map (items : List Value) : toTreeItems items = items.map Value.toTree := by
  induction items with
  | nil => rfl
  | cons v rest ih => simp [toTreeItems, ih]

/-- The recursion over members is a `map`. -/
theorem toTreeMembers_eq_map (members : Members) :
    toTreeMembers members = members.map fun m => (m.1, m.2.toTree) := by
  induction members with
  | nil => rfl
  | cons m rest ih => simp [toTreeMembers, ih]

/-- Only `null` has the tree of `null`. -/
@[simp] theorem toTree_eq_null {v : Value} : v.toTree = .null ↔ v = .null := by
  cases v <;> simp [Value.toTree]

/-- Only a number has the tree of that number. -/
@[simp] theorem toTree_eq_number {v : Value} {n : Number} :
    v.toTree = .number n ↔ v = .number n := by
  cases v <;> simp [Value.toTree]

/-- Only a string has the tree of that string. -/
@[simp] theorem toTree_eq_string {v : Value} {s : Str} :
    v.toTree = .string s ↔ v = .string s := by
  cases v <;> simp [Value.toTree]

/-- The tree of an array is closed, and made of its items' trees. -/
theorem toTree_eq_array {v : Value} {items : List Tree} {closed : Bool} :
    v.toTree = .array items closed ↔
      ∃ vs, v = .array vs ∧ items = vs.map Value.toTree ∧ closed = true := by
  cases v <;> simp [Value.toTree, toTreeItems_eq_map, eq_comm]

/-- The tree of an object is closed, and made of its members' trees. -/
theorem toTree_eq_object {v : Value} {members : List (Str × Tree)} {closed : Bool} :
    v.toTree = .object members closed ↔
      ∃ ms, v = .object ms ∧ (members = ms.map fun m => (m.1, m.2.toTree)) ∧ closed = true := by
  cases v <;> simp [Value.toTree, toTreeMembers_eq_map, eq_comm]

/-- In an object without repeated keys a member is found under its key. -/
theorem lookup_of_mem {members : Members} {key : Str} {v : Value}
    (hnodup : (members.map Prod.fst).Nodup) (hmem : (key, v) ∈ members) :
    members.lookup key = some v := by
  induction members with
  | nil => simp at hmem
  | cons m rest ih =>
    obtain ⟨k, w⟩ := m
    simp only [List.map_cons, List.nodup_cons] at hnodup
    rcases List.mem_cons.mp hmem with heq | hrest
    · simp only [Prod.mk.injEq] at heq
      obtain ⟨rfl, rfl⟩ := heq
      simp
    · have hne : (key == k) = false := by
        rw [beq_eq_false_iff_ne]
        rintro rfl
        exact hnodup.1 (List.mem_map.mpr ⟨(key, v), hrest, rfl⟩)
      rw [List.lookup_cons, hne]
      exact ih hnodup.2 hrest

/-- A name that no member has is not found. -/
theorem lookup_of_not_mem {members : Members} {key : Str} (h : key ∉ members.map Prod.fst) :
    members.lookup key = none := by
  rw [List.lookup_eq_none_iff]
  intro m hm
  simpa using fun heq => h (List.mem_map.mpr ⟨m, hm, heq.symm⟩)

/-- The reader found exactly the value `v`, and `v` is strict. -/
def Denotes (t : Tree) (v : Value) : Prop := t = v.toTree ∧ v.Strict

@[simp] theorem denotes_null : Denotes .null .null := ⟨rfl, trivial⟩

@[simp] theorem denotes_string (s : Str) : Denotes (.string s) (.string s) := ⟨rfl, trivial⟩

@[simp] theorem denotes_posInt (n : UInt64) :
    Denotes (.number (.posInt n)) (.number (.posInt n)) := ⟨rfl, rfl⟩

/-- A closed array denotes a value when each of its items does. -/
theorem exists_denotes_array {items : List Tree} :
    (∃ v, Denotes (.array items true) v) ↔ ∀ t ∈ items, ∃ v, Denotes t v := by
  constructor
  · rintro ⟨v, htree, hstrict⟩ t ht
    obtain ⟨vs, rfl, rfl, -⟩ := toTree_eq_array.mp htree.symm
    obtain ⟨w, hw, rfl⟩ := List.mem_map.mp ht
    exact ⟨w, rfl, strict_array.mp hstrict w hw⟩
  · intro h
    obtain ⟨vs, hvs⟩ := exists_forall₂ h
    refine ⟨.array vs, ?_, ?_⟩
    · refine (toTree_eq_array.mpr ⟨vs, rfl, ?_, rfl⟩).symm
      clear h
      induction hvs with
      | nil => rfl
      | cons hd _ ih => rw [ih, List.map_cons, hd.1]
    · rw [strict_array]
      clear h
      induction hvs with
      | nil => simp
      | cons hd _ ih => exact List.forall_mem_cons.mpr ⟨hd.2, ih⟩

/-- A closed object does when no name repeats and each of its members does. -/
theorem exists_denotes_object {members : List (Str × Tree)} :
    (∃ v, Denotes (.object members true) v) ↔
      (members.map Prod.fst).Nodup ∧ ∀ m ∈ members, ∃ v, Denotes m.2 v := by
  constructor
  · intro h
    obtain ⟨v, htree, hstrict⟩ := h
    obtain ⟨ms, rfl, rfl, -⟩ := toTree_eq_object.mp htree.symm
    obtain ⟨hnodup, hms⟩ := strict_object.mp hstrict
    refine ⟨by simpa [Function.comp_def] using hnodup, fun m hm => ?_⟩
    obtain ⟨w, hw, rfl⟩ := List.mem_map.mp hm
    exact ⟨w.2, rfl, hms w hw⟩
  · rintro ⟨hnodup, h⟩
    obtain ⟨ms, hms⟩ := exists_forall₂ (R := fun m w => m.1 = w.1 ∧ Denotes m.2 w.2)
      fun m hm => (h m hm).elim fun v hv => ⟨(m.1, v), rfl, hv⟩
    have hmap : members = ms.map fun m => (m.1, m.2.toTree) := by
      clear h hnodup
      induction hms with
      | nil => rfl
      | cons hd _ ih => rw [ih, List.map_cons, ← hd.1, ← hd.2.1]
    refine ⟨.object ms, (toTree_eq_object.mpr ⟨ms, rfl, hmap, rfl⟩).symm, ?_⟩
    rw [strict_object]
    refine ⟨by simpa [hmap, Function.comp_def] using hnodup, ?_⟩
    clear h hnodup hmap
    induction hms with
    | nil => simp
    | cons hd _ ih => exact List.forall_mem_cons.mpr ⟨hd.2.2, ih⟩

/-- What the reader found under a key of a strict object is the reading of the member there. -/
theorem member_toTree_of_mem {ms : Members} (name : String) {t : Tree}
    (hnodup : (ms.map Prod.fst).Nodup) (h : (name.toList, t) ∈ ms.map fun m => (m.1, m.2.toTree)) :
    ∃ v, member ms name = some v ∧ v.toTree = t ∧ (name.toList, v) ∈ ms := by
  obtain ⟨⟨k, v⟩, hmem, heq⟩ := List.mem_map.mp h
  simp only [Prod.mk.injEq] at heq
  obtain ⟨rfl, rfl⟩ := heq
  exact ⟨v, lookup_of_mem hnodup hmem, rfl, hmem⟩

/-! ### Parts of a document count for no more than the whole -/

/-- An item has no more nodes than all items together. -/
theorem nodes_le_nodesItems {items : List Tree} {t : Tree} (h : t ∈ items) :
    t.nodes ≤ nodesItems items := by
  induction items with
  | nil => simp at h
  | cons u rest ih =>
    simp only [nodesItems]
    rcases List.mem_cons.mp h with rfl | h
    · omega
    · have := ih h; omega

/-- A member has no more nodes than all members together. -/
theorem nodes_le_nodesMembers {members : List (Str × Tree)} {m : Str × Tree} (h : m ∈ members) :
    m.2.nodes ≤ nodesMembers members := by
  induction members with
  | nil => simp at h
  | cons u rest ih =>
    obtain ⟨k, t⟩ := u
    simp only [nodesMembers]
    rcases List.mem_cons.mp h with rfl | h
    · simp
    · have := ih h; omega

/-! ### Building objects -/

/-- The members of an object some of whose fields are left out. -/
def fields : List (String × Option Value) → Members
  | [] => []
  | (_, none) :: rest => fields rest
  | (name, some v) :: rest => (name.toList, v) :: fields rest

@[simp] theorem fields_nil : fields [] = [] := rfl

/-- Only the fields that are present have names, in the order they are listed. -/
theorem keys_fields_sublist (l : List (String × Option Value)) :
    ((fields l).map Prod.fst).Sublist (l.map fun f => f.1.toList) := by
  induction l with
  | nil => simp
  | cons f rest ih =>
    obtain ⟨name, _ | v⟩ := f
    · exact ih.cons _
    · exact ih.cons_cons _

/-- A field that is left out or has a strict value. -/
def StrictField (o : Option Value) : Prop := ∀ v, o = some v → v.Strict

/-- A field that is present is as strict as its value. -/
@[simp] theorem strictField_some {v : Value} : StrictField (some v) ↔ v.Strict :=
  ⟨fun h => h v rfl, fun h _ hw => Option.some.inj hw ▸ h⟩

/-- A field that may be absent is strict when it is wherever it is present. -/
theorem strictField_map {γ : Type} {g : γ → Value} {o : Option γ}
    (h : ∀ x, o = some x → (g x).Strict) : StrictField (o.map g) := by
  intro v hv
  obtain ⟨x, hx, rfl⟩ := Option.map_eq_some_iff.mp hv
  exact h x hx

/-- Fields of distinct names make an object without repeated keys. -/
theorem strict_fields {l : List (String × Option Value)} (hnames : (l.map Prod.fst).Nodup)
    (hvalues : ∀ f ∈ l, StrictField f.2) : (Value.object (fields l)).Strict := by
  rw [strict_object]
  constructor
  · refine (keys_fields_sublist l).nodup ?_
    have hmap : l.map (fun f => f.1.toList) = (l.map Prod.fst).map String.toList := by
      rw [List.map_map]
      rfl
    rw [hmap]
    exact hnames.map fun _ _ h => String.toList_inj.mp h
  · clear hnames
    induction l with
    | nil => simp
    | cons f rest ih =>
      have ih' := ih fun g hg => hvalues g (by simp [hg])
      obtain ⟨name, _ | v⟩ := f
      · exact ih'
      · intro m hm
        rcases List.mem_cons.mp hm with rfl | hm
        · exact hvalues (name, some v) (by simp) v rfl
        · exact ih' m hm

/-- Looking a name up skips the fields of other names. -/
@[simp] theorem member_fields_cons (key name : String) (o : Option Value)
    (rest : List (String × Option Value)) :
    member (fields ((name, o) :: rest)) key =
      if key = name then o.or (member (fields rest) key) else member (fields rest) key := by
  unfold member
  cases o with
  | none => simp only [fields, Option.none_or, ite_self]
  | some v =>
    by_cases h : key = name
    · subst h
      simp only [fields, List.lookup_cons, beq_self_eq_true, Option.some_or, if_true]
    · have hne : (key.toList == name.toList) = false := by
        rw [beq_eq_false_iff_ne]
        exact fun heq => h (String.toList_inj.mp heq)
      simp only [fields, List.lookup_cons, hne, if_neg h]

@[simp] theorem member_nil (key : String) : member [] key = none := rfl

/-! ### A tree from left to right -/

/-- What a reader meets in a text. -/
inductive Event
  | node
  /-- A key that an earlier member of its object has. -/
  | repeatedKey
  deriving DecidableEq

mutual

/-- What a reader meets in a tree, in order. -/
def Tree.events : Tree → List Event
  | .bad => []
  | .null => [.node]
  | .bool _ => [.node]
  | .number _ => [.node]
  | .string _ => [.node]
  | .array items _ => .node :: eventsItems items
  | .object members _ => .node :: eventsMembers members []

/-- What a reader meets in an array's items. -/
def eventsItems : List Tree → List Event
  | [] => []
  | t :: rest => t.events ++ eventsItems rest

/-- A key is met before its value; `seen` holds the keys of the members before. -/
def eventsMembers : List (Str × Tree) → List Str → List Event
  | [], _ => []
  | (key, t) :: rest, seen =>
    if key ∈ seen then .repeatedKey :: (t.events ++ eventsMembers rest (key :: seen))
    else t.events ++ eventsMembers rest (key :: seen)

end

mutual

/-- The reader finds no fault: the whole text is JSON with numbers in range. -/
def Tree.Complete : Tree → Prop
  | .bad => False
  | .null => True
  | .bool _ => True
  | .number n => n.isFinite = true
  | .string _ => True
  | .array items closed => closed = true ∧ completeItems items
  | .object members closed => closed = true ∧ completeMembers members

/-- Every item of an array is complete. -/
def completeItems : List Tree → Prop
  | [] => True
  | t :: rest => t.Complete ∧ completeItems rest

/-- Every member of an object is complete. -/
def completeMembers : List (Str × Tree) → Prop
  | [] => True
  | (_, t) :: rest => t.Complete ∧ completeMembers rest

end

mutual

/-- No object at any depth repeats a key. -/
def Tree.DistinctKeys : Tree → Prop
  | .array items _ => distinctItems items
  | .object members _ => (members.map Prod.fst).Nodup ∧ distinctMembers members
  | _ => True

/-- The items of an array have distinct keys throughout. -/
def distinctItems : List Tree → Prop
  | [] => True
  | t :: rest => t.DistinctKeys ∧ distinctItems rest

/-- The members of an object have distinct keys throughout. -/
def distinctMembers : List (Str × Tree) → Prop
  | [] => True
  | (_, t) :: rest => t.DistinctKeys ∧ distinctMembers rest

end

mutual

/-- The tree with its objects read as maps. -/
def Tree.toValue : Tree → Value
  | .bad => .null
  | .null => .null
  | .bool b => .bool b
  | .number n => .number n
  | .string s => .string s
  | .array items _ => .array (toValueItems items)
  | .object members _ => .object (toValueMembers members)

/-- The values of an array's items. -/
def toValueItems : List Tree → List Value
  | [] => []
  | t :: rest => t.toValue :: toValueItems rest

/-- The values of an object's members. -/
def toValueMembers : List (Str × Tree) → Members
  | [] => []
  | (key, t) :: rest => (key, t.toValue) :: toValueMembers rest

end

/-- Node number `limit + 1` is met before any repeated key. -/
def Tree.Exceeds (t : Tree) (limit : ℕ) : Prop :=
  ∃ before after, t.events = before ++ .node :: after ∧ .repeatedKey ∉ before ∧
    before.count .node = limit

mutual

/-- A reader meets each node of a tree once. -/
theorem count_events (t : Tree) : t.events.count .node = t.nodes := by
  cases t with
  | array items closed =>
    rw [Tree.events, Tree.nodes, List.count_cons_self, count_eventsItems items, Nat.add_comm]
  | object members closed =>
    rw [Tree.events, Tree.nodes, List.count_cons_self, count_eventsMembers members [], Nat.add_comm]
  | _ => rfl

/-- A reader meets each node of the items once. -/
theorem count_eventsItems (items : List Tree) :
    (eventsItems items).count .node = nodesItems items := by
  cases items with
  | nil => rfl
  | cons t rest =>
    rw [eventsItems, nodesItems, List.count_append, count_events t, count_eventsItems rest]

/-- A reader meets each node of the members once, whichever names came before. -/
theorem count_eventsMembers (members : List (Str × Tree)) (seen : List Str) :
    (eventsMembers members seen).count .node = nodesMembers members := by
  match members with
  | [] => rfl
  | (key, t) :: rest =>
    have hrest := count_eventsMembers rest (key :: seen)
    rw [eventsMembers, nodesMembers]
    split
    · rw [List.count_cons_of_ne (by decide), List.count_append, count_events t, hrest]
    · rw [List.count_append, count_events t, hrest]

end

mutual

/-- A reader meets no repeated name exactly when the keys are distinct. -/
theorem repeatedKey_not_mem_events (t : Tree) : .repeatedKey ∉ t.events ↔ t.DistinctKeys := by
  cases t with
  | array items closed =>
    simp [Tree.events, Tree.DistinctKeys, repeatedKey_not_mem_eventsItems items]
  | object members closed =>
    simp [Tree.events, Tree.DistinctKeys, repeatedKey_not_mem_eventsMembers members []]
  | _ => simp [Tree.events, Tree.DistinctKeys]

/-- A reader of items meets no repeated name when each has distinct keys. -/
theorem repeatedKey_not_mem_eventsItems (items : List Tree) :
    .repeatedKey ∉ eventsItems items ↔ distinctItems items := by
  cases items with
  | nil => simp [eventsItems, distinctItems]
  | cons t rest =>
    simp [eventsItems, distinctItems, repeatedKey_not_mem_events t,
      repeatedKey_not_mem_eventsItems rest]

/-- A reader of members meets no repeated name when they and the names seen before are distinct. -/
theorem repeatedKey_not_mem_eventsMembers (members : List (Str × Tree)) (seen : List Str) :
    .repeatedKey ∉ eventsMembers members seen ↔
      ((members.map Prod.fst).Nodup ∧ ∀ key ∈ members.map Prod.fst, key ∉ seen) ∧
        distinctMembers members := by
  match members with
  | [] => simp [eventsMembers, distinctMembers]
  | (key, t) :: rest =>
    have ht := repeatedKey_not_mem_events t
    have hrest := repeatedKey_not_mem_eventsMembers rest (key :: seen)
    simp only [eventsMembers, distinctMembers, List.map_cons, List.nodup_cons,
      List.forall_mem_cons]
    by_cases hkey : key ∈ seen
    · -- met before: the event is there, and the key is not new
      simp [hkey]
    · -- new here: what is left is that no later member repeats it
      rw [if_neg hkey, List.mem_append, not_or, ht, hrest]
      simp only [List.mem_cons, not_or]
      constructor
      · intro ⟨ht, ⟨hnodup, hnew⟩, hd⟩
        have hfresh : key ∉ rest.map Prod.fst := fun hmem => (hnew key hmem).1 rfl
        exact ⟨⟨⟨hfresh, hnodup⟩, hkey, fun k hk => (hnew k hk).2⟩, ht, hd⟩
      · intro ⟨⟨⟨hfresh, hnodup⟩, _, hnew⟩, ht, hd⟩
        exact ⟨ht, ⟨hnodup, fun k hk => ⟨fun heq => hfresh (heq ▸ hk), hnew k hk⟩⟩, hd⟩

end

end Wire.Json
