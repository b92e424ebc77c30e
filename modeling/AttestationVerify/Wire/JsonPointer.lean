import AttestationVerify.Wire.Json
import AttestationVerify.Wire.Numeral

namespace Wire.Json

/-!
# Lenient reading and pointers

What `serde_json` makes of a document by itself, and how a place in it is looked up.

* `Tree.collect` — `Deserialize for Value`: of repeated keys the last one counts, and a number that
  is not finite is a null;
* `collect_toTree` — on the reading of a strict value nothing is lost;
* `Value.get`, `Value.pointer` — one member, and a path of members and indices.
-/

/-! ### Reading -/

/-- `Map::insert`: the value under a key that is there is replaced. -/
def insertMember (key : Str) (v : Value) : Members → Members
  | [] => [(key, v)]
  | (k, w) :: rest => if k = key then (k, v) :: rest else (k, w) :: insertMember key v rest

mutual

/-- The value `serde_json` makes of a tree, where a repeated name keeps its last value. -/
def Tree.collect : Tree → Option Value
  | .bad => none
  | .null => some .null
  | .bool b => some (.bool b)
  | .number n => some (if n.isFinite then .number n else .null)
  | .string s => some (.string s)
  | .array items closed => do
    let vs ← collectItems items
    if closed then some (.array vs) else none
  | .object members closed => do
    let ms ← collectMembers members []
    if closed then some (.object ms) else none

/-- The values of an array's items. -/
def collectItems : List Tree → Option (List Value)
  | [] => some []
  | t :: rest => do
    let v ← t.collect
    let vs ← collectItems rest
    some (v :: vs)

/-- The members of an object, over those read before. -/
def collectMembers : List (Str × Tree) → Members → Option Members
  | [], ms => some ms
  | (key, t) :: rest, ms => do
    let v ← t.collect
    collectMembers rest (insertMember key v ms)

end

/-- `serde_json::from_slice::<Value>`. -/
def Reading.collect (reading : Reading) : Option Value :=
  if reading.ended then reading.tree.collect else none

/-- A new name goes to the end. -/
theorem insertMember_of_not_mem {key : Str} {ms : Members} (v : Value)
    (h : key ∉ ms.map Prod.fst) : insertMember key v ms = ms ++ [(key, v)] := by
  induction ms with
  | nil => rfl
  | cons m rest ih =>
    obtain ⟨k, w⟩ := m
    rw [List.map_cons, List.mem_cons, not_or] at h
    rw [insertMember, if_neg (Ne.symm h.1), ih h.2, List.cons_append]

mutual

/-- A strict value is collected from its own tree. -/
theorem collect_toTree {v : Value} (h : v.Strict) : v.toTree.collect = some v := by
  cases v with
  | null => rfl
  | bool b => rfl
  | number n =>
    have hfinite : n.isFinite = true := h
    rw [Value.toTree, Tree.collect, if_pos hfinite]
  | string s => rfl
  | array items =>
    rw [Value.toTree, Tree.collect, collectItems_toTree h]
    rfl
  | object members =>
    obtain ⟨hnodup, hmembers⟩ := (h : _ ∧ strictMembers members)
    have hcollect : collectMembers (toTreeMembers members) [] = some members :=
      collectMembers_toTree hnodup hmembers
    rw [Value.toTree, Tree.collect, hcollect]
    rfl

/-- Strict items are collected from their own trees. -/
theorem collectItems_toTree {items : List Value} (h : strictItems items) :
    collectItems (toTreeItems items) = some items := by
  cases items with
  | nil => rfl
  | cons v rest =>
    rw [toTreeItems, collectItems, collect_toTree h.1, collectItems_toTree h.2]
    rfl

/-- No key is met twice, so each is inserted at the end. -/
theorem collectMembers_toTree {ms members : Members}
    (hnodup : ((ms ++ members).map Prod.fst).Nodup) (h : strictMembers members) :
    collectMembers (toTreeMembers members) ms = some (ms ++ members) := by
  cases members with
  | nil => rw [toTreeMembers, collectMembers, List.append_nil]
  | cons m rest =>
    obtain ⟨key, v⟩ := m
    have hkey : key ∉ ms.map Prod.fst := by
      rw [List.map_append, List.map_cons, List.nodup_append] at hnodup
      exact fun hmem => hnodup.2.2 key hmem key (List.mem_cons_self) rfl
    rw [List.append_cons] at hnodup ⊢
    rw [toTreeMembers, collectMembers, collect_toTree h.1, Option.bind_eq_bind, Option.bind_some,
      insertMember_of_not_mem v hkey]
    exact collectMembers_toTree hnodup h.2

end

/-! ### Places -/

/-- `Value::get` of a member. -/
def Value.get (name : String) : Value → Option Value
  | .object ms => member ms name
  | _ => none

/-- An array index in a pointer: no sign and no leading zero. -/
def parseIndex (token : Str) : Option ℕ :=
  if token.head? = some '+' ∨ (token.head? = some '0' ∧ token.length ≠ 1) then none
  else (parseU64 token).map UInt64.toNat

/-- `Value::pointer` of tokens without escapes, each of them one step down. -/
def Value.pointer (v : Value) : List String → Option Value
  | [] => some v
  | token :: tokens =>
    match v with
    | .object ms => (member ms token).bind fun w => w.pointer tokens
    | .array items => (parseIndex token.toList).bind fun i => items[i]?.bind fun w =>
        w.pointer tokens
    | _ => none

/-- `Value::is_null`. -/
def Value.isNull : Value → Bool
  | .null => true
  | _ => false

/-- `Value::as_str`. -/
def Value.asStr : Value → Option Str
  | .string s => some s
  | _ => none

end Wire.Json
