import AttestationVerify.Externals
import AttestationVerify.ParseUtil
import AttestationVerify.Wire.Serde

namespace AttestationVerify

open Wire Wire.Json Wire.Serde

/-!
# Strict JSON

`strict_json.rs`: the visitor that rebuilds a value while it refuses repeated object keys and
charges every node against a budget.

* `visit` — one visitor call on one place of the text, threading the node counter;
* `parseStrict` — the whole document, which tells an exhausted budget from any other failure by
  the counter;
* `parseStrict_eq_ok` — a document is accepted exactly when it is the complete reading of a value
  without repeated keys or infinite numbers and within the budget;
* `parseStrict_classifies` — which of the two failures a rejected document gets.
-/

/-- A visitor call: the result, if any, and the counter afterwards. -/
abbrev Visit (α : Type) := ℕ → Option α × ℕ

/-- Charges one produced node, and fails once the budget is exceeded. -/
def charge {α : Type} (k : Visit α) : Visit α := fun nodes =>
  if nodes + 1 > maxJsonNodes then (none, nodes + 1) else k (nodes + 1)

mutual

/-- `deserialize_any` with the visitor: one `visit_*` callback, then the reader's check of the
    closing bracket. -/
def visit : Tree → Visit Value
  | .bad => fun nodes => (none, nodes)
  | .null => charge fun nodes => (some .null, nodes)
  | .bool b => charge fun nodes => (some (.bool b), nodes)
  | .number n => charge fun nodes =>
      if n.isFinite then (some (.number n), nodes) else (none, nodes)
  | .string s => charge fun nodes => (some (.string s), nodes)
  | .array items closed => charge fun nodes =>
      match visitSeq items closed nodes with
      | (some vs, used) => (some (.array vs), used)
      | (none, used) => (none, used)
  | .object members closed => charge fun nodes =>
      match visitMap members closed [] nodes with
      | (some ms, used) => (some (.object ms), used)
      | (none, used) => (none, used)

/-- The loop of `visit_seq`. -/
def visitSeq : List Tree → Bool → Visit (List Value)
  | [], closed => fun nodes => (if closed then some [] else none, nodes)
  | t :: rest, closed => fun nodes =>
      match visit t nodes with
      | (none, used) => (none, used)
      | (some v, used) =>
        match visitSeq rest closed used with
        | (none, used') => (none, used')
        | (some vs, used') => (some (v :: vs), used')

/-- The loop of `visit_map`; `seen` holds the keys inserted so far. -/
def visitMap : List (Str × Tree) → Bool → List Str → Visit Members
  | [], closed, _ => fun nodes => (if closed then some [] else none, nodes)
  | (key, t) :: rest, closed, seen => fun nodes =>
      if key ∈ seen then (none, nodes)
      else
        match visit t nodes with
        | (none, used) => (none, used)
        | (some v, used) =>
          match visitMap rest closed (key :: seen) used with
          | (none, used') => (none, used')
          | (some ms, used') => (some ((key, v) :: ms), used')

end

/-- `parse_strict`: one complete value, with unique keys and a bounded number of nodes. -/
def parseStrict (X : Externals) (bytes : Bytes) : Except Error Value :=
  match visit (X.readJson bytes).tree 0 with
  | (none, used) =>
    if used > maxJsonNodes then .error (.resourceLimit (.tooManyJsonNodes maxJsonNodes))
    else .error (.parse .json)
  | (some v, _) => if (X.readJson bytes).ended then .ok v else .error (.parse .json)

/-- `serde_json::from_value(value)` with a failure reported as `ParseError::Json`. -/
def fromValue {α : Type} (d : Decoder α) (v : Value) : Except Error α :=
  okOr (d v) (.parse .json)

/-! ### One visitor call -/

/-- A charged visit needs one node left for itself. -/
theorem charge_eq_some {α : Type} {k : Visit α} {nodes used : ℕ} {a : α} :
    charge k nodes = (some a, used) ↔
      nodes + 1 ≤ maxJsonNodes ∧ k (nodes + 1) = (some a, used) := by
  unfold charge
  split <;> simp <;> omega

/-- A value without parts costs its own node. -/
theorem charge_scalar_eq_some {v w : Value} {nodes used : ℕ} :
    charge (fun n => (some v, n)) nodes = (some w, used) ↔
      nodes + 1 ≤ maxJsonNodes ∧ v = w ∧ nodes + 1 = used := by
  rw [charge_eq_some, Prod.mk.injEq, Option.some.injEq]

mutual

/-- A successful call rebuilds exactly the value whose reading it was driven over, and the counter
    advances by that value's nodes. -/
theorem visit_sound {t : Tree} {nodes used : ℕ} {v : Value} (h : visit t nodes = (some v, used)) :
    t = v.toTree ∧ v.Strict ∧ used = nodes + t.nodes ∧ used ≤ maxJsonNodes := by
  cases t with
  | bad => simp [visit] at h
  | null =>
    rw [visit, charge_scalar_eq_some] at h
    obtain ⟨hle, rfl, rfl⟩ := h
    exact ⟨rfl, trivial, rfl, hle⟩
  | bool b =>
    rw [visit, charge_scalar_eq_some] at h
    obtain ⟨hle, rfl, rfl⟩ := h
    exact ⟨rfl, trivial, rfl, hle⟩
  | number n =>
    simp only [visit, charge_eq_some] at h
    obtain ⟨hle, hv⟩ := h
    split at hv
    · rename_i hfin
      simp only [Prod.mk.injEq, Option.some.injEq] at hv
      obtain ⟨rfl, rfl⟩ := hv
      exact ⟨rfl, hfin, rfl, hle⟩
    · simp at hv
  | string s =>
    rw [visit, charge_scalar_eq_some] at h
    obtain ⟨hle, rfl, rfl⟩ := h
    exact ⟨rfl, trivial, rfl, hle⟩
  | array items closed =>
    simp only [visit, charge_eq_some] at h
    obtain ⟨hle, hv⟩ := h
    split at hv
    · rename_i vs used' hseq
      simp only [Prod.mk.injEq, Option.some.injEq] at hv
      obtain ⟨rfl, rfl⟩ := hv
      obtain ⟨rfl, rfl, hstrict, rfl, hmax⟩ := visitSeq_sound hle hseq
      exact ⟨rfl, hstrict, by simp only [Tree.nodes]; omega, hmax⟩
    · simp at hv
  | object members closed =>
    simp only [visit, charge_eq_some] at h
    obtain ⟨hle, hv⟩ := h
    split at hv
    · rename_i ms used' hmap
      simp only [Prod.mk.injEq, Option.some.injEq] at hv
      obtain ⟨rfl, rfl⟩ := hv
      obtain ⟨rfl, rfl, hnodup, -, hstrict, rfl, hmax⟩ := visitMap_sound hle hmap
      exact ⟨rfl, ⟨hnodup, hstrict⟩, by simp only [Tree.nodes]; omega, hmax⟩
    · simp at hv

/-- What a visited array's elements and the counter are, if the visit succeeds. -/
theorem visitSeq_sound {items : List Tree} {closed : Bool} {nodes used : ℕ} {vs : List Value}
    (hle : nodes ≤ maxJsonNodes) (h : visitSeq items closed nodes = (some vs, used)) :
    closed = true ∧ items = toTreeItems vs ∧ strictItems vs ∧ used = nodes + nodesItems items ∧
      used ≤ maxJsonNodes := by
  cases items with
  | nil =>
    simp only [visitSeq, Prod.mk.injEq, Option.ite_none_right_eq_some, Option.some.injEq] at h
    obtain ⟨⟨rfl, rfl⟩, rfl⟩ := h
    exact ⟨rfl, rfl, trivial, rfl, hle⟩
  | cons t rest =>
    simp only [visitSeq] at h
    split at h
    · simp at h
    · rename_i v used₁ hv
      split at h
      · simp at h
      · rename_i vs' used₂ hrest
        simp only [Prod.mk.injEq, Option.some.injEq] at h
        obtain ⟨rfl, rfl⟩ := h
        obtain ⟨rfl, hvs, rfl, hmax₁⟩ := visit_sound hv
        obtain ⟨rfl, rfl, hrs, rfl, hmax₂⟩ := visitSeq_sound hmax₁ hrest
        exact ⟨rfl, rfl, ⟨hvs, hrs⟩, by simp only [nodesItems]; omega, hmax₂⟩

/-- What an object's members and the counter are, if the visit succeeds: the keys are new and
    distinct. -/
theorem visitMap_sound {members : List (Str × Tree)} {closed : Bool} {seen : List Str}
    {nodes used : ℕ} {ms : Members} (hle : nodes ≤ maxJsonNodes)
    (h : visitMap members closed seen nodes = (some ms, used)) :
    closed = true ∧ members = toTreeMembers ms ∧ (ms.map Prod.fst).Nodup ∧
      (∀ k ∈ ms.map Prod.fst, k ∉ seen) ∧ strictMembers ms ∧
      used = nodes + nodesMembers members ∧ used ≤ maxJsonNodes := by
  match members with
  | [] =>
    simp only [visitMap, Prod.mk.injEq, Option.ite_none_right_eq_some, Option.some.injEq] at h
    obtain ⟨⟨rfl, rfl⟩, rfl⟩ := h
    exact ⟨rfl, rfl, List.nodup_nil, by simp, trivial, rfl, hle⟩
  | (key, t) :: rest =>
    simp only [visitMap] at h
    split at h
    · simp at h
    · rename_i hkey
      split at h
      · simp at h
      · rename_i v used₁ hv
        split at h
        · simp at h
        · rename_i ms' used₂ hrest
          simp only [Prod.mk.injEq, Option.some.injEq] at h
          obtain ⟨rfl, rfl⟩ := h
          obtain ⟨rfl, hvs, rfl, hmax₁⟩ := visit_sound hv
          obtain ⟨rfl, rfl, hnodup, hseen, hrs, rfl, hmax₂⟩ := visitMap_sound hmax₁ hrest
          -- the keys of the rest were checked against this one
          have hnew : key ∉ ms'.map Prod.fst := fun hk => hseen key hk (by simp)
          refine ⟨rfl, rfl, List.nodup_cons.mpr ⟨hnew, hnodup⟩, ?_, ⟨hvs, hrs⟩,
            by simp only [nodesMembers]; omega, hmax₂⟩
          intro k hk
          rcases List.mem_cons.mp hk with rfl | hk
          · exact hkey
          · exact fun hs => hseen k hk (List.mem_cons_of_mem _ hs)

end

mutual

/-- The converse: the reading of a strict value within the budget is visited to that value. -/
theorem visit_toTree {v : Value} (nodes : ℕ) (hv : v.Strict)
    (hmax : nodes + v.toTree.nodes ≤ maxJsonNodes) :
    visit v.toTree nodes = (some v, nodes + v.toTree.nodes) := by
  cases v with
  | null => exact charge_eq_some.mpr ⟨hmax, rfl⟩
  | bool b => exact charge_eq_some.mpr ⟨hmax, rfl⟩
  | number n =>
    simp only [Value.toTree, visit, charge_eq_some]
    exact ⟨hmax, if_pos hv⟩
  | string s => exact charge_eq_some.mpr ⟨hmax, rfl⟩
  | array items =>
    simp only [Value.toTree, Tree.nodes] at hmax ⊢
    have hseq := visitSeq_toTree (nodes + 1) hv (by omega)
    simp only [visit, charge_eq_some, hseq]
    exact ⟨by omega, by rw [Nat.add_assoc]⟩
  | object members =>
    simp only [Value.toTree, Tree.nodes] at hmax ⊢
    have hmap := visitMap_toTree [] (nodes + 1) hv.1 (by simp) hv.2 (by omega)
    simp only [visit, charge_eq_some, hmap]
    exact ⟨by omega, by rw [Nat.add_assoc]⟩

/-- The elements of a strict value are visited to themselves within the limit. -/
theorem visitSeq_toTree {vs : List Value} (nodes : ℕ) (hvs : strictItems vs)
    (hmax : nodes + nodesItems (toTreeItems vs) ≤ maxJsonNodes) :
    visitSeq (toTreeItems vs) true nodes = (some vs, nodes + nodesItems (toTreeItems vs)) := by
  cases vs with
  | nil => rfl
  | cons v rest =>
    simp only [toTreeItems, nodesItems] at hmax ⊢
    have hv := visit_toTree nodes hvs.1 (by omega)
    have hrest := visitSeq_toTree (nodes + v.toTree.nodes) hvs.2 (by omega)
    simp only [visitSeq, hv, hrest, Nat.add_assoc]

/-- The members of a strict value are visited to themselves within the limit. -/
theorem visitMap_toTree {ms : Members} (seen : List Str) (nodes : ℕ)
    (hnodup : (ms.map Prod.fst).Nodup) (hseen : ∀ k ∈ ms.map Prod.fst, k ∉ seen)
    (hms : strictMembers ms) (hmax : nodes + nodesMembers (toTreeMembers ms) ≤ maxJsonNodes) :
    visitMap (toTreeMembers ms) true seen nodes
      = (some ms, nodes + nodesMembers (toTreeMembers ms)) := by
  match ms with
  | [] => rfl
  | (key, v) :: rest =>
    simp only [toTreeMembers, nodesMembers] at hmax ⊢
    simp only [List.map_cons, List.nodup_cons, List.forall_mem_cons] at hnodup hseen
    have hv := visit_toTree nodes hms.1 (by omega)
    -- no later key is this one or one seen before it
    have hnew : ∀ k ∈ rest.map Prod.fst, k ∉ key :: seen := by
      intro k hk hmem
      rcases List.mem_cons.mp hmem with rfl | hmem
      · exact hnodup.1 hk
      · exact hseen.2 k hk hmem
    have hrest :=
      visitMap_toTree (key :: seen) (nodes + v.toTree.nodes) hnodup.2 hnew hms.2 (by omega)
    simp only [visitMap, if_neg hseen.1, hv, hrest, Nat.add_assoc]

end

/-! ### The whole document -/

/-- **`parseStrict`.**  A document is accepted exactly when it is the complete reading of a strict
    value within the node budget, and the result is that value. -/
theorem parseStrict_eq_ok {X : Externals} {bytes : Bytes} {v : Value} :
    parseStrict X bytes = .ok v ↔
      X.readJson bytes = ⟨v.toTree, true⟩ ∧ v.Strict ∧ v.toTree.nodes ≤ maxJsonNodes := by
  unfold parseStrict
  constructor
  · intro h
    split at h
    · split at h <;> simp at h
    · rename_i w used hvisit
      split at h
      · rename_i hended
        simp only [Except.ok.injEq] at h
        subst h
        obtain ⟨htree, hstrict, rfl, hmax⟩ := visit_sound hvisit
        refine ⟨?_, hstrict, ?_⟩
        · rw [← htree, ← hended]
        · rw [← htree]; omega
      · simp at h
  · intro h
    obtain ⟨hread, hstrict, hmax⟩ := h
    have hvisit := visit_toTree 0 hstrict (by omega)
    simp [hread, hvisit]

/-- `from_value` succeeds exactly where its decoder does. -/
@[simp] theorem fromValue_eq_ok {α : Type} {d : Decoder α} {v : Value} {a : α} :
    fromValue d v = .ok a ↔ d v = some a := okOr_eq_ok

/-- The only error of `from_value` is the JSON one. -/
@[simp] theorem fromValue_eq_error {α : Type} {d : Decoder α} {v : Value} {e : Error} :
    fromValue d v = .error e ↔ d v = none ∧ .parse .json = e := okOr_eq_error

/-! ### Which failure -/

/-- The visitor over what it meets: each node is charged, a repeated key ends the run. -/
def spend : List Event → ℕ → Bool × ℕ
  | [], nodes => (true, nodes)
  | .node :: rest, nodes =>
    if nodes + 1 > maxJsonNodes then (false, nodes + 1) else spend rest (nodes + 1)
  | .repeatedKey :: _, nodes => (false, nodes)

/-- Events are spent one list after the other. -/
theorem spend_append (es fs : List Event) (nodes : ℕ) :
    spend (es ++ fs) nodes =
      if (spend es nodes).1 then spend fs (spend es nodes).2 else (false, (spend es nodes).2) := by
  induction es generalizing nodes with
  | nil => rfl
  | cons e es ih =>
    cases e with
    | node =>
      rw [List.cons_append, spend, spend]
      by_cases hmax : nodes + 1 > maxJsonNodes
      · -- this node is over the budget
        rw [if_pos hmax, if_pos hmax]; rfl
      · rw [if_neg hmax, if_neg hmax, ih]
    | repeatedKey => rfl

mutual

/-- Over a reading without faults the visitor is that run, and rebuilds the tree if it succeeds. -/
theorem visit_eq_spend {t : Tree} (ht : t.Complete) (nodes : ℕ) :
    visit t nodes =
      (if (spend t.events nodes).1 then some t.toValue else none, (spend t.events nodes).2) := by
  -- every kind of value charges one node before anything else
  have hcharge (es : List Event) (k : Visit Value)
      (hk : k (nodes + 1) = (if (spend es (nodes + 1)).1 then some t.toValue else none,
        (spend es (nodes + 1)).2)) :
      charge k nodes = (if (spend (.node :: es) nodes).1 then some t.toValue else none,
        (spend (.node :: es) nodes).2) := by
    rw [charge, spend]
    by_cases hmax : nodes + 1 > maxJsonNodes
    · rw [if_pos hmax, if_pos hmax]; rfl
    · rw [if_neg hmax, if_neg hmax, hk]
  cases t with
  | bad => exact ht.elim
  | null => exact hcharge [] _ rfl
  | bool b => exact hcharge [] _ rfl
  | number n =>
    rw [visit]
    apply hcharge []
    rw [if_pos (show n.isFinite = true from ht)]
    rfl
  | string s => exact hcharge [] _ rfl
  | array items closed =>
    obtain ⟨rfl, hitems⟩ := ht
    rw [visit, Tree.events]
    apply hcharge (eventsItems items)
    simp only [visitSeq_eq_spend hitems (nodes + 1)]
    by_cases hrun : (spend (eventsItems items) (nodes + 1)).1
    · simp only [if_pos hrun]; rfl
    · simp only [if_neg hrun]
  | object members closed =>
    obtain ⟨rfl, hmembers⟩ := ht
    rw [visit, Tree.events]
    apply hcharge (eventsMembers members [])
    simp only [visitMap_eq_spend hmembers [] (nodes + 1)]
    by_cases hrun : (spend (eventsMembers members []) (nodes + 1)).1
    · simp only [if_pos hrun]; rfl
    · simp only [if_neg hrun]

/-- Visiting an array's elements spends their events. -/
theorem visitSeq_eq_spend {items : List Tree} (hitems : completeItems items) (nodes : ℕ) :
    visitSeq items true nodes =
      (if (spend (eventsItems items) nodes).1 then some (toValueItems items) else none,
        (spend (eventsItems items) nodes).2) := by
  cases items with
  | nil => rfl
  | cons t rest =>
    -- the rest is visited only when the first item leaves budget
    obtain ⟨ht, hrest⟩ := hitems
    simp only [visitSeq, eventsItems, spend_append, visit_eq_spend ht nodes]
    by_cases hrun : (spend t.events nodes).1
    · simp only [if_pos hrun, visitSeq_eq_spend hrest (spend t.events nodes).2]
      by_cases hrest' : (spend (eventsItems rest) (spend t.events nodes).2).1
      · simp only [if_pos hrest']; rfl
      · simp only [if_neg hrest']
    · simp only [if_neg hrun]; rfl

/-- Visiting an object's members spends their events. -/
theorem visitMap_eq_spend {members : List (Str × Tree)} (hmembers : completeMembers members)
    (seen : List Str) (nodes : ℕ) :
    visitMap members true seen nodes =
      (if (spend (eventsMembers members seen) nodes).1 then some (toValueMembers members) else none,
        (spend (eventsMembers members seen) nodes).2) := by
  match members with
  | [] => rfl
  | (key, t) :: rest =>
    obtain ⟨ht, hrest⟩ := hmembers
    simp only [visitMap, eventsMembers]
    -- a repeated key ends the run before its value is visited
    by_cases hkey : key ∈ seen
    · simp only [if_pos hkey]; rfl
    simp only [if_neg hkey, spend_append, visit_eq_spend ht nodes]
    by_cases hrun : (spend t.events nodes).1
    · simp only [if_pos hrun, visitMap_eq_spend hrest (key :: seen) (spend t.events nodes).2]
      by_cases hrest' : (spend (eventsMembers rest (key :: seen)) (spend t.events nodes).2).1
      · simp only [if_pos hrest']; rfl
      · simp only [if_neg hrest']
    · simp only [if_neg hrun]; rfl

end

/-- All is spent if no key is repeated and the nodes fit. -/
theorem spend_succeeds {es : List Event} {nodes : ℕ} (h : nodes ≤ maxJsonNodes) :
    (spend es nodes).1 = true ↔
      .repeatedKey ∉ es ∧ nodes + es.count .node ≤ maxJsonNodes := by
  induction es generalizing nodes with
  | nil => simp [spend, h]
  | cons e es ih =>
    cases e with
    | repeatedKey => simp [spend]
    | node =>
      rw [spend, List.count_cons_self]
      by_cases hmax : nodes + 1 > maxJsonNodes
      · rw [if_pos hmax]
        -- the budget ends at this node, which the count has in it
        simp only [Bool.false_eq_true, false_iff, not_and, not_le]
        intro _
        omega
      · rw [if_neg hmax, ih (by omega), List.mem_cons, not_or]
        have hnode : Event.repeatedKey ≠ .node := by decide
        constructor
        · intro ⟨hnot, hle⟩
          exact ⟨⟨hnode, hnot⟩, by omega⟩
        · intro ⟨⟨_, hnot⟩, hle⟩
          exact ⟨hnot, by omega⟩

/-- The limit is passed at a node with the limit's number of nodes before it. -/
theorem spend_exceeds {es : List Event} {nodes : ℕ} (h : nodes ≤ maxJsonNodes) :
    (spend es nodes).2 > maxJsonNodes ↔
      ∃ before after, es = before ++ .node :: after ∧ .repeatedKey ∉ before ∧
        nodes + before.count .node = maxJsonNodes := by
  induction es generalizing nodes with
  | nil => simp [spend, h]
  | cons e es ih =>
    cases e with
    | repeatedKey =>
      -- the run ends here with the counter as it was
      simp only [spend]
      constructor
      · intro hgt
        omega
      · intro h
        obtain ⟨before, after, heq, hnot, -⟩ := h
        cases before with
        | nil => simp at heq
        | cons e before =>
          obtain ⟨rfl, -⟩ := List.cons.inj heq
          exact absurd List.mem_cons_self hnot
    | node =>
      rw [spend]
      by_cases hmax : nodes + 1 > maxJsonNodes
      · -- this is the node past the budget
        rw [if_pos hmax]
        exact iff_of_true hmax ⟨[], es, rfl, List.not_mem_nil, by rw [List.count_nil]; omega⟩
      · rw [if_neg hmax, ih (by omega)]
        constructor
        · intro h
          obtain ⟨before, after, rfl, hnot, hcount⟩ := h
          refine ⟨.node :: before, after, rfl, by simpa using hnot, ?_⟩
          rw [List.count_cons_self]
          omega
        · intro h
          obtain ⟨before, after, heq, hnot, hcount⟩ := h
          cases before with
          | nil =>
            rw [List.count_nil] at hcount
            omega
          | cons e before =>
            obtain ⟨rfl, rfl⟩ := List.cons.inj heq
            rw [List.count_cons_self] at hcount
            exact ⟨before, after, rfl, fun hmem => hnot (List.mem_cons_of_mem _ hmem), by omega⟩

/-- A run that succeeds has not exhausted the budget. -/
theorem spend_le_of_succeeds {es : List Event} {nodes : ℕ} (h : nodes ≤ maxJsonNodes)
    (hrun : (spend es nodes).1 = true) : (spend es nodes).2 ≤ maxJsonNodes := by
  by_contra hgt
  obtain ⟨before, after, rfl, -, hcount⟩ := (spend_exceeds h).mp (not_le.mp hgt)
  have hle := ((spend_succeeds h).mp hrun).2
  rw [List.count_append, List.count_cons_self] at hle
  omega

/-- **Strict parsing, with its failures.**  On a text that is JSON and nothing else, `parseStrict`
    returns the tree read as maps exactly when no object repeats a key and the nodes are within the
    budget; it blames the budget exactly when that runs out before any key repeats. -/
theorem parseStrict_classifies {X : Externals} {bytes : Bytes} {t : Tree}
    (hread : X.readJson bytes = ⟨t, true⟩) (ht : t.Complete) :
    (∀ v, parseStrict X bytes = .ok v ↔
        (t.DistinctKeys ∧ t.nodes ≤ maxJsonNodes) ∧ v = t.toValue) ∧
      (parseStrict X bytes = .error (.resourceLimit (.tooManyJsonNodes maxJsonNodes)) ↔
        t.Exceeds maxJsonNodes) ∧
      (parseStrict X bytes = .error (.parse .json) ↔
        ¬ (t.DistinctKeys ∧ t.nodes ≤ maxJsonNodes) ∧ ¬ t.Exceeds maxJsonNodes) := by
  -- the run succeeds, or ends at the budget, or ends at a key
  have hok : (spend t.events 0).1 = true ↔ t.DistinctKeys ∧ t.nodes ≤ maxJsonNodes := by
    rw [spend_succeeds (Nat.zero_le _), repeatedKey_not_mem_events, count_events, Nat.zero_add]
  have hexceeds : (spend t.events 0).2 > maxJsonNodes ↔ t.Exceeds maxJsonNodes := by
    rw [spend_exceeds (Nat.zero_le _), Tree.Exceeds]
    simp only [Nat.zero_add]
  rw [parseStrict, hread]
  simp only [visit_eq_spend ht, ← hok, ← hexceeds]
  by_cases hrun : (spend t.events 0).1 = true
  · have hle := spend_le_of_succeeds (Nat.zero_le _) hrun
    simp [hrun, show ¬ (spend t.events 0).2 > maxJsonNodes by omega, eq_comm]
  · simp only [if_neg hrun]
    by_cases hgt : (spend t.events 0).2 > maxJsonNodes
    · simp [hrun, hgt]
    · simp [hrun, hgt]

/-! ### A document with a repeated key -/

/-- A member `a`, an array, and a second member `a`. -/
private def repeatedTree : Tree := .object
  [("a".toList, .number (.posInt 1)), ("b".toList, .array [.null] true),
    ("a".toList, .number (.posInt 2))] true

/-- An object that has the key `a` twice. -/
private def repeatedText : Bytes := utf8 "\x7b\"a\":1,\"b\":[null],\"a\":2\x7d".toList

/-- A reader that knows this text. -/
private def repeatedX : Externals := .ofTexts [(repeatedText, ⟨repeatedTree, true⟩)]

/-- The text is complete JSON, and its second `a` is refused. -/
theorem parseStrict_classifies_repeated :
    (∀ v, parseStrict repeatedX repeatedText = .ok v ↔
        (repeatedTree.DistinctKeys ∧ repeatedTree.nodes ≤ maxJsonNodes) ∧
          v = repeatedTree.toValue) ∧
      (parseStrict repeatedX repeatedText =
          .error (.resourceLimit (.tooManyJsonNodes maxJsonNodes)) ↔
        repeatedTree.Exceeds maxJsonNodes) ∧
      (parseStrict repeatedX repeatedText = .error (.parse .json) ↔
        ¬ (repeatedTree.DistinctKeys ∧ repeatedTree.nodes ≤ maxJsonNodes) ∧
          ¬ repeatedTree.Exceeds maxJsonNodes) :=
  parseStrict_classifies (readJson_ofTexts_head _ _ _)
    ⟨rfl, rfl, ⟨rfl, trivial, trivial⟩, rfl, trivial⟩

end AttestationVerify
