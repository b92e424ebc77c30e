import AttestationVerify.Sct
import AttestationVerify.Wire.Cursor

namespace AttestationVerify

open Wire Wire.Cursor

/-!
# The SCT list encoding

The TLS encoding of a `SignedCertificateTimestampList`, and the parser of `sct.rs` as its inverse.

* `encodeSctList` — lengths in two bytes around the list, each SCT, its extensions and signature;
* `decodes_take`, `parseScts_eq_ok` — what the cursor readers take, reader by reader;
* `parseSctList_codec` — the parser accepts exactly the encodings, and returns what was encoded.
-/

/-! ### Big-endian numbers -/

/-- A number is written in as many bytes as asked for. -/
@[simp] theorem length_toBeBytes (k n : ℕ) : (toBeBytes k n).length = k := by
  induction k generalizing n with
  | zero => rfl
  | succ k ih => rw [toBeBytes, List.length_append, ih, List.length_singleton]

/-- The last byte counts once, the others 256 times. -/
theorem fromBeBytes_append (b : Bytes) (x : UInt8) :
    fromBeBytes (b ++ [x]) = fromBeBytes b * 256 + x.toNat := by
  rw [fromBeBytes, List.foldl_append]
  rfl

/-- A number that fits is read back. -/
theorem fromBeBytes_toBeBytes {k n : ℕ} (h : n < 256 ^ k) : fromBeBytes (toBeBytes k n) = n := by
  induction k generalizing n with
  | zero =>
    obtain rfl : n = 0 := by simpa using h
    rfl
  | succ k ih =>
    have hhigh : n / 256 < 256 ^ k := by
      rw [pow_succ] at h
      exact Nat.div_lt_of_lt_mul (by rwa [Nat.mul_comm] at h)
    rw [toBeBytes, fromBeBytes_append, ih hhigh, UInt8.toNat_ofNat']
    omega

/-- Bytes are written back as they were. -/
theorem toBeBytes_fromBeBytes (b : Bytes) : toBeBytes b.length (fromBeBytes b) = b := by
  induction b using List.reverseRecOn with
  | nil => rfl
  | append_singleton b x ih =>
    have hx := x.toNat_lt
    rw [List.length_append, List.length_singleton, fromBeBytes_append, toBeBytes,
      show (fromBeBytes b * 256 + x.toNat) / 256 = fromBeBytes b by omega, ih]
    congr 2
    apply UInt8.toNat_inj.mp
    rw [UInt8.toNat_ofNat']
    omega

/-- A number is as small as its bytes are few. -/
theorem fromBeBytes_lt (b : Bytes) : fromBeBytes b < 256 ^ b.length := by
  induction b using List.reverseRecOn with
  | nil => decide
  | append_singleton b x ih =>
    have hx := x.toNat_lt
    rw [List.length_append, List.length_singleton, fromBeBytes_append, pow_succ]
    omega

/-! ### The readers -/

/-- Bytes stand for themselves. -/
theorem decodes_take (n : ℕ) : Decodes (take n) id fun b => b.length = n :=
  decodes_takeExactly sctInvalid n

/-- A byte stands for itself. -/
theorem decodes_takeU8 : Decodes takeU8 (fun x => [x]) fun _ => True := by
  intro cursor x rest
  rw [takeU8, (decodes_take 1).bind_eq_ok]
  simp only [pure_apply_eq_ok]
  constructor
  · intro h
    obtain ⟨b, hlength, cursor', rfl, rfl, rfl⟩ := h
    obtain ⟨y, rfl⟩ := List.length_eq_one_iff.mp hlength
    exact ⟨trivial, rfl⟩
  · intro h
    obtain ⟨-, rfl⟩ := h
    exact ⟨[x], rfl, rest, rfl, rfl, rfl⟩

/-- A number of `k` bytes. -/
def takeBe (k : ℕ) : Cursor ℕ := do
  let b ← take k
  pure (fromBeBytes b)

/-- A number stands in its bytes. -/
theorem decodes_takeBe (k : ℕ) : Decodes (takeBe k) (toBeBytes k) fun n => n < 256 ^ k := by
  intro cursor n rest
  rw [takeBe, (decodes_take k).bind_eq_ok]
  simp only [pure_apply_eq_ok]
  constructor
  · intro h
    obtain ⟨b, hlength, cursor', rfl, rfl, rfl⟩ := h
    -- the bytes are the number they read as
    have hlt := fromBeBytes_lt b
    have hback := toBeBytes_fromBeBytes b
    rw [hlength] at hlt hback
    exact ⟨hlt, by rw [hback]; rfl⟩
  · intro h
    obtain ⟨hn, rfl⟩ := h
    exact ⟨toBeBytes k n, length_toBeBytes k n, rest, rfl, fromBeBytes_toBeBytes hn, rfl⟩

/-- A 16-bit number stands in two bytes. -/
theorem decodes_takeU16 : Decodes takeU16 (toBeBytes 2) fun n => n < 2 ^ 16 := decodes_takeBe 2

/-- A 64-bit number stands in eight. -/
theorem decodes_takeU64 : Decodes takeU64 (fun x => toBeBytes 8 x.toNat) fun _ => True := by
  intro cursor x rest
  rw [takeU64, (decodes_take 8).bind_eq_ok]
  simp only [pure_apply_eq_ok]
  constructor
  · intro h
    obtain ⟨b, hlength, cursor', rfl, rfl, rfl⟩ := h
    have hlt := fromBeBytes_lt b
    have hback := toBeBytes_fromBeBytes b
    rw [hlength] at hlt hback
    refine ⟨trivial, ?_⟩
    rw [UInt64.toNat_ofNat_of_lt' hlt, hback]
    rfl
  · intro h
    obtain ⟨-, rfl⟩ := h
    refine ⟨toBeBytes 8 x.toNat, length_toBeBytes 8 _, rest, rfl, ?_, rfl⟩
    rw [fromBeBytes_toBeBytes x.toNat_lt, UInt64.ofNat_toNat]

/-- A digest stands for itself. -/
theorem decodes_takeArray32 : Decodes takeArray32 Octets.bytes fun _ => True := by
  intro cursor o rest
  rw [takeArray32, (decodes_take 32).bind_eq_ok]
  simp only [lift_apply_eq_ok, okOr_eq_ok, toOctets_eq_some]
  constructor
  · intro h
    obtain ⟨b, hlength, cursor', rfl, rfl, rfl⟩ := h
    exact ⟨trivial, rfl⟩
  · intro h
    obtain ⟨-, rfl⟩ := h
    exact ⟨o.bytes, o.length_eq, rest, rfl, rfl, rfl⟩

/-- A byte string under its length in `k` bytes. -/
def takeVectorOf (k : ℕ) : Cursor Bytes := do
  let n ← takeBe k
  take n

/-- A vector stands behind its length. -/
theorem decodes_takeVectorOf (k : ℕ) :
    Decodes (takeVectorOf k) (fun b => toBeBytes k b.length ++ b) fun b => b.length < 256 ^ k := by
  intro cursor b rest
  rw [takeVectorOf, (decodes_takeBe k).bind_eq_ok]
  constructor
  · rintro ⟨n, hn, cursor', rfl, h⟩
    obtain ⟨rfl, rfl⟩ := (decodes_take n _ _ _).mp h
    exact ⟨hn, (List.append_assoc _ _ _).symm⟩
  · rintro ⟨hb, rfl⟩
    refine ⟨b.length, hb, b ++ rest, List.append_assoc _ _ _, ?_⟩
    exact (decodes_take b.length _ _ _).mpr ⟨rfl, rfl⟩

/-- A vector with a 16-bit length stands behind it. -/
theorem decodes_takeVector :
    Decodes takeVector (fun b => toBeBytes 2 b.length ++ b) fun b => b.length < 2 ^ 16 :=
  decodes_takeVectorOf 2

/-! ### One SCT -/

/-- An SCT as RFC 6962 writes it. -/
def encodeSct (sct : ParsedSct) : Bytes :=
  [sct.version] ++ sct.logId.bytes ++ toBeBytes 8 sct.timestampMs.toNat ++
    (toBeBytes 2 sct.extensions.length ++ sct.extensions) ++ [sct.hashAlgorithm] ++
    [sct.signatureAlgorithm] ++ (toBeBytes 2 sct.signature.length ++ sct.signature)

/-- The lengths inside an SCT fit their prefixes. -/
def ParsedSct.Fits (sct : ParsedSct) : Prop :=
  sct.extensions.length < 2 ^ 16 ∧ sct.signature.length < 2 ^ 16

/-- An SCT is read back exactly as it was written. -/
theorem parseSingleSct_eq_ok {bytes : Bytes} {sct : ParsedSct} :
    parseSingleSct bytes = .ok sct ↔ sct.Fits ∧ bytes = encodeSct sct := by
  simp only [parseSingleSct, bind_eq_ok, ensure_eq_ok, pure_eq_ok, Prod.exists,
    decodes_takeU8.bind_eq_ok, decodes_takeArray32.bind_eq_ok, decodes_takeU64.bind_eq_ok,
    decodes_takeVector.bind_eq_ok, pure_apply_eq_ok, Except.ok.injEq]
  constructor
  · intro h
    obtain ⟨_, rest, ⟨version, -, _, rfl, logId, -, _, rfl, timestampMs, -, _, rfl, extensions,
      hextensions, _, rfl, hashAlgorithm, -, _, rfl, signatureAlgorithm, -, _, rfl, signature,
      hsignature, _, rfl, rfl, rfl⟩, _, rfl, rfl⟩ := h
    -- the fields in their order, with nothing left after the signature
    refine ⟨⟨hextensions, hsignature⟩, ?_⟩
    simp only [encodeSct, List.append_assoc, List.append_nil]
  · intro h
    obtain ⟨⟨hextensions, hsignature⟩, rfl⟩ := h
    refine ⟨sct, [], ⟨sct.version, trivial, _, ?_, sct.logId, trivial, _, rfl, sct.timestampMs,
      trivial, _, rfl, sct.extensions, hextensions, _, rfl, sct.hashAlgorithm, trivial, _, rfl,
      sct.signatureAlgorithm, trivial, _, rfl, sct.signature, hsignature, _, rfl, rfl, rfl⟩, (),
      rfl, rfl⟩
    simp only [encodeSct, List.append_assoc, List.append_nil]

/-! ### The list -/

/-- The SCTs of a list, each under its length. -/
def encodeScts (scts : List ParsedSct) : Bytes :=
  scts.flatMap fun sct => toBeBytes 2 (encodeSct sct).length ++ encodeSct sct

/-- A list of them, behind its length. -/
def encodeSctList (scts : List ParsedSct) : Bytes :=
  toBeBytes 2 (encodeScts scts).length ++ encodeScts scts

/-- Every length of the list fits its prefix. -/
structure FitsPrefixes (scts : List ParsedSct) : Prop where
  fields : ∀ sct ∈ scts, sct.Fits
  items : ∀ sct ∈ scts, (encodeSct sct).length < 2 ^ 16
  total : (encodeScts scts).length < 2 ^ 16

/-- Nothing is left, so no SCT is. -/
theorem parseScts_nil : parseScts [] = .ok [] := by
  rw [parseScts, if_pos rfl]

/-- Where something is left, one SCT comes first, in a vector. -/
theorem parseScts_of_ne {cursor : Bytes} {scts : List ParsedSct} (h : cursor ≠ []) :
    parseScts cursor = .ok scts ↔
      ∃ bytes cursor' sct rest, takeVector cursor = .ok (bytes, cursor') ∧
        parseSingleSct bytes = .ok sct ∧ parseScts cursor' = .ok rest ∧ scts = sct :: rest := by
  rw [parseScts, if_neg h]
  split
  · rename_i e hvector
    simp [hvector]
  · rename_i bytes cursor' hvector
    simp only [hvector, bind_eq_ok, pure_eq_ok, Except.ok.injEq, Prod.mk.injEq]
    constructor
    · intro h
      obtain ⟨sct, hsct, rest, hrest, rfl⟩ := h
      exact ⟨bytes, cursor', sct, rest, ⟨rfl, rfl⟩, hsct, hrest, rfl⟩
    · intro h
      obtain ⟨_, _, sct, rest, ⟨rfl, rfl⟩, hsct, hrest, rfl⟩ := h
      exact ⟨sct, hsct, rest, hrest, rfl⟩

/-- The loop takes encodings of SCTs to the end of the cursor. -/
theorem parseScts_eq_ok {cursor : Bytes} {scts : List ParsedSct} :
    parseScts cursor = .ok scts ↔
      ((∀ sct ∈ scts, sct.Fits) ∧ ∀ sct ∈ scts, (encodeSct sct).length < 2 ^ 16) ∧
        cursor = encodeScts scts := by
  induction scts generalizing cursor with
  | nil =>
    -- an empty cursor ends the loop, and encodes no SCT
    by_cases hnil : cursor = []
    · subst hnil
      simp [parseScts_nil, encodeScts]
    · simp [parseScts_of_ne hnil, encodeScts, hnil]
  | cons sct scts ih =>
    have hcons : encodeScts (sct :: scts) =
        toBeBytes 2 (encodeSct sct).length ++ encodeSct sct ++ encodeScts scts := rfl
    by_cases hnil : cursor = []
    · subst hnil
      have hne : [] ≠ encodeScts (sct :: scts) := by
        intro heq
        have hlength := congrArg List.length heq
        simp only [hcons, List.length_append, length_toBeBytes, List.length_nil] at hlength
        omega
      simp [parseScts_nil, hne]
    · rw [parseScts_of_ne hnil]
      simp only [List.cons.injEq, decodes_takeVector _ _ _, parseSingleSct_eq_ok,
        List.forall_mem_cons, hcons]
      constructor
      · intro h
        obtain ⟨_, _, _, _, ⟨hitem, rfl⟩, ⟨hfits, rfl⟩, hrest, rfl, rfl⟩ := h
        obtain ⟨⟨hfields, hitems⟩, rfl⟩ := ih.mp hrest
        exact ⟨⟨⟨hfits, hfields⟩, hitem, hitems⟩, rfl⟩
      · intro h
        obtain ⟨⟨⟨hfits, hfields⟩, hitem, hitems⟩, rfl⟩ := h
        exact ⟨_, _, sct, scts, ⟨hitem, rfl⟩, ⟨hfits, rfl⟩, ih.mpr ⟨⟨hfields, hitems⟩, rfl⟩, rfl,
          rfl⟩

/-- A list is read back exactly as it was written. -/
theorem parseSctList_eq_ok {bytes : Bytes} {scts : List ParsedSct} :
    parseSctList bytes = .ok scts ↔ FitsPrefixes scts ∧ encodeSctList scts = bytes := by
  simp only [parseSctList, bind_eq_ok, ensure_eq_ok, Prod.exists, decodes_takeU16 _ _ _,
    parseScts_eq_ok]
  constructor
  · intro h
    obtain ⟨_, _, ⟨hlt, rfl⟩, _, rfl, ⟨hfields, hitems⟩, rfl⟩ := h
    exact ⟨⟨hfields, hitems, hlt⟩, rfl⟩
  · intro h
    obtain ⟨hfits, rfl⟩ := h
    exact ⟨_, _, ⟨hfits.total, rfl⟩, (), rfl, ⟨hfits.fields, hfits.items⟩, rfl⟩

/-! ### The one error -/

/-- Taking bytes has the one error. -/
theorem failsOnly_take (n : ℕ) : FailsOnly (take n) sctInvalid := by
  intro cursor e h
  unfold take at h
  split at h
  · exact (Except.error.inj h).symm
  · exact nomatch h

/-- Taking a vector has the one error. -/
theorem failsOnly_takeVector : FailsOnly takeVector sctInvalid :=
  .bind (.bind (failsOnly_take 2) fun _ => .pure _ _) fun n => failsOnly_take n

/-- An SCT that is not read has that error. -/
theorem failsWith_parseSingleSct (bytes : Bytes) :
    FailsWith (· = sctInvalid) (parseSingleSct bytes) := by
  have hU8 : FailsOnly takeU8 sctInvalid := .bind (failsOnly_take 1) fun _ => .pure _ _
  have hU64 : FailsOnly takeU64 sctInvalid := .bind (failsOnly_take 8) fun _ => .pure _ _
  have hArray : FailsOnly takeArray32 sctInvalid :=
    .bind (failsOnly_take 32) fun _ => .lift fun e' he => (okOr_eq_error.mp he).2.symm
  unfold parseSingleSct
  refine .bind ?_ fun _ _ => .bind (failsWith_ensure rfl) fun _ _ => failsWith_ok _
  -- reader by reader, in the order of the fields
  refine FailsOnly.bind hU8 (fun _ => ?_) bytes
  refine .bind hArray fun _ => .bind hU64 fun _ => .bind failsOnly_takeVector fun _ => ?_
  exact .bind hU8 fun _ => .bind hU8 fun _ => .bind failsOnly_takeVector fun _ => .pure _ _

/-- Every turn of the loop takes some bytes, so the induction is on how many are left. -/
theorem failsWith_parseScts (cursor : Bytes) : FailsWith (· = sctInvalid) (parseScts cursor) := by
  induction hn : cursor.length using Nat.strong_induction_on generalizing cursor with
  | _ n ih =>
    subst hn
    rw [parseScts]
    split
    · exact failsWith_ok []
    · split
      · rename_i e hvector
        exact failsWith_error.mpr (failsOnly_takeVector cursor e hvector)
      · rename_i sctBytes cursor' hvector
        refine .bind (failsWith_parseSingleSct sctBytes) fun sct _ => ?_
        refine .bind (ih _ (takeVector_length_lt hvector) cursor' rfl) fun scts _ => ?_
        exact failsWith_ok (sct :: scts)

/-- Parsing a list has one error. -/
theorem failsWith_parseSctList (bytes : Bytes) :
    FailsWith (· = sctInvalid) (parseSctList bytes) := by
  unfold parseSctList
  refine .bind (FailsOnly.bind (failsOnly_take 2) (fun _ => .pure _ _) bytes) fun p _ => ?_
  exact .bind (failsWith_ensure rfl) fun _ _ => failsWith_parseScts p.2

/-- **The parser inverts the encoding.**  Encodings whose lengths fit are read back, whatever is
    read was encoded so, every other text is `SctInvalid`, and no reader takes more than is
    there. -/
theorem parseSctList_codec :
    (∀ scts, FitsPrefixes scts → parseSctList (encodeSctList scts) = .ok scts) ∧
      (∀ bytes scts, parseSctList bytes = .ok scts →
        FitsPrefixes scts ∧ encodeSctList scts = bytes) ∧
      (∀ bytes, (¬ ∃ scts, FitsPrefixes scts ∧ encodeSctList scts = bytes) →
        parseSctList bytes = .error sctInvalid) ∧
      ∀ n cursor b rest, take n cursor = .ok (b, rest) → b ++ rest = cursor ∧ b.length = n := by
  refine ⟨?_, ?_, ?_, ?_⟩
  · intro scts hfits
    exact parseSctList_eq_ok.mpr ⟨hfits, rfl⟩
  · intro bytes scts hok
    exact parseSctList_eq_ok.mp hok
  · intro bytes hnot
    cases hparse : parseSctList bytes with
    | ok scts => exact absurd ⟨scts, parseSctList_eq_ok.mp hparse⟩ hnot
    | error e => rw [failsWith_parseSctList bytes e hparse]
  · intro n cursor b rest htake
    obtain ⟨hcursor, hlength⟩ := take_eq_ok htake
    exact ⟨hcursor.symm, hlength⟩

end AttestationVerify
