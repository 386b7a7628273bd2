import Commissioning.Base64
import Commissioning.Proofs.Sequence
import Mathlib.Algebra.Group.Nat.Defs
import Mathlib.Tactic.Common

set_option autoImplicit false

/-! # The language and the value of Base64

A text is decoded exactly when it consists of symbols and a fitting number of padding signs
(`decode_eq_ok_iff`), and the bytes that come out are a prefix of the bits of the symbols
(`bits_regroup`). Encoding a byte sequence gives a text of that language, with all of its padding,
some of it or none, that decodes to the sequence again (`decode_of_isTextOf`). -/

namespace Commissioning.Base64

/-! ## Symbols -/

theorem sextet?_symbol {n : Nat} (h : n < 64) : sextet? (symbol n) = some n := by
  have hall : ∀ k : Fin 64, sextet? (symbol k) = some k.val := by decide
  exact hall ⟨n, h⟩

theorem eq_symbol_of_sextet? {b : UInt8} {n : Nat} (h : sextet? b = some n) : b = symbol n := by
  suffices hb : symbol n = UInt8.ofNat b.toNat by rw [hb, UInt8.ofNat_toNat]
  simp only [sextet?] at h
  split_ifs at h with h1 h2 h3 h4 h5 <;> simp only [Option.some.injEq] at h
  · rw [symbol, if_pos (by omega)]
    congr 1
    omega
  · rw [symbol, if_neg (by omega), if_pos (by omega)]
    congr 1
    omega
  · rw [symbol, if_neg (by omega), if_neg (by omega), if_pos (by omega)]
    congr 1
    omega
  · subst h
    rw [h4]
    rfl
  · subst h
    rw [h5]
    rfl

/-- The symbols are the sixty-four bytes with six bits of their own. -/
theorem sextet?_eq_some_iff {b : UInt8} {n : Nat} : sextet? b = some n ↔ n < 64 ∧ b = symbol n :=
  ⟨fun h => ⟨sextet?_lt h, eq_symbol_of_sextet? h⟩, fun ⟨hlt, hb⟩ => hb ▸ sextet?_symbol hlt⟩

theorem symbol_ne_pad {n : Nat} (h : n < 64) : symbol n ≠ pad := by
  intro heq
  have := sextet?_symbol h
  rw [heq, sextet?_pad] at this
  exact absurd this (by simp)

theorem sextetAt_symbol (offset : Nat) {n : Nat} (h : n < 64) :
    sextetAt offset (symbol n) = .ok n := by
  rw [sextetAt, sextet?_symbol h]

theorem sextetAt_eq_ok_iff {offset : Nat} {b : UInt8} {n : Nat} :
    sextetAt offset b = .ok n ↔ n < 64 ∧ b = symbol n := by
  rw [← sextet?_eq_some_iff, sextetAt]
  cases sextet? b <;> simp

/-! ## Written texts -/

/-- The text that writes six-bit values as symbols and ends in padding. -/
def written (values : List Nat) (pads : Nat) : List UInt8 :=
  values.map symbol ++ List.replicate pads pad

/-- The numbers of symbols and of padding signs that go together: the last group has two symbols
or more, and padding fills it up at most. -/
def Fits (symbols pads : Nat) : Prop :=
  symbols % 4 = 0 ∧ pads = 0 ∨ symbols % 4 = 2 ∧ pads ≤ 2 ∨ symbols % 4 = 3 ∧ pads ≤ 1

/-- The bytes of six-bit values: four values make three bytes, and the bits that are left over in
the end are dropped. -/
def regroup : List Nat → List UInt8
  | a :: b :: c :: d :: rest => bytesOfGroup a b c d ++ regroup rest
  | [a, b, c] => (bytesOfGroup a b c 0).take 2
  | [a, b] => (bytesOfGroup a b 0 0).take 1
  | [_] => []
  | [] => []

/-- The texts of the language: written texts that fit, with the bytes that they stand for. -/
def Denotes (text bytes : List UInt8) : Prop :=
  ∃ values pads, text = written values pads ∧ (∀ v ∈ values, v < 64) ∧
    Fits values.length pads ∧ bytes = regroup values

/-! ## The last group -/

theorem lastSextets_written (offset : Nat) (read values : List Nat) (pads : Nat)
    (hlt : ∀ v ∈ values, v < 64) (hpads : pads = 0 ∨ 2 ≤ read.length + values.length) :
    lastSextets offset read (written values pads) = .ok (read ++ values) := by
  induction values generalizing read with
  | nil =>
    cases pads with
    | zero => simp [written, lastSextets]
    | succ k =>
      have hread : ¬ read.length < 2 := by
        rcases hpads with hpads | hpads
        · exact absurd hpads (Nat.succ_ne_zero k)
        · simp only [List.length_nil] at hpads
          omega
      simp [written, lastSextets, List.replicate_succ, hread]
  | cons v values ih =>
    have hv : v < 64 := hlt v (by simp)
    have hrest := ih (read ++ [v]) (fun w hw => hlt w (by simp [hw]))
      (by simpa [Nat.add_comm, Nat.add_left_comm] using hpads)
    rw [written] at hrest ⊢
    simp only [List.map_cons, List.cons_append, lastSextets, symbol_ne_pad hv, if_false,
      sextetAt_symbol _ hv]
    simpa [bind, Except.bind] using hrest

/-- Whatever the last group is read as, it is a written text with these values. -/
theorem eq_written_of_lastSextets (offset : Nat) (read : List Nat) (group : List UInt8)
    (sextets : List Nat) (h : lastSextets offset read group = .ok sextets) :
    ∃ values pads, sextets = read ++ values ∧ group = written values pads ∧
      (∀ v ∈ values, v < 64) ∧ (pads = 0 ∨ 2 ≤ sextets.length) := by
  induction group generalizing read with
  | nil =>
    simp only [lastSextets, Except.ok.injEq] at h
    subst h
    exact ⟨[], 0, by simp, by simp [written], by simp, Or.inl rfl⟩
  | cons b rest ih =>
    simp only [lastSextets] at h
    split_ifs at h with hb hbad
    · -- the padding has begun, and nothing but padding is left
      simp only [Except.ok.injEq] at h
      subst h
      simp only [not_or, Nat.not_lt, not_not, List.all_eq_true, beq_iff_eq] at hbad
      refine ⟨[], rest.length + 1, by simp, ?_, by simp, Or.inr hbad.1⟩
      rw [written, List.map_nil, List.nil_append, List.replicate_succ, hb,
        ← List.eq_replicate_of_mem hbad.2]
    · cases hn : sextetAt (offset + read.length) b with
      | error fault => rw [hn] at h; exact absurd h (by simp [bind, Except.bind])
      | ok n =>
        rw [hn] at h
        obtain ⟨values, pads, hsextets, hrest, hlt, hpads⟩ := ih (read ++ [n]) h
        obtain ⟨hn64, hsymbol⟩ := sextetAt_eq_ok_iff.1 hn
        refine ⟨n :: values, pads, by simp [hsextets], ?_, ?_, hpads⟩
        · rw [hrest, hsymbol]
          rfl
        · intro v hv
          rcases List.mem_cons.1 hv with rfl | hv
          · exact hn64
          · exact hlt v hv

theorem length_written (values : List Nat) (pads : Nat) :
    (written values pads).length = values.length + pads := by
  simp [written]

/-- The bytes of a last group, once its values are known. -/
theorem decodeLast_eq (offset : Nat) (group : List UInt8) (values : List Nat)
    (h : lastSextets offset [] group = .ok values) (hlen : values.length ≤ 4)
    (hone : values.length ≠ 1) : decodeLast offset group = .ok (regroup values) := by
  rw [decodeLast, h]
  rcases values with _ | ⟨a, _ | ⟨b, _ | ⟨c, _ | ⟨d, _ | ⟨e, more⟩⟩⟩⟩⟩
  · rfl
  · exact absurd rfl hone
  · rfl
  · rfl
  · simp [bind, Except.bind, regroup]
  · simp only [List.length_cons] at hlen
    omega

theorem length_ne_one_of_decodeLast (offset : Nat) (group bytes : List UInt8) (values : List Nat)
    (h : lastSextets offset [] group = .ok values) (hok : decodeLast offset group = .ok bytes) :
    values.length ≠ 1 := by
  intro hone
  obtain ⟨a, rfl⟩ := List.length_eq_one_iff.1 hone
  rw [decodeLast, h] at hok
  exact absurd hok (by simp [bind, Except.bind])

/-- A group of at most four bytes is decoded exactly when it is a written text that fits. -/
theorem decodeLast_eq_ok_iff (offset : Nat) (group bytes : List UInt8) (hlen : group.length ≤ 4) :
    decodeLast offset group = .ok bytes ↔ Denotes group bytes := by
  constructor
  · intro h
    cases hs : lastSextets offset [] group with
    | error fault =>
      rw [decodeLast, hs] at h
      exact absurd h (by simp [bind, Except.bind])
    | ok sextets =>
      obtain ⟨values, pads, hsextets, hgroup, hlt, hpads⟩ :=
        eq_written_of_lastSextets offset [] group sextets hs
      rw [List.nil_append] at hsextets
      subst hsextets
      have hone := length_ne_one_of_decodeLast offset group bytes sextets hs h
      have htotal : sextets.length + pads ≤ 4 := by
        rw [← length_written, ← hgroup]
        exact hlen
      have hbytes := decodeLast_eq offset group sextets hs (by omega) hone
      rw [h, Except.ok.injEq] at hbytes
      exact ⟨sextets, pads, hgroup, hlt, by unfold Fits; omega, hbytes⟩
  · rintro ⟨values, pads, rfl, hlt, hfits, rfl⟩
    rw [length_written] at hlen
    have hpads : pads = 0 ∨ 2 ≤ values.length := by
      unfold Fits at hfits
      omega
    have hs := lastSextets_written offset [] values pads hlt (by simpa using hpads)
    exact decodeLast_eq offset _ values hs (by omega) (by unfold Fits at hfits; omega)

/-! ## Whole texts -/

theorem written_cons (v : Nat) (values : List Nat) (pads : Nat) :
    written (v :: values) pads = symbol v :: written values pads := rfl

theorem denotes_of_group {a b c d : Nat} {rest bytes : List UInt8} (ha : a < 64) (hb : b < 64)
    (hc : c < 64) (hd : d < 64) (h : Denotes rest bytes) :
    Denotes (symbol a :: symbol b :: symbol c :: symbol d :: rest)
      (bytesOfGroup a b c d ++ bytes) := by
  obtain ⟨values, pads, rfl, hlt, hfits, rfl⟩ := h
  refine ⟨a :: b :: c :: d :: values, pads, rfl, ?_, ?_, rfl⟩
  · intro v hv
    simp only [List.mem_cons] at hv
    rcases hv with rfl | rfl | rfl | rfl | hv
    · exact ha
    · exact hb
    · exact hc
    · exact hd
    · exact hlt v hv
  · simp only [Fits, List.length_cons] at hfits ⊢
    omega

/-- A text of more than four bytes that is in the language starts with four symbols. -/
theorem exists_group_of_denotes {x y z w e : UInt8} {rest bytes : List UInt8}
    (h : Denotes (x :: y :: z :: w :: e :: rest) bytes) :
    ∃ a b c d more, (a < 64 ∧ x = symbol a) ∧ (b < 64 ∧ y = symbol b) ∧ (c < 64 ∧ z = symbol c) ∧
      (d < 64 ∧ w = symbol d) ∧ Denotes (e :: rest) more ∧
      bytes = bytesOfGroup a b c d ++ more := by
  obtain ⟨values, pads, htext, hlt, hfits, rfl⟩ := h
  have hlen : rest.length + 5 = values.length + pads := by
    rw [← length_written, ← htext]
    rfl
  rcases values with _ | ⟨a, _ | ⟨b, _ | ⟨c, _ | ⟨d, values⟩⟩⟩⟩
  -- With fewer than four symbols, padding cannot make a text this long
  iterate 4
    · simp only [Fits, List.length_cons, List.length_nil] at hfits hlen
      omega
  · simp only [written_cons, List.cons.injEq] at htext
    obtain ⟨hx, hy, hz, hw, hrest⟩ := htext
    refine ⟨a, b, c, d, regroup values, ⟨hlt a (by simp), hx⟩, ⟨hlt b (by simp), hy⟩,
      ⟨hlt c (by simp), hz⟩, ⟨hlt d (by simp), hw⟩, ⟨values, pads, hrest, ?_, ?_, rfl⟩, rfl⟩
    · exact fun v hv => hlt v (by simp [hv])
    · simp only [Fits, List.length_cons] at hfits ⊢
      omega

/-- Groups of four symbols come before the last group, and a text of any length is decoded exactly
when it is in the language. -/
theorem decodeGroups_eq_ok_iff (offset : Nat) (text bytes : List UInt8) :
    decodeGroups offset text = .ok bytes ↔ Denotes text bytes := by
  fun_induction decodeGroups offset text generalizing bytes with
  | case1 offset x y z w e rest ih =>
    simp only [bind_eq_ok_iff, sextetAt_eq_ok_iff, ih, Except.ok.injEq]
    constructor
    · rintro ⟨a, ⟨ha, rfl⟩, b, ⟨hb, rfl⟩, c, ⟨hc, rfl⟩, d, ⟨hd, rfl⟩, more, hmore, rfl⟩
      exact denotes_of_group ha hb hc hd hmore
    · intro h
      obtain ⟨a, b, c, d, more, ha, hb, hc, hd, hmore, hbytes⟩ := exists_group_of_denotes h
      exact ⟨a, ha, b, hb, c, hc, d, hd, more, hmore, hbytes.symm⟩
  | case2 offset group hgroup =>
    refine decodeLast_eq_ok_iff offset group bytes ?_
    -- Five bytes would have been taken as a group of four and a rest
    by_contra hlen
    match group, hgroup, hlen with
    | a :: b :: c :: d :: e :: rest, hgroup, _ => exact hgroup a b c d e rest rfl
    | [], _, hlen | [_], _, hlen | [_, _], _, hlen | [_, _, _], _, hlen
    | [_, _, _, _], _, hlen => simp at hlen

/-- No text of the language ends in a stray byte. -/
theorem strayEnd?_of_denotes {text bytes : List UInt8} (h : Denotes text bytes) :
    strayEnd? text = none := by
  obtain ⟨values, pads, rfl, hlt, -, -⟩ := h
  have hmem : ∀ b ∈ written values pads, b = pad ∨ (sextet? b).isSome := by
    intro b hb
    rcases List.mem_append.1 hb with hb | hb
    · obtain ⟨v, hv, rfl⟩ := List.mem_map.1 hb
      exact Or.inr (by rw [sextet?_symbol (hlt v hv)]; rfl)
    · exact Or.inl (List.eq_of_mem_replicate hb)
  unfold strayEnd?
  split
  · split
    · next b hlast =>
      have hb := hmem b (List.mem_of_getLast? hlast)
      rw [if_neg]
      rintro ⟨hne, hnone⟩
      rcases hb with rfl | hsome
      · exact hne rfl
      · rw [Option.isNone_iff_eq_none] at hnone
        rw [hnone] at hsome
        exact absurd hsome (by simp)
    · rfl
  · rfl

/-- **The language of Base64.** A text is decoded to some bytes exactly when it is written with
symbols, a number of padding signs that fits, and these bytes as its value. -/
theorem decode_eq_ok_iff (text bytes : List UInt8) :
    decode text = .ok bytes ↔ Denotes text bytes := by
  unfold decode
  constructor
  · intro h
    cases hstray : strayEnd? text with
    | some fault =>
      rw [hstray] at h
      exact absurd h (by simp)
    | none =>
      rw [hstray] at h
      exact (decodeGroups_eq_ok_iff 0 text bytes).1 h
  · intro h
    rw [strayEnd?_of_denotes h]
    exact (decodeGroups_eq_ok_iff 0 text bytes).2 h

/-! ## Bits -/

/-- The lowest bits of a number, the highest of them first. -/
def bits : Nat → Nat → List Bool
  | 0, _ => []
  | width + 1, n => bits width (n / 2) ++ [n % 2 == 1]

@[simp] theorem length_bits (width n : Nat) : (bits width n).length = width := by
  induction width generalizing n with
  | zero => rfl
  | succ width ih => simp [bits, ih]

theorem bits_append (width low a b : Nat) (hb : b < 2 ^ low) :
    bits (width + low) (a * 2 ^ low + b) = bits width a ++ bits low b := by
  induction low generalizing b with
  | zero =>
    obtain rfl : b = 0 := by simpa using hb
    simp [bits]
  | succ low ih =>
    have hhalf : (a * 2 ^ (low + 1) + b) / 2 = a * 2 ^ low + b / 2 := by
      rw [Nat.pow_succ, ← Nat.mul_assoc]
      omega
    have hodd : (a * 2 ^ (low + 1) + b) % 2 = b % 2 := by
      rw [Nat.pow_succ, ← Nat.mul_assoc]
      omega
    have hlow : b / 2 < 2 ^ low := by
      rw [Nat.pow_succ] at hb
      omega
    rw [← Nat.add_assoc, bits, hhalf, hodd, ih (b / 2) hlow, bits, List.append_assoc]

/-- The bits of bytes, in their order. -/
def bitsOfBytes (bytes : List UInt8) : List Bool :=
  bytes.flatMap fun b => bits 8 b.toNat

/-- The bits of six-bit values, in their order. -/
def bitsOfValues (values : List Nat) : List Bool :=
  values.flatMap (bits 6)

/-- A number is determined by its bits. -/
theorem eq_of_bits_eq {width a b : Nat} (ha : a < 2 ^ width) (hb : b < 2 ^ width)
    (h : bits width a = bits width b) : a = b := by
  induction width generalizing a b with
  | zero =>
    simp only [Nat.pow_zero, Nat.lt_one_iff] at ha hb
    rw [ha, hb]
  | succ width ih =>
    rw [Nat.pow_succ] at ha hb
    obtain ⟨hhigh, hlow⟩ := List.append_inj h (by simp)
    have hhalf : a / 2 = b / 2 := ih (by omega) (by omega) hhigh
    have hodd : (a % 2 == 1) = (b % 2 == 1) := List.head_eq_of_cons_eq hlow
    have hiff : a % 2 = 1 ↔ b % 2 = 1 := by
      rw [← beq_iff_eq, ← beq_iff_eq (a := b % 2), hodd]
    omega

/-- Bytes are determined by their bits. -/
theorem eq_of_bitsOfBytes_eq {xs ys : List UInt8} (h : bitsOfBytes xs = bitsOfBytes ys) :
    xs = ys := by
  induction xs generalizing ys with
  | nil =>
    cases ys with
    | nil => rfl
    | cons y ys =>
      have hlen := congrArg List.length h
      simp only [bitsOfBytes, List.flatMap_cons, List.flatMap_nil, List.length_append, length_bits,
        List.length_nil] at hlen
      omega
  | cons x xs ih =>
    cases ys with
    | nil =>
      have hlen := congrArg List.length h
      simp only [bitsOfBytes, List.flatMap_cons, List.flatMap_nil, List.length_append, length_bits,
        List.length_nil] at hlen
      omega
    | cons y ys =>
      simp only [bitsOfBytes, List.flatMap_cons] at h
      obtain ⟨hfirst, hrest⟩ := List.append_inj h (by simp)
      have hbyte := eq_of_bits_eq x.toNat_lt y.toNat_lt hfirst
      rw [UInt8.toNat_inj.1 hbyte, ih hrest]

/-- The bits of four symbols are the bits of their three bytes: the second symbol and the third one
are cut where a byte ends. -/
theorem bitsOfBytes_bytesOfGroup {a b c d : Nat} (ha : a < 64) (hb : b < 64) (hc : c < 64)
    (hd : d < 64) : bitsOfBytes (bytesOfGroup a b c d) = bitsOfValues [a, b, c, d] := by
  have hfirst : bits 8 (a * 4 + b / 16) = bits 6 a ++ bits 2 (b / 16) :=
    bits_append 6 2 a (b / 16) (by omega)
  have hsecond : bits 8 (b % 16 * 16 + c / 4) = bits 4 (b % 16) ++ bits 4 (c / 4) :=
    bits_append 4 4 (b % 16) (c / 4) (by omega)
  have hthird : bits 8 (c % 4 * 64 + d) = bits 2 (c % 4) ++ bits 6 d :=
    bits_append 2 6 (c % 4) d (by omega)
  have hcutb : bits 6 b = bits 2 (b / 16) ++ bits 4 (b % 16) := by
    have happend := bits_append 2 4 (b / 16) (b % 16) (by omega)
    rwa [show b / 16 * 2 ^ 4 + b % 16 = b by omega] at happend
  have hcutc : bits 6 c = bits 4 (c / 4) ++ bits 2 (c % 4) := by
    have happend := bits_append 4 2 (c / 4) (c % 4) (by omega)
    rwa [show c / 4 * 2 ^ 2 + c % 4 = c by omega] at happend
  simp only [bitsOfBytes, bitsOfValues, bytesOfGroup, List.flatMap_cons, List.flatMap_nil]
  rw [UInt8.toNat_ofNat_of_lt' (show a * 4 + b / 16 < 256 by omega),
    UInt8.toNat_ofNat_of_lt' (show b % 16 * 16 + c / 4 < 256 by omega),
    UInt8.toNat_ofNat_of_lt' (show c % 4 * 64 + d < 256 by omega),
    hfirst, hsecond, hthird, hcutb, hcutc]
  simp only [List.append_assoc, List.append_nil]

theorem length_bitsOfValues (values : List Nat) :
    (bitsOfValues values).length = 6 * values.length := by
  induction values with
  | nil => rfl
  | cons v values ih =>
    rw [bitsOfValues, List.flatMap_cons, List.length_append, ← bitsOfValues, ih]
    simp only [length_bits, List.length_cons]
    omega

theorem bitsOfBytes_take (bytes : List UInt8) (count : Nat) :
    bitsOfBytes (bytes.take count) = (bitsOfBytes bytes).take (8 * count) := by
  induction bytes generalizing count with
  | nil => simp [bitsOfBytes]
  | cons b bytes ih =>
    cases count with
    | zero => simp [bitsOfBytes]
    | succ count =>
      have hlen : 8 * (count + 1) = (bits 8 b.toNat).length + 8 * count := by
        rw [length_bits]
        omega
      rw [bitsOfBytes, bitsOfBytes, List.take_succ_cons, List.flatMap_cons, List.flatMap_cons, hlen,
        List.take_length_add_append, ← bitsOfBytes, ← bitsOfBytes, ih]

theorem bitsOfValues_append (values more : List Nat) :
    bitsOfValues (values ++ more) = bitsOfValues values ++ bitsOfValues more :=
  List.flatMap_append

/-- A last group stands for the first bytes of a whole group, which zeros fill up. -/
theorem bitsOfBytes_lastGroup {a b c : Nat} (count : Nat) (values zeros : List Nat) (ha : a < 64)
    (hb : b < 64) (hc : c < 64) (hfill : [a, b, c, 0] = values ++ zeros)
    (hcount : 8 * count ≤ 6 * values.length) :
    bitsOfBytes ((bytesOfGroup a b c 0).take count) = (bitsOfValues values).take (8 * count) := by
  rw [bitsOfBytes_take, bitsOfBytes_bytesOfGroup ha hb hc (by omega), hfill, bitsOfValues_append,
    List.take_append_of_le_length (by rw [length_bitsOfValues]; exact hcount)]

/-- The bits of the bytes are those of the symbols, up to the last one that fills a byte. -/
theorem bits_regroup (values : List Nat) (hlt : ∀ v ∈ values, v < 64) :
    bitsOfBytes (regroup values) = (bitsOfValues values).take (8 * (3 * values.length / 4)) := by
  fun_induction regroup values with
  | case1 a b c d rest ih =>
    have hgroup := bitsOfBytes_bytesOfGroup (hlt a (by simp)) (hlt b (by simp)) (hlt c (by simp))
      (hlt d (by simp))
    have hlen : 8 * (3 * (a :: b :: c :: d :: rest).length / 4)
        = (bitsOfValues [a, b, c, d]).length + 8 * (3 * rest.length / 4) := by
      rw [length_bitsOfValues]
      simp only [List.length_cons, List.length_nil]
      omega
    rw [bitsOfBytes, List.flatMap_append, ← bitsOfBytes, ← bitsOfBytes, hgroup,
      ih fun v hv => hlt v (by simp [hv]), hlen]
    exact (List.take_length_add_append _).symm
  | case2 a b c =>
    have hcount : 3 * [a, b, c].length / 4 = 2 := by simp
    rw [hcount]
    exact bitsOfBytes_lastGroup 2 [a, b, c] [0] (hlt a (by simp)) (hlt b (by simp))
      (hlt c (by simp)) rfl (by simp)
  | case3 a b =>
    have hcount : 3 * [a, b].length / 4 = 1 := by simp
    rw [hcount]
    exact bitsOfBytes_lastGroup 1 [a, b] [0, 0] (hlt a (by simp)) (hlt b (by simp))
      (by omega) rfl (by simp)
  | case4 a => simp [bitsOfBytes]
  | case5 => rfl

theorem length_regroup (values : List Nat) :
    (regroup values).length = 3 * values.length / 4 := by
  fun_induction regroup values with
  | case1 a b c d rest ih =>
    simp only [bytesOfGroup, List.length_append, List.length_cons, List.length_nil, ih]
    omega
  | case2 a b c => simp [bytesOfGroup]
  | case3 a b => simp [bytesOfGroup]
  | case4 a => simp
  | case5 => rfl

/-! ## Encoding -/

/-- The six-bit values of a byte sequence; zeros fill up the last one. -/
def sextets : List UInt8 → List Nat
  | [] => []
  | [a] => [a.toNat / 4, a.toNat % 4 * 16]
  | [a, b] => [a.toNat / 4, a.toNat % 4 * 16 + b.toNat / 16, b.toNat % 16 * 4]
  | a :: b :: c :: rest =>
    a.toNat / 4 :: (a.toNat % 4 * 16 + b.toNat / 16) :: (b.toNat % 16 * 4 + c.toNat / 64)
      :: c.toNat % 64 :: sextets rest

/-- The padding signs behind a number of bytes. -/
def padding (size : Nat) : Nat :=
  (3 - size % 3) % 3

theorem padding_add_three (size : Nat) : padding (size + 3) = padding size := by
  simp only [padding]
  omega

theorem encode_eq_written (bytes : List UInt8) :
    encode bytes = written (sextets bytes) (padding bytes.length) := by
  fun_induction encode bytes with
  | case1 => rfl
  | case2 a => rfl
  | case3 a b => rfl
  | case4 a b c rest ih =>
    have hpadding : padding (a :: b :: c :: rest).length = padding rest.length :=
      padding_add_three rest.length
    rw [ih, sextets, hpadding]
    rfl

theorem sextets_lt (bytes : List UInt8) : ∀ v ∈ sextets bytes, v < 64 := by
  fun_induction sextets bytes with
  | case1 => simp
  | case2 a =>
    have := a.toNat_lt
    simp only [List.mem_cons, List.not_mem_nil, or_false]
    rintro v (rfl | rfl) <;> omega
  | case3 a b =>
    have := a.toNat_lt
    have := b.toNat_lt
    simp only [List.mem_cons, List.not_mem_nil, or_false]
    rintro v (rfl | rfl | rfl) <;> omega
  | case4 a b c rest ih =>
    have := a.toNat_lt
    have := b.toNat_lt
    have := c.toNat_lt
    simp only [List.mem_cons]
    rintro v (rfl | rfl | rfl | rfl | hv)
    iterate 4 omega
    exact ih v hv

theorem ofNat_eq_of_toNat (b : UInt8) {n : Nat} (h : n = b.toNat) : UInt8.ofNat n = b := by
  rw [h, UInt8.ofNat_toNat]

/-- Bytes survive being cut into six-bit values and put together again. -/
theorem regroup_sextets (bytes : List UInt8) : regroup (sextets bytes) = bytes := by
  fun_induction sextets bytes with
  | case1 => rfl
  | case2 a =>
    simp only [regroup, bytesOfGroup, List.take_succ_cons, List.take_zero]
    rw [ofNat_eq_of_toNat a (by omega)]
  | case3 a b =>
    have := b.toNat_lt
    simp only [regroup, bytesOfGroup, List.take_succ_cons, List.take_zero]
    rw [ofNat_eq_of_toNat a (by omega), ofNat_eq_of_toNat b (by omega)]
  | case4 a b c rest ih =>
    have := b.toNat_lt
    have := c.toNat_lt
    simp only [regroup, bytesOfGroup, List.cons_append, List.nil_append, ih]
    rw [ofNat_eq_of_toNat a (by omega), ofNat_eq_of_toNat b (by omega),
      ofNat_eq_of_toNat c (by omega)]

theorem fits_sextets (bytes : List UInt8) (pads : Nat) (h : pads ≤ padding bytes.length) :
    Fits (sextets bytes).length pads := by
  fun_induction sextets bytes with
  | case1 => simpa [Fits, padding] using h
  | case2 a => simpa [Fits, padding] using h
  | case3 a b => simpa [Fits, padding] using h
  | case4 a b c rest ih =>
    have hrest := ih (le_of_le_of_eq h (padding_add_three rest.length))
    simp only [Fits, List.length_cons] at hrest ⊢
    omega

/-- A text of a byte sequence: its encoding with all of its padding, some of it or none. -/
def IsTextOf (text bytes : List UInt8) : Prop :=
  (encode bytes).filter (· ≠ pad) <+: text ∧ text <+: encode bytes

/-- Every text of a byte sequence decodes to the sequence. -/
theorem decode_of_isTextOf {text bytes : List UInt8} (h : IsTextOf text bytes) :
    decode text = .ok bytes := by
  obtain ⟨⟨tail, rfl⟩, hpre⟩ := h
  have hfilter : (encode bytes).filter (· ≠ pad) = (sextets bytes).map symbol := by
    rw [encode_eq_written, written, List.filter_append, List.filter_eq_self.2,
      List.filter_eq_nil_iff.2, List.append_nil]
    · intro b hb
      simpa using List.eq_of_mem_replicate hb
    · intro b hb
      obtain ⟨v, hv, rfl⟩ := List.mem_map.1 hb
      simpa using symbol_ne_pad (sextets_lt bytes v hv)
  -- Behind the symbols there is room for padding only, and what is there is some of it
  rw [hfilter, encode_eq_written, written, List.prefix_append_right_inj,
    List.prefix_replicate_iff] at hpre
  rw [hfilter, hpre.2, decode_eq_ok_iff]
  exact ⟨sextets bytes, tail.length, rfl, sextets_lt bytes, fits_sextets bytes _ hpre.1,
    (regroup_sextets bytes).symm⟩

end Commissioning.Base64
