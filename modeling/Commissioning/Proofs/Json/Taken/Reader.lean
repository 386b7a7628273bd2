import Commissioning.Proofs.Json.Reader
import Commissioning.Proofs.Text.Utf8
import Mathlib.Data.List.TakeWhile

set_option autoImplicit false

/-! # What has been taken

The converse of `Proofs.Json.Reader`: what the front of a byte sequence was when a step of a reader
has succeeded on it. -/

namespace Commissioning.Json

open Grammar

namespace Reader

variable {α β : Type}

/-! ## One reader after another -/

theorem bind_eq_ok {r : Reader α} {f : α → Reader β} {bytes rest : List UInt8} {b : β} :
    (r >>= f) bytes = .ok (b, rest) ↔
      ∃ a mid, r bytes = .ok (a, mid) ∧ f a mid = .ok (b, rest) := by
  show bind r f bytes = .ok (b, rest) ↔ _
  unfold bind
  cases hr : r bytes with
  | error fault => simp
  | ok pair =>
    obtain ⟨a, mid⟩ := pair
    simp

theorem pure_eq_ok {bytes rest : List UInt8} {a b : α} :
    (pure a : Reader α) bytes = .ok (b, rest) ↔ a = b ∧ bytes = rest := by
  rw [pure_apply, Except.ok.injEq, Prod.mk.injEq]

@[simp] theorem fail_apply (reason : Reason) (bytes : List UInt8) :
    (fail reason : Reader α) bytes = .error ⟨reason, bytes, true⟩ :=
  rfl

@[simp] theorem failAhead_apply (reason : Reason) (bytes : List UInt8) :
    (failAhead reason : Reader α) bytes = .error ⟨reason, bytes.tail, true⟩ :=
  rfl

@[simp] theorem failWhole_apply (reason : Reason) (bytes : List UInt8) :
    (failWhole reason : Reader α) bytes = .error ⟨reason, bytes, false⟩ :=
  rfl

/-! ## Single bytes -/

theorem eq_ofNat_of_charOfByte {b : UInt8} {c : Char} (h : charOfByte b = c) :
    b = UInt8.ofNat c.toNat := by
  rw [← h, ofNat_charOfByte]

theorem peek_eq_ok {bytes rest : List UInt8} {ahead : Option Char} :
    peek bytes = .ok (ahead, rest) ↔ ahead = bytes.head?.map charOfByte ∧ rest = bytes := by
  unfold peek
  rw [Except.ok.injEq, Prod.mk.injEq, eq_comm, eq_comm (a := bytes)]

theorem advance_eq_ok {bytes rest : List UInt8} :
    advance bytes = .ok ((), rest) ↔ rest = bytes.tail := by
  unfold advance
  rw [Except.ok.injEq, Prod.mk.injEq, eq_comm (a := bytes.tail)]
  exact and_iff_right rfl

theorem advance_bind_apply (f : Unit → Reader α) (bytes : List UInt8) :
    (advance >>= f) bytes = f () bytes.tail :=
  rfl

/-- A byte that has been looked at is there. -/
theorem exists_of_head? {bytes : List UInt8} {c : Char}
    (h : some c = bytes.head?.map charOfByte) : ∃ b rest, bytes = b :: rest ∧ charOfByte b = c := by
  cases bytes with
  | nil => exact absurd h (by simp)
  | cons b rest => exact ⟨b, rest, rfl, (Option.some.inj h).symm⟩

/-- A byte that has been recognised, and what is behind it. -/
theorem eq_cons_of_head? {bytes : List UInt8} {c : Char}
    (h : some c = bytes.head?.map charOfByte) : bytes = UInt8.ofNat c.toNat :: bytes.tail := by
  obtain ⟨b, rest, rfl, hb⟩ := exists_of_head? h
  rw [eq_ofNat_of_charOfByte hb]
  rfl

theorem next_eq_some {bytes rest : List UInt8} {c : Char} (h : next bytes = .ok (some c, rest)) :
    ∃ b, bytes = b :: rest ∧ charOfByte b = c := by
  unfold next at h
  rw [Except.ok.injEq, Prod.mk.injEq] at h
  obtain ⟨hhead, rfl⟩ := h
  obtain ⟨b, rest, rfl, hb⟩ := exists_of_head? hhead.symm
  exact ⟨b, rfl, hb⟩

theorem letters_eq_ok {cs : List Char} {bytes rest : List UInt8}
    (h : letters cs bytes = .ok ((), rest)) :
    bytes = cs.map (fun c => UInt8.ofNat c.toNat) ++ rest := by
  induction cs generalizing bytes with
  | nil =>
    rw [letters, pure_eq_ok] at h
    exact h.2
  | cons c cs ih =>
    rw [letters, bind_eq_ok] at h
    obtain ⟨ahead, mid, hnext, h⟩ := h
    split at h
    · exact absurd h (by simp)
    next d =>
      split at h
      next hd =>
        obtain ⟨b, rfl, hb⟩ := next_eq_some hnext
        rw [List.map_cons, List.cons_append, ← ih h, eq_ofNat_of_charOfByte (hb.trans hd)]
      next => exact absurd h (by simp)

theorem takeWhile_eq_ok {p : UInt8 → Bool} {bytes rest taken : List UInt8}
    (h : takeWhile p bytes = .ok (taken, rest)) :
    bytes = taken ++ rest ∧ ∀ b ∈ taken, p b = true := by
  unfold takeWhile at h
  rw [Except.ok.injEq, Prod.mk.injEq] at h
  obtain ⟨rfl, rfl⟩ := h
  exact ⟨List.takeWhile_append_dropWhile.symm, fun b hb => List.mem_takeWhile_imp hb⟩

/-! ## Blanks -/

theorem exists_blank {b : UInt8} (h : isBlank b = true) : ∃ blank : Blank, blank.byte = b := by
  simp only [isBlank, Bool.or_eq_true, beq_iff_eq] at h
  rcases h with ((rfl | rfl) | rfl) | rfl
  · exact ⟨.space, rfl⟩
  · exact ⟨.lineFeed, rfl⟩
  · exact ⟨.tab, rfl⟩
  · exact ⟨.carriageReturn, rfl⟩

theorem exists_blankBytes (bytes : List UInt8) :
    ∃ blanks, bytes = blankBytes blanks ++ bytes.dropWhile isBlank := by
  induction bytes with
  | nil => exact ⟨[], rfl⟩
  | cons b bytes ih =>
    rw [List.dropWhile_cons]
    split
    next hb =>
      obtain ⟨blank, rfl⟩ := exists_blank hb
      obtain ⟨blanks, hblanks⟩ := ih
      refine ⟨blank :: blanks, ?_⟩
      rw [blankBytes, List.map_cons, List.cons_append]
      exact congrArg _ hblanks
    next => exact ⟨[], rfl⟩

/-- What is ahead of a look behind the blanks is the next byte there. -/
theorem peekToken_eq_ok {bytes rest : List UInt8} {ahead : Option Char}
    (h : peekToken bytes = .ok (ahead, rest)) :
    ∃ blanks, bytes = blankBytes blanks ++ rest ∧ ahead = rest.head?.map charOfByte := by
  unfold peekToken skipBlanks at h
  obtain ⟨⟨⟩, mid, hskip, hpeek⟩ := bind_eq_ok.mp h
  rw [Except.ok.injEq, Prod.mk.injEq] at hskip
  obtain ⟨hahead, rfl⟩ := peek_eq_ok.mp hpeek
  obtain ⟨blanks, hblanks⟩ := exists_blankBytes bytes
  rw [hskip.2] at hblanks
  exact ⟨blanks, hblanks, hahead⟩

theorem isUtf8_blankBytes (blanks : List Blank) : Text.IsUtf8 (blankBytes blanks) := by
  induction blanks with
  | nil => exact Text.isUtf8_nil
  | cons b blanks ih => exact Text.isUtf8_cons (by cases b <;> decide) ih

end Reader

end Commissioning.Json
