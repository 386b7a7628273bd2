import Commissioning.Proofs.Text.Utf8
import Mathlib.Data.List.Forall2

set_option autoImplicit false

/-! # What bytes are taken for

A text that is passed over is not checked for UTF-8, so what has been taken need not be a text at
all. It is taken for one that is mended: where the bytes are no UTF-8, some of those that are not
ASCII are question marks in it (`Mended`). -/

namespace Commissioning.Json

variable {alike : List UInt8 → List UInt8 → Prop}

/-- A relation between bytes and the text that they are taken for: it does not mind what stands in
front, provided that this is a text. -/
structure Likeness (alike : List UInt8 → List UInt8 → Prop) : Prop where
  refl : ∀ bytes, alike bytes bytes
  trans : ∀ {bytes text text'}, alike bytes text → alike text text' → alike bytes text'
  prepend : ∀ {front bytes text}, Text.IsUtf8 front → alike bytes text →
    alike (front ++ bytes) (front ++ text)

/-- Behind a text at the front more may be taken for something else. -/
theorem Likeness.behind (h : Likeness alike) {bytes front mid text : List UInt8}
    (hbytes : alike bytes (front ++ mid)) (hfront : Text.IsUtf8 front) (hmid : alike mid text) :
    alike bytes (front ++ text) :=
  h.trans hbytes (h.prepend hfront hmid)

theorem likeness_eq : Likeness Eq where
  refl _ := rfl
  trans := Eq.trans
  prepend _ h := congrArg _ h

/-! ## Bytes that are mended -/

/-- Whether a byte is taken for another one: for itself, or for a question mark if it is not
ASCII. -/
def IsTakenFor (b c : UInt8) : Prop :=
  c = b ∨ 0x80 ≤ b.toNat ∧ c = 63

theorem IsTakenFor.trans {a b c : UInt8} (h : IsTakenFor a b) (h' : IsTakenFor b c) :
    IsTakenFor a c := by
  rcases h with rfl | ⟨hhigh, rfl⟩
  · exact h'
  · rcases h' with rfl | ⟨hmark, -⟩
    · exact .inr ⟨hhigh, rfl⟩
    · exact absurd hmark (by decide)

theorem forall₂_isTakenFor_refl (bytes : List UInt8) : List.Forall₂ IsTakenFor bytes bytes :=
  List.forall₂_same.2 fun _ _ => .inl rfl

/-- Whether a text is what some bytes are taken for: the bytes themselves if they are UTF-8, and
otherwise the bytes with question marks for some that are not ASCII. -/
structure Mended (bytes text : List UInt8) : Prop where
  bytewise : List.Forall₂ IsTakenFor bytes text
  eq_of_isUtf8 : Text.IsUtf8 bytes → bytes = text

theorem mended_refl (bytes : List UInt8) : Mended bytes bytes :=
  ⟨forall₂_isTakenFor_refl bytes, fun _ => rfl⟩

theorem forall₂_isTakenFor_trans {bytes text text' : List UInt8}
    (h : List.Forall₂ IsTakenFor bytes text) (h' : List.Forall₂ IsTakenFor text text') :
    List.Forall₂ IsTakenFor bytes text' := by
  induction h generalizing text' with
  | nil => exact h'
  | cons hb _ ih =>
    cases h' with
    | cons hc hrest => exact .cons (hb.trans hc) (ih hrest)

theorem likeness_mended : Likeness Mended where
  refl := mended_refl
  trans h h' :=
    { bytewise := forall₂_isTakenFor_trans h.bytewise h'.bytewise
      eq_of_isUtf8 := fun hutf8 => by
        have heq := h.eq_of_isUtf8 hutf8
        exact heq.trans (h'.eq_of_isUtf8 (heq ▸ hutf8)) }
  prepend hfront h :=
    { bytewise := List.rel_append (forall₂_isTakenFor_refl _) h.bytewise
      eq_of_isUtf8 := fun hutf8 => congrArg _ (h.eq_of_isUtf8 (hutf8.rest hfront)) }

end Commissioning.Json
