import Commissioning.Proofs.Json.Slots

set_option autoImplicit false

/-! # Records by their keys

A record of any number of keys is read from an object key by key: what it has at a key in the end is
what the member with that name means there, and a member with another name counts for nothing
(`Keys.Steps.foldlM_cases`). No key may stand twice in the object; other names may. -/

namespace Commissioning.Json

/-- The keys of a record whose state has a slot for each of them: the name of a key, what its slot
holds, and what a value means at the key. -/
structure Keys (κ σ : Type) where
  name : κ → String
  Held : κ → Type
  meaning : (k : κ) → Value → Option (Held k)
  get : (k : κ) → σ → Option (Held k)
  set : (k : κ) → σ → Held k → σ
  name_injective : Function.Injective name
  get_set_self : ∀ k s x, get k (set k s x) = some x
  get_set_of_ne : ∀ k k' s x, k' ≠ k → get k' (set k s x) = get k' s

namespace Keys

variable {κ σ : Type} (K : Keys κ σ)

/-- Whether no key stands twice among the members of an object. -/
def Once (pairs : List (String × Value)) : Prop :=
  ∀ k, (pairs.map Prod.fst).count (K.name k) ≤ 1

/-- Whether the slots of all keys are free that stand among the members of an object. -/
def Free (s : σ) (pairs : List (String × Value)) : Prop :=
  ∀ k, K.name k ∈ pairs.map Prod.fst → K.get k s = none

/-- What the slot of a key holds behind the members of an object, unless the one with its name means
nothing there. -/
def heldAfter (pairs : List (String × Value)) (s : σ) (k : κ) : Option (Option (K.Held k)) :=
  filled (K.meaning k) (K.get k s) (Value.member? (K.name k) pairs)

/-- Whether a member goes into the slot of its key, if that is free, and is passed over if its name
is no key. -/
structure Steps (step : σ → String × Value → Option σ) : Prop where
  atKey : ∀ k s v, K.get k s = none →
    step s (K.name k, v) = (K.meaning k v).map (K.set k s)
  elsewhere : ∀ s name v, (∀ k, K.name k ≠ name) → step s (name, v) = some s

variable {K} {step : σ → String × Value → Option σ} {name : String} {v : Value}
  {pairs : List (String × Value)}

theorem Once.tail (h : K.Once ((name, v) :: pairs)) : K.Once pairs := by
  intro k
  have hcount := h k
  rw [List.map_cons, List.count_cons] at hcount
  omega

/-- The name of the first member is none of the others if it is a key. -/
theorem Once.not_mem {k : κ} (h : K.Once ((K.name k, v) :: pairs)) :
    K.name k ∉ pairs.map Prod.fst := by
  have hcount := h k
  rw [List.map_cons, List.count_cons_self] at hcount
  exact List.count_eq_zero.mp (by omega)

theorem heldAfter_cons_of_ne {s : σ} {k : κ} (h : K.name k ≠ name) :
    K.heldAfter ((name, v) :: pairs) s k = K.heldAfter pairs s k := by
  unfold heldAfter
  rw [Value.member?_cons, if_neg (by simpa using h.symm), Option.or_none]

theorem heldAfter_cons_self {s : σ} {k : κ} (hfresh : K.name k ∉ pairs.map Prod.fst) :
    K.heldAfter ((K.name k, v) :: pairs) s k = (K.meaning k v).map some := by
  unfold heldAfter
  rw [Value.member?_cons, if_pos (beq_self_eq_true _), Value.member?_eq_none hfresh, Option.none_or]
  rfl

/-- A slot that has been filled from one member stays as it is behind the others. -/
theorem heldAfter_set_self {s : σ} {k : κ} (x : K.Held k)
    (hfresh : K.name k ∉ pairs.map Prod.fst) :
    K.heldAfter pairs (K.set k s x) k = some (some x) := by
  unfold heldAfter
  rw [Value.member?_eq_none hfresh, K.get_set_self]
  rfl

theorem heldAfter_set_of_ne {s : σ} {k k' : κ} (x : K.Held k) (h : k' ≠ k) :
    K.heldAfter pairs (K.set k s x) k' = K.heldAfter pairs s k' := by
  unfold heldAfter
  rw [K.get_set_of_ne k k' s x h]

/-- **A record is read key by key**, in whatever order the members stand: in the end every slot
holds what the member with its name means, or a key is refused. -/
theorem Steps.foldlM_cases (h : K.Steps step) (honce : K.Once pairs) {s : σ}
    (hfree : K.Free s pairs) :
    (∃ s', pairs.foldlM step s = some s' ∧ ∀ k, K.heldAfter pairs s k = some (K.get k s')) ∨
      (pairs.foldlM step s = none ∧ ∃ k, K.heldAfter pairs s k = none) := by
  induction pairs generalizing s with
  | nil => exact .inl ⟨s, rfl, fun _ => rfl⟩
  | cons pair pairs ih =>
    obtain ⟨name, v⟩ := pair
    rw [List.foldlM_cons]
    by_cases hkey : ∃ k, K.name k = name
    · obtain ⟨k, rfl⟩ := hkey
      have hfresh := honce.not_mem
      rw [h.atKey k s v (hfree k List.mem_cons_self)]
      cases hmeaning : K.meaning k v with
      | none => exact .inr ⟨rfl, k, by rw [heldAfter_cons_self hfresh, hmeaning]; rfl⟩
      | some x =>
        -- What is held in the end is the same with the slot filled and with the member still ahead.
        have hsame : ∀ k', K.heldAfter ((K.name k, v) :: pairs) s k'
            = K.heldAfter pairs (K.set k s x) k' := by
          intro k'
          by_cases hk : k' = k
          · subst hk
            rw [heldAfter_cons_self hfresh, hmeaning, heldAfter_set_self x hfresh, Option.map_some]
          · have hname : K.name k' ≠ K.name k := fun he => hk (K.name_injective he)
            rw [heldAfter_cons_of_ne hname, heldAfter_set_of_ne x hk]
        have hfree' : K.Free (K.set k s x) pairs := by
          intro k' hmem
          have hk : k' ≠ k := fun he => hfresh (he ▸ hmem)
          rw [K.get_set_of_ne k k' s x hk]
          exact hfree k' (List.mem_cons_of_mem _ hmem)
        simp only [hsame]
        exact ih honce.tail hfree'
    · have hname : ∀ k, K.name k ≠ name := fun k he => hkey ⟨k, he⟩
      rw [h.elsewhere s name v hname]
      simp only [heldAfter_cons_of_ne (hname _)]
      exact ih honce.tail fun k hmem => hfree k (List.mem_cons_of_mem _ hmem)

end Keys

end Commissioning.Json
