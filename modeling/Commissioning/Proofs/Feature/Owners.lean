import Commissioning.Proofs.Feature.Registry
import Mathlib.Data.List.Induction

set_option autoImplicit false

/-! # Owners of views

A registration looks at the name of an area and not at its views, so a view may be declared by
several areas; the one that came first owns it (`ownerOf?_of_register`). A registry keeps its owners
apart exactly as long as the areas that it takes declare no view that has an owner already
(`ownersApart_afterAll_iff`), and an area that alone declares a view owns it whatever the order of
the areas is (`IsSoleOwner.ownerOf?`, `IsSoleOwner.perm`). -/

namespace Commissioning.FeatureRegistry

variable {r r' : FeatureRegistry} {a : FeatureArea} {view : String}

/-! ## Areas that declare a view -/

/-- Whether no view is declared by two areas. -/
def OwnersApart (r : FeatureRegistry) : Prop :=
  ∀ view, ∀ a ∈ r.areas, ∀ b ∈ r.areas, view ∈ a.declarations → view ∈ b.declarations → a = b

/-- Whether an area is the only one of a registry that declares a view. -/
structure IsSoleOwner (r : FeatureRegistry) (a : FeatureArea) (view : String) : Prop where
  mem : a ∈ r.areas
  declares : view ∈ a.declarations
  only : ∀ b ∈ r.areas, view ∈ b.declarations → b = a

theorem mem_of_ownerOf? (h : r.ownerOf? view = some a) : a ∈ r.areas ∧ view ∈ a.declarations :=
  ⟨List.mem_of_find?_eq_some h, by simpa [FeatureArea.declares] using List.find?_some h⟩

theorem ownerOf?_eq_none_iff : r.ownerOf? view = none ↔ ∀ a ∈ r.areas, view ∉ a.declarations := by
  unfold ownerOf?
  rw [List.find?_eq_none]
  simp [FeatureArea.declares]

theorem IsSoleOwner.ownerOf? (h : r.IsSoleOwner a view) : r.ownerOf? view = some a := by
  cases howner : r.ownerOf? view with
  | none => exact absurd h.declares (ownerOf?_eq_none_iff.mp howner a h.mem)
  | some b =>
    obtain ⟨hb, hview⟩ := mem_of_ownerOf? howner
    rw [h.only b hb hview]

/-- The order of the areas says nothing about an area that is the only one. -/
theorem IsSoleOwner.perm (h : r.IsSoleOwner a view) (hperm : r'.areas.Perm r.areas) :
    r'.IsSoleOwner a view where
  mem := hperm.mem_iff.mpr h.mem
  declares := h.declares
  only b hb hview := h.only b (hperm.mem_iff.mp hb) hview

/-- Where owners are kept apart, each is the only area that declares its view. -/
theorem OwnersApart.isSoleOwner (h : r.OwnersApart) (howner : r.ownerOf? view = some a) :
    r.IsSoleOwner a view := by
  obtain ⟨ha, hview⟩ := mem_of_ownerOf? howner
  exact ⟨ha, hview, fun b hb hb' => h view b hb a ha hb' hview⟩

/-! ## One registration -/

/-- A view keeps its owner, and one that has none gets the new area if that declares it. -/
theorem ownerOf?_of_register {next : FeatureRegistry} (h : r.register a = .ok next)
    (view : String) :
    next.ownerOf? view
      = (r.ownerOf? view).or (if view ∈ a.declarations then some a else none) := by
  unfold ownerOf?
  rw [areas_of_register h, List.find?_append, List.find?_singleton]
  simp [FeatureArea.declares]

/-- Owners stay apart if the new area declares no view that has an owner. -/
theorem ownersApart_append_iff (h : r.Takes a) : OwnersApart ⟨r.areas ++ [a]⟩ ↔
    r.OwnersApart ∧ ∀ view ∈ a.declarations, r.ownerOf? view = none := by
  constructor
  · intro hapart
    refine ⟨fun view b hb c hc => ?_, fun view hview => ownerOf?_eq_none_iff.mpr ?_⟩
    · exact hapart view b (List.mem_append_left _ hb) c (List.mem_append_left _ hc)
    · -- An owner would be the new area itself, but its name is new.
      intro b hb hview'
      have hsame := hapart view b (List.mem_append_left _ hb) a
        (List.mem_append_right _ List.mem_cons_self) hview' hview
      exact h.fresh b hb (congrArg FeatureArea.name hsame)
  · rintro ⟨hapart, hnew⟩ view b hb c hc hview hview'
    have hfree : ∀ d ∈ r.areas, view ∈ d.declarations → view ∉ a.declarations :=
      fun d hd hd' ha => ownerOf?_eq_none_iff.mp (hnew view ha) d hd hd'
    rcases List.mem_append.mp hb with hb | hb <;> rcases List.mem_append.mp hc with hc | hc
    · exact hapart view b hb c hc hview hview'
    · rw [List.mem_singleton.mp hc] at hview'
      exact absurd hview' (hfree b hb hview)
    · rw [List.mem_singleton.mp hb] at hview
      exact absurd hview (hfree c hc hview')
    · rw [List.mem_singleton.mp hb, List.mem_singleton.mp hc]

theorem ownersApart_after_iff (r : FeatureRegistry) (a : FeatureArea) : (r.after a).OwnersApart ↔
    r.OwnersApart ∧ (r.Takes a → ∀ view ∈ a.declarations, r.ownerOf? view = none) := by
  by_cases htakes : r.Takes a
  · obtain ⟨next, hnext⟩ := exists_register_eq_ok_iff.mpr htakes
    have hareas : r.after a = ⟨r.areas ++ [a]⟩ := by
      rw [after_of_ok hnext, ← areas_of_register hnext]
    rw [hareas, ownersApart_append_iff htakes]
    exact and_congr_right fun _ => ⟨fun h _ => h, fun h => h htakes⟩
  · obtain ⟨fault, hfault⟩ : ∃ fault, r.register a = .error fault := by
      cases hregister : r.register a with
      | error fault => exact ⟨fault, rfl⟩
      | ok next => exact absurd (exists_register_eq_ok_iff.mp ⟨next, hregister⟩) htakes
    rw [after_of_error hfault]
    exact (and_iff_left fun h => absurd h htakes).symm

/-! ## Registrations in turn -/

/-- Whether each of several areas that is taken in its turn declares only views that have no owner
by then. -/
def DeclareAnew (start : FeatureRegistry) (calls : List FeatureArea) : Prop :=
  ∀ before a, before ++ [a] <+: calls → (start.afterAll before).Takes a →
    ∀ view ∈ a.declarations, (start.afterAll before).ownerOf? view = none

theorem declareAnew_append_singleton_iff {start : FeatureRegistry} {calls : List FeatureArea} :
    DeclareAnew start (calls ++ [a]) ↔ DeclareAnew start calls ∧
      ((start.afterAll calls).Takes a →
        ∀ view ∈ a.declarations, (start.afterAll calls).ownerOf? view = none) := by
  unfold DeclareAnew
  simp only [List.prefix_concat_iff]
  constructor
  · intro h
    exact ⟨fun before b hbefore => h before b (Or.inr hbefore), h calls a (Or.inl rfl)⟩
  · rintro ⟨hcalls, hlast⟩ before b (hsame | hbefore)
    · obtain ⟨rfl, hb⟩ := List.append_inj' hsame rfl
      obtain rfl := (List.cons.inj hb).1
      exact hlast
    · exact hcalls before b hbefore

/-- **Owners are kept apart** exactly as long as no area is taken that declares a view with an
owner. -/
theorem ownersApart_afterAll_iff {start : FeatureRegistry} (hstart : start.OwnersApart)
    (calls : List FeatureArea) : (start.afterAll calls).OwnersApart ↔ DeclareAnew start calls := by
  induction calls using List.reverseRecOn with
  | nil => exact iff_of_true hstart fun before b hprefix => by simp at hprefix
  | append_singleton calls a ih =>
    have hafter : start.afterAll (calls ++ [a]) = (start.afterAll calls).after a :=
      List.foldl_concat after start a calls
    rw [hafter, ownersApart_after_iff, ih, declareAnew_append_singleton_iff]

theorem ownersApart_empty : OwnersApart empty :=
  fun _ _ ha => absurd ha List.not_mem_nil

theorem IsStart.ownersApart (h : r.IsStart) : r.OwnersApart := by
  rcases h with rfl | hbuiltin
  · exact ownersApart_empty
  · -- The registry of the tool has one area.
    have hareas : r.areas = [.advertisement] := areas_of_register hbuiltin
    intro view a ha b hb _ _
    rw [hareas, List.mem_singleton] at ha hb
    rw [ha, hb]

/-! ## The whole of it -/

/-- What is said of the owners of views in a registry that some registrations have led to. -/
structure Owned (start : FeatureRegistry) (calls : List FeatureArea) (r : FeatureRegistry) :
    Prop where
  /-- A valid area with a new name is taken whatever views it declares: those that have an owner
  keep it, and it owns the others. -/
  taken : ∀ a, a.validate = .ok () → (∀ b ∈ r.areas, b.name ≠ a.name) →
    ∃ next, r.register a = .ok next ∧ ∀ view, next.ownerOf? view
      = (r.ownerOf? view).or (if view ∈ a.declarations then some a else none)
  /-- The owner is the earliest of the areas that declare the view. -/
  earliest : ∀ view a, r.ownerOf? view = some a ↔ IsFirstOwner a view r.areas
  none_iff : ∀ view, r.ownerOf? view = none ↔ ∀ a ∈ r.areas, view ∉ a.declarations
  /-- No view is declared by two areas exactly when none has been taken that declares a view with
  an owner; then each owner is the only area that declares its view. -/
  apart_iff : r.OwnersApart ↔ DeclareAnew start calls
  sole_of_apart : r.OwnersApart → ∀ view a, r.ownerOf? view = some a ↔ r.IsSoleOwner a view
  /-- The only area that declares a view owns it, in whatever order the areas have come. -/
  owner_of_sole : ∀ view a, r.IsSoleOwner a view → ∀ other : FeatureRegistry,
    other.areas.Perm r.areas → other.ownerOf? view = some a

/-- **A view belongs to the first area that declares it**, and there are no others exactly when no
area has been taken that declares a view with an owner. -/
theorem owners_of_registrations {start : FeatureRegistry} (hstart : start.IsStart)
    (calls : List FeatureArea) : Owned start calls (start.afterAll calls) where
  taken a hvalid hfresh := by
    obtain ⟨next, hnext⟩ := exists_register_eq_ok_iff.mpr ⟨hvalid, hfresh⟩
    exact ⟨next, hnext, ownerOf?_of_register hnext⟩
  earliest view a := ownerOf?_eq_some_iff
  none_iff view := ownerOf?_eq_none_iff
  apart_iff := ownersApart_afterAll_iff hstart.ownersApart calls
  sole_of_apart hapart view a := ⟨hapart.isSoleOwner, IsSoleOwner.ownerOf?⟩
  owner_of_sole view a hsole other hperm := (hsole.perm hperm).ownerOf?

/-! ### A gate to two places -/

/-- An area with a gate of its own. -/
def hallArea : FeatureArea where
  name := "hall"
  declarations := ["gate", "stairs"]

/-- An area that shares the gate. -/
def yardArea : FeatureArea where
  name := "yard"
  declarations := ["gate"]

/-- The stairs belong to the hall in either order, although the gate has two areas. -/
theorem owners_of_registrations_hall :
    empty.IsStart ∧ Owned empty [hallArea, yardArea] (empty.afterAll [hallArea, yardArea]) ∧
      (empty.afterAll [yardArea, hallArea]).ownerOf? "stairs" = some hallArea ∧
      ¬ (empty.afterAll [hallArea, yardArea]).OwnersApart := by
  have howned := owners_of_registrations (Or.inl rfl) [hallArea, yardArea]
  have hareas : (empty.afterAll [hallArea, yardArea]).areas = [hallArea, yardArea] := by
    decide +kernel
  have hother : (empty.afterAll [yardArea, hallArea]).areas = [yardArea, hallArea] := by
    decide +kernel
  refine ⟨Or.inl rfl, howned, howned.owner_of_sole "stairs" hallArea ?_ _ ?_, ?_⟩
  · exact ⟨by rw [hareas]; decide, by decide, by rw [hareas]; decide⟩
  · rw [hareas, hother]
    exact List.Perm.swap hallArea yardArea []
  · intro hapart
    have hsame := hapart "gate" hallArea (by rw [hareas]; decide) yardArea (by rw [hareas]; decide)
      (by decide) (by decide)
    exact absurd hsame (by decide)

/-- A view with two areas that declare it: both are registered, and which of them owns it depends on
the order. -/
theorem gate_shared :
    let first := empty.afterAll [hallArea, yardArea]
    let second := empty.afterAll [yardArea, hallArea]
    first.areas = [hallArea, yardArea] ∧ "gate" ∈ hallArea.declarations ∧
      "gate" ∈ yardArea.declarations ∧ hallArea ≠ yardArea ∧
      first.ownerOf? "gate" = some hallArea ∧ second.ownerOf? "gate" = some yardArea := by
  decide +kernel

end Commissioning.FeatureRegistry
